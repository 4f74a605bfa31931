import Mathlib.Data.List.Nodup
import BelleSip.Http.Accounting

/-
This file proves when the cancellation of an HTTP request withdraws it and keeps the others.
-/

namespace BelleSip.Http

open Foundation Foundation.Selection

namespace ChannelContext

/-- The channel may send a request: it waits in the queue, or it is the current message. -/
def Carries (context : ChannelContext) (request : Request) : Prop :=
  request ∈ context.outgoingMessages ∨ context.curOutMessage = some request

/-- The work of a channel sends only what the channel carries, and takes nothing new. -/
structure Works (before after : ChannelContext) : Prop where
  number : after.number = before.number
  alive : after.alive = before.alive
  listed : after.listed = true → before.listed = true
  handed : ∃ more, after.handed = before.handed ++ more ∧ ∀ request ∈ more, before.Carries request
  carries : ∀ request, after.Carries request → before.Carries request

theorem Works.refl (context : ChannelContext) : Works context context :=
  ⟨rfl, rfl, id, ⟨[], by simp, by simp⟩, fun _ => id⟩

theorem Works.trans {first second third : ChannelContext} (early : Works first second)
    (late : Works second third) : Works first third where
  number := late.number.trans early.number
  alive := late.alive.trans early.alive
  listed := early.listed ∘ late.listed
  handed := by
    obtain ⟨some_requests, same, carried⟩ := early.handed
    obtain ⟨more, same', carried'⟩ := late.handed
    refine ⟨some_requests ++ more, by rw [same', same, List.append_assoc], fun request among => ?_⟩
    rcases List.mem_append.mp among with among | among
    · exact carried request among
    · exact early.carries request (carried' request among)
  carries request := early.carries request ∘ late.carries request

theorem Works.after {first second third : ChannelContext} (late : Works second third)
    (early : Works first second) : Works first third := early.trans late

/-- A change of other fields is work that sends nothing. -/
theorem Works.fields {before after : ChannelContext} (number : after.number = before.number)
    (alive : after.alive = before.alive) (listed : after.listed = true → before.listed = true)
    (handed : after.handed = before.handed) (outgoing : after.outgoingMessages = before.outgoingMessages)
    (current : after.curOutMessage = before.curOutMessage ∨ after.curOutMessage = none) :
    Works before after := by
  refine ⟨number, alive, listed, ⟨[], by simp [handed], by simp⟩, fun request carried => ?_⟩
  rcases carried with among | sending
  · exact .inl (outgoing ▸ among)
  · rcases current with same | none
    · exact .inr (same ▸ sending)
    · simp [none] at sending

variable (context : ChannelContext)

theorem enterState_works (state : ChannelState) : Works context (context.enterState state) := by
  unfold enterState
  split
  · exact .fields rfl rfl (by simp) rfl rfl (.inl rfl)
  · exact .fields rfl rfl id rfl rfl (.inl rfl)

theorem handleError_works : Works context context.handleError := by
  have reported : Works context
      (({ context with state := .error } : ChannelContext).doLater .invokeStateListenerDefered) :=
    .fields rfl rfl id rfl rfl (.inl rfl)
  unfold handleError
  split
  · split
    · next next_peer others _ _ =>
        have retried := enterState_works { context with currentPeer := next_peer :: others } .retry
        have moved : Works context { context with currentPeer := next_peer :: others } :=
          .fields rfl rfl id rfl rfl (.inl rfl)
        exact (moved.trans retried).trans (.fields rfl rfl id rfl rfl (.inl rfl))
    · exact reported
  · exact reported

theorem done_works : Works context context.done :=
  .fields rfl rfl id rfl rfl (.inr rfl)

theorem conclude_works (written : Written) : Works context (context.conclude written) := by
  cases written with
  | taken => exact done_works context
  | closed => exact done_works context
  | failed => exact (handleError_works context).trans (done_works _)
  | wouldBlock => exact .fields rfl rfl id rfl rfl (.inl rfl)

theorem sendHeaders_works (request : Request) (written : Written) :
    Works context (context.sendHeaders request written) := by
  unfold sendHeaders
  dsimp only
  split
  · exact (conclude_works _ written).after (.fields rfl rfl id rfl rfl (.inl rfl))
  · exact (done_works _).after (.fields rfl rfl id rfl rfl (.inl rfl))

theorem _sendMessage_works (activation : Activation) : Works context (context._sendMessage activation) := by
  unfold _sendMessage
  split
  · exact .refl _
  · next request current =>
      have begun : Works context { context with handed := context.handed ++ [request] } := by
        refine ⟨rfl, rfl, id, ⟨[request], rfl, fun other among => ?_⟩, fun _ => id⟩
        rw [List.mem_singleton.mp among]
        exact .inr current
      dsimp only
      split
      · exact begun
      · exact begun.trans ((handleError_works _).trans (done_works _))
      · exact begun.trans (done_works _)
      · split
        · exact begun.trans ((sendHeaders_works _ _ _).after (.fields rfl rfl id rfl rfl (.inl rfl)))
        · exact begun.trans ((conclude_works _ _).after (.fields rfl rfl id rfl rfl (.inl rfl)))

variable {context}

/-- The queue of a channel may be replaced by requests that an earlier state of it carries. -/
theorem Works.requeued {earlier : ChannelContext} (works : Works earlier context) {queue : List Request}
    (carried : ∀ request ∈ queue, earlier.Carries request) :
    Works earlier { context with outgoingMessages := queue } := by
  refine ⟨works.number, works.alive, works.listed, works.handed, fun request carries => ?_⟩
  rcases carries with among | sending
  · exact carried request among
  · exact works.carries request (.inr sending)

variable {request : Request}

/-- The message that leaves the queue becomes the current message. -/
theorem Works.sendMessage {earlier : ChannelContext} (works : Works earlier context) (carried : earlier.Carries request)
    (activation : Activation) :
    Works earlier (context.sendMessage request activation) := by
  refine (_sendMessage_works _ activation).after ⟨works.number, works.alive, works.listed, works.handed,
    fun other carries => ?_⟩
  rcases carries with among | sending
  · exact works.carries other (.inl among)
  · obtain rfl : request = other := by simpa using sending
    exact carried

theorem popOutgoing_works {earlier : ChannelContext} (queue : List Request) {activations : List Activation}
    {context : ChannelContext} (works : Works earlier context)
    (carried : ∀ request ∈ queue, earlier.Carries request) :
    Works earlier (popOutgoing queue activations context) := by
  induction queue generalizing activations context with
  | nil => exact works.requeued (by simp)
  | cons request rest ih =>
      have later : ∀ other ∈ rest, earlier.Carries other :=
        fun other among => carried other (List.mem_cons_of_mem _ among)
      have popped := works.requeued later
      rw [popOutgoing]
      split
      · exact ih (popped.sendMessage (carried request List.mem_cons_self) _) later
      · exact popped

theorem processQueue_works (context : ChannelContext) (activations : List Activation) :
    Works context (context.processQueue activations) := by
  have carried : ∀ request ∈ context.outgoingMessages, context.Carries request := fun _ => .inl
  unfold processQueue
  split
  · exact popOutgoing_works _ (_sendMessage_works context _) carried
  · exact popOutgoing_works _ (.refl _) carried

theorem connect_works (context : ChannelContext) (environment : Environment) :
    Works context (context.connect environment) := by
  unfold connect
  dsimp only
  split
  · exact enterState_works context _
  · exact (enterState_works context _).trans (handleError_works _)

theorem resDone_works (context : ChannelContext) (addresses : List Address) (environment : Environment) :
    Works context (context.resDone addresses environment) := by
  unfold resDone
  dsimp only
  split
  · exact (handleError_works _).after (.fields rfl rfl id rfl rfl (.inl rfl))
  · exact ((enterState_works _ _).trans (connect_works _ environment)).after
      (.fields rfl rfl id rfl rfl (.inl rfl))

theorem resolve_works (context : ChannelContext) (environment : Environment) :
    Works context (context.resolve environment) := by
  unfold resolve
  dsimp only
  split
  · exact (enterState_works context _).trans (.fields rfl rfl id rfl rfl (.inl rfl))
  · exact (enterState_works context _).trans (resDone_works _ _ environment)

theorem queueMessage_works (context : ChannelContext) (request : Request) (environment : Environment) :
    Works (context.pushOutgoing request) (context.queueMessage request environment) := by
  unfold queueMessage
  dsimp only
  split
  · exact resolve_works _ environment
  · split
    · exact processQueue_works _ environment.activations
    · exact .refl _

theorem handle_works (context : ChannelContext) (event : ChannelEvent) :
    Works context (context.handle event) := by
  cases event with
  | resolved addresses environment =>
      rw [handle]
      split
      · exact resDone_works context addresses environment
      · exact .refl _
  | connected environment =>
      rw [handle]
      split
      · exact (enterState_works context .ready).trans (processQueue_works _ environment.activations)
      · exact .refl _
  | connectFailed =>
      rw [handle]
      split
      · exact handleError_works context
      · exact .refl _
  | receiveFailed =>
      rw [handle]
      split
      · exact handleError_works context
      · exact .refl _
  | disconnected => exact enterState_works context .disconnected
  | writable environment =>
      rw [handle]
      split
      · exact processQueue_works context environment.activations
      · exact .refl _

theorem Works.count_eq {before after : ChannelContext} (works : Works before after) (free : ¬ before.Carries request) :
    after.handed.count request = before.handed.count request := by
  obtain ⟨more, same, carried⟩ := works.handed
  rw [same, List.count_append, List.count_eq_zero.mpr fun among => free (carried request among)]
  rfl

/-- The channel will not send the request: it does not carry it, or it does nothing any more. -/
def Mute (request : Request) (context : ChannelContext) : Prop :=
  context.alive = true →
    request ∉ context.outgoingMessages ∧ (context.curOutMessage = some request → context.Over)

theorem Mute.free {context : ChannelContext} (mute : context.Mute request) (alive : context.alive = true)
    (active : ¬ context.Over) : ¬ context.Carries request := by
  obtain ⟨unqueued, unsent⟩ := mute alive
  rintro (among | sending)
  · exact unqueued among
  · exact active (unsent sending)

theorem Mute.of_free {context : ChannelContext} (free : ¬ context.Carries request) :
    context.Mute request :=
  fun _ => ⟨fun among => free (.inl among), fun sending => absurd (.inr sending) free⟩

/-- A channel that does not carry the request works without it. -/
theorem Works.mute {before after : ChannelContext} (works : Works before after) (free : ¬ before.Carries request) :
    after.Mute request ∧ after.handed.count request = before.handed.count request :=
  ⟨.of_free fun carried => free (works.carries request carried), works.count_eq free⟩

end ChannelContext

open ChannelContext

/-- The application submits the request in this event. -/
def Event.submits (request : Request) : Event → Bool
  | .sendRequest other _ => other = request
  | .deferred _ _ again _ => request ∈ again
  | _ => false

namespace Provider

/-- The activations of `_send_message` for a request, on all channels. -/
def transmissions (provider : Provider) (request : Request) : Nat :=
  total (fun context => context.handed.count request) provider.contexts

/-- The channels are numbered, only those that exist are listed, and their output streams are sound. -/
structure Registered (provider : Provider) : Prop where
  numbers : provider.contexts.map ChannelContext.number = (List.range provider.created).reverse
  listed : ∀ context ∈ provider.contexts, context.listed = true → context.alive = true
  output : ∀ context ∈ provider.contexts, context.OutputSound

variable {provider : Provider} {request : Request} {context : ChannelContext} {change : ChannelContext → ChannelContext}
  {environments : List Environment} {number : Nat}

theorem Registered.modify (registered : provider.Registered)
    (same : ∀ context, (change context).number = context.number)
    (listed : ∀ context, (context.listed = true → context.alive = true) →
      (change context).listed = true → (change context).alive = true)
    (output : ∀ context, context.OutputSound → (change context).OutputSound) :
    (provider.modify number change).Registered where
  numbers := (map_modifyFirst fun context _ => same context).trans registered.numbers
  listed := forall_modifyFirst registered.listed fun context found =>
    listed context (registered.listed context (context_mem found))
  output := forall_modifyFirst registered.output fun context found =>
    output context (registered.output context (context_mem found))

theorem Registered.works (registered : provider.Registered) (number : Nat)
    (works : ∀ context, Works context (change context))
    (output : ∀ context, context.OutputSound → (change context).OutputSound) :
    (provider.modify number change).Registered :=
  registered.modify (fun context => (works context).number)
    (fun context alive listed => (works context).alive.trans (alive ((works context).listed listed))) output

theorem Registered.unique (registered : provider.Registered) {first second : ChannelContext}
    (present : first ∈ provider.contexts) (present' : second ∈ provider.contexts) (same : first.number = second.number)
    : first = second := by
  have distinct : (provider.contexts.map ChannelContext.number).Nodup := by
    rw [registered.numbers]
    exact List.nodup_reverse.mpr List.nodup_range
  exact List.inj_on_of_nodup_map distinct present present' same

theorem Registered.lt (registered : provider.Registered) (present : context ∈ provider.contexts) :
    context.number < provider.created := by
  have among := List.mem_map_of_mem (f := ChannelContext.number) present
  rw [registered.numbers] at among
  simpa using among

theorem sendRequest_registered (registered : provider.Registered) (request : Request) (environment : Environment) :
    (provider.sendRequest request environment).Registered := by
  have queued (context : ChannelContext) := queueMessage_works context request environment
  unfold sendRequest
  split
  · refine ⟨(map_modifyFirst fun context _ => (queued context).number).trans registered.numbers, ?_, ?_⟩
    · refine forall_modifyFirst registered.listed fun context found listed => ?_
      exact (queued context).alive.trans
        (registered.listed context (List.mem_of_find?_eq_some found) ((queued context).listed listed))
    · exact forall_modifyFirst registered.output fun context found =>
        queueMessage_output (registered.output context (List.mem_of_find?_eq_some found)) request environment
  · refine ⟨?_, fun context among listed => ?_, fun context among => ?_⟩
    · rw [List.map_cons, (queued _).number, registered.numbers, List.range_succ, List.reverse_append]
      rfl
    · rcases List.mem_cons.mp among with rfl | among
      · exact (queued _).alive
      · exact registered.listed context among listed
    · rcases List.mem_cons.mp among with rfl | among
      · exact queueMessage_output (.inl ⟨rfl, rfl⟩) request environment
      · exact registered.output context among

theorem reenqueue_registered (requests : List Request) (registered : provider.Registered) :
    (reenqueue requests environments provider).Registered := by
  induction requests generalizing environments provider with
  | nil => exact registered
  | cons request rest ih => exact ih (sendRequest_registered registered request _)

theorem popPending_works (cancelled : List Request) (response : Response) (context : ChannelContext) :
    Works context (popPending cancelled response context) := by
  unfold popPending
  split
  · exact .fields rfl rfl id rfl rfl (.inl rfl)
  · exact .fields rfl rfl id rfl rfl (.inl rfl)

theorem closeByForce_works (context : ChannelContext) : Works context (closeByForce context) := by
  rw [closeByForce_eq]
  exact .fields rfl rfl (by simp) rfl rfl (.inl rfl)

theorem takeDeferred_works (context : ChannelContext) (index : Nat) :
    Works context (context.takeDeferred index) :=
  .fields rfl rfl id rfl rfl (.inl rfl)

theorem notice_works (context : ChannelContext) (event : ChannelEvent) : Works context (context.notice event) := by
  cases event with
  | resolved | connectFailed | receiveFailed =>
      rw [notice]
      split <;> exact .fields rfl rfl id rfl rfl (.inl rfl)
  | connected | disconnected | writable => exact .refl _

theorem noticeResponse_works (context : ChannelContext) : Works context context.noticeResponse := by
  rw [noticeResponse]
  split <;> exact .fields rfl rfl id rfl rfl (.inl rfl)

theorem noticeRetry_works (index : Nat) (context : ChannelContext) : Works context (context.noticeRetry index) := by
  rw [noticeRetry]
  split <;> exact .fields rfl rfl id rfl rfl (.inl rfl)

theorem noticeResponse_output (sound : context.OutputSound) :
    context.noticeResponse.OutputSound := by
  rw [noticeResponse]
  split <;> exact sound

theorem popPending_output (cancelled : List Request) (response : Response) (sound : context.OutputSound) :
    (popPending cancelled response context).OutputSound := by
  rw [popPending]
  split <;> exact sound

theorem closeByForce_output (sound : context.OutputSound) :
    (closeByForce context).OutputSound := by
  rw [closeByForce_eq]
  exact sound

theorem answer_registered (registered : provider.Registered) (request : Request) (response : Response)
    (environment : Environment) :
    (provider.answer request response environment).Registered := by
  have counted (attempts : Request → Nat) :
      ({ provider with authAttemptCount := attempts } : Provider).Registered :=
    ⟨registered.numbers, registered.listed, registered.output⟩
  have told : (provider.report request).Registered :=
    ⟨registered.numbers, registered.listed, registered.output⟩
  unfold answer
  split
  · dsimp only
    split
    · exact sendRequest_registered (counted _) request environment
    · exact ⟨registered.numbers, registered.listed, registered.output⟩
  · exact told

theorem failed_registered (registered : provider.Registered) (number : Nat) (again : List Request) :
    (provider.modify number (failed again)).Registered :=
  registered.modify (fun _ => rfl) (fun _ alive listed => alive (Bool.and_eq_true_iff.mp listed).1) fun _ => id

theorem step_registered (registered : provider.Registered) (event : Event) :
    (provider.step event).Registered := by
  cases event with
  | sendRequest request environment =>
      have submitted : ({ provider with submitted := provider.submitted ++ [request] } : Provider).Registered :=
        ⟨registered.numbers, registered.listed, registered.output⟩
      exact sendRequest_registered submitted request environment
  | cancelRequest request environments =>
      have marked : ({ provider with cancelled := request :: provider.cancelled } : Provider).Registered :=
        ⟨registered.numbers, registered.listed, registered.output⟩
      change (provider.cancelRequest request environments).Registered
      unfold cancelRequest
      dsimp only
      split
      · exact marked
      · exact reenqueue_registered _ (marked.works _ closeByForce_works fun _ => closeByForce_output)
  | channel number event =>
      refine registered.works number (fun context => ?_) fun context sound => ?_
      · split
        · exact (notice_works context event).trans (handle_works _ event)
        · exact .refl _
      · split
        · exact handle_output ((notice_lives context event).outputSound sound) event
        · exact sound
  | response number response environment =>
      have noticed := registered.works number noticeResponse_works fun _ => noticeResponse_output
      change ((provider.modify number noticeResponse).handleResponse number response environment).Registered
      generalize provider.modify number noticeResponse = provider at noticed
      have popped := noticed.works number (popPending_works provider.cancelled response) fun _ =>
        popPending_output provider.cancelled response
      unfold handleResponse
      split
      · exact noticed
      · split
        · exact noticed
        · dsimp only
          split
          · exact popped
          · split
            · exact popped
            · exact answer_registered popped _ _ _
  | deferred number index again environment =>
      have noticed := registered.works number (noticeRetry_works index) fun context sound =>
        (noticeRetry_lives context index).outputSound sound
      change ((provider.modify number (noticeRetry index)).runDeferred number index again environment).Registered
      generalize provider.modify number (noticeRetry index) = provider at noticed
      have taken := noticed.works number (fun context => takeDeferred_works context index) fun _ => id
      unfold runDeferred
      split
      · exact noticed
      · next context found =>
          split
          · exact noticed
          · exact noticed.works number
              (fun context => (takeDeferred_works context index).trans (connect_works _ environment))
              fun context sound => (connect_lives (context.takeDeferred index) environment).outputSound sound
          · dsimp only
            split
            · have failed := failed_registered taken context.number again
              exact ⟨failed.numbers, failed.listed, failed.output⟩
            · exact taken.works number (fun other => enterState_works other other.state)
                fun other sound => enterState_output sound other.state
  | destroyed number =>
      refine registered.modify (fun context => ?_) (fun context alive => ?_) fun context sound => ?_
      · split <;> rfl
      · split
        · exact alive
        · next unreferenced =>
            intro listed
            have listed : context.listed = true := listed
            exact absurd (by simp [ChannelContext.referenced, alive listed, listed]) unreferenced
      · split <;> exact sound

theorem run_registered (events : List Event) : (Machine.run step {} events).Registered := by
  have initial : ({} : Provider).Registered := ⟨rfl, by simp, by simp⟩
  have preserved (provider : Provider) (event : Event) (registered : provider.Registered) :=
    step_registered registered event
  exact Machine.run_preserves preserved initial events

/-- The request is cancelled, and no channel will send it. -/
structure Quiet (request : Request) (provider : Provider) : Prop extends Registered provider where
  cancelled : request ∈ provider.cancelled
  mute : ∀ context ∈ provider.contexts, context.Mute request

/-- The event keeps the request quiet: nothing of it is sent. -/
def Hushed (request : Request) (before after : Provider) : Prop :=
  after.Quiet request ∧ after.transmissions request = before.transmissions request

theorem Hushed.trans {first second third : Provider} (early : Hushed request first second)
    (late : Hushed request second third) : Hushed request first third :=
  ⟨late.1, late.2.trans early.2⟩

theorem context_alive (found : provider.context number = some context) : context.alive = true := by
  have passes : isAt number context = true := List.find?_some found
  simp only [isAt, Bool.and_eq_true] at passes
  exact passes.2

theorem Quiet.modify (quiet : provider.Quiet request) (registered : (provider.modify number change).Registered)
    (changed : ∀ context, provider.context number = some context →
      (change context).Mute request ∧
        (change context).handed.count request = context.handed.count request) :
    Hushed request provider (provider.modify number change) := by
  refine ⟨⟨registered, quiet.cancelled, ?_⟩, ?_⟩
  · exact forall_modifyFirst quiet.mute fun context found => (changed context found).1
  · exact total_modifyFirst_same _ fun context found => (changed context found).2

/-- A change by work keeps the request quiet when it leaves a channel that is over as it is. -/
theorem Quiet.works (quiet : provider.Quiet request) (number : Nat) (works : ∀ context, Works context (change context))
    (output : ∀ context, context.OutputSound → (change context).OutputSound)
    (ended : ∀ context, provider.context number = some context → context.Over →
      (change context).Over ∧ (change context).outgoingMessages = context.outgoingMessages ∧
        (change context).handed = context.handed) :
    Hushed request provider (provider.modify number change) := by
  refine quiet.modify (quiet.toRegistered.works number works output) fun context found => ?_
  have mute := quiet.mute context (context_mem found)
  by_cases gone : context.Over
  · obtain ⟨after, outgoing, handed⟩ := ended context found gone
    refine ⟨fun _ => ⟨?_, fun _ => after⟩, by rw [handed]⟩
    rw [outgoing]
    exact (mute (context_alive found)).1
  · exact (works context).mute (mute.free (context_alive found) gone)

theorem sendRequest_hushed {request other : Request} (quiet : provider.Quiet request) (different : other ≠ request)
    (environment : Environment) :
    Hushed request provider (provider.sendRequest other environment) := by
  have registered := sendRequest_registered quiet.toRegistered other environment
  have queued (context : ChannelContext) (free : ¬ context.Carries request) :
      (context.queueMessage other environment).Mute request ∧
        (context.queueMessage other environment).handed.count request = context.handed.count request := by
    refine (queueMessage_works context other environment).mute fun carried => ?_
    rcases carried with among | sending
    · rcases List.mem_append.mp among with among | added
      · exact free (.inl among)
      · exact different (List.mem_singleton.mp added).symm
    · exact free (.inr sending)
  cases found : provider.contexts.find? (serves other.hop) with
  | none =>
      have fresh := queued (newClient provider.created other.hop) (by simp [Carries, newClient])
      simp only [sendRequest, found] at registered ⊢
      refine ⟨⟨registered, quiet.cancelled, fun context among => ?_⟩, ?_⟩
      · rcases List.mem_cons.mp among with rfl | among
        · exact fresh.1
        · exact quiet.mute context among
      · rw [transmissions, total_cons, fresh.2]
        simp [newClient, transmissions]
  | some context =>
      have present := List.mem_of_find?_eq_some found
      have listed := serves_listed (List.find?_some found)
      have free := (quiet.mute context present).free (quiet.listed context present listed)
        fun ended => by simp [ended.1] at listed
      simp only [sendRequest, found] at registered ⊢
      refine ⟨⟨registered, quiet.cancelled, forall_modifyFirst quiet.mute fun entry same => ?_⟩,
        total_modifyFirst_same _ fun entry same => ?_⟩
      all_goals obtain rfl : context = entry := by simpa [found] using same
      · exact (queued context free).1
      · exact (queued context free).2

theorem reenqueue_hushed (requests : List Request) (environments : List Environment) (quiet : provider.Quiet request)
    (absent : request ∉ requests) :
    Hushed request provider (reenqueue requests environments provider) := by
  induction requests generalizing environments provider with
  | nil => exact ⟨quiet, rfl⟩
  | cons other rest ih =>
      have different : other ≠ request := fun same => absurd List.mem_cons_self (same ▸ absent)
      have sent := sendRequest_hushed quiet different (environments.headD {})
      exact sent.trans (ih environments.tail sent.1 fun among => absent (List.mem_cons_of_mem _ among))

/-- What the provider notes beside its channels does not concern the request. -/
theorem Quiet.noted (quiet : provider.Quiet request) (after : Provider) (contexts : after.contexts = provider.contexts)
    (created : after.created = provider.created) (cancelled : request ∈ after.cancelled) :
    Hushed request provider after :=
  ⟨⟨⟨by rw [contexts, created]; exact quiet.numbers, by rw [contexts]; exact quiet.listed,
    by rw [contexts]; exact quiet.output⟩, cancelled,
    by rw [contexts]; exact quiet.mute⟩, by rw [transmissions, contexts]; rfl⟩

theorem cancelRequest_hushed (quiet : provider.Quiet request) (other : Request) (environments : List Environment) :
    Hushed request provider (provider.cancelRequest other environments) := by
  have marked := quiet.noted { provider with cancelled := other :: provider.cancelled } rfl rfl
    (List.mem_cons_of_mem _ quiet.cancelled)
  unfold cancelRequest
  dsimp only
  split
  · exact marked
  · next context located =>
      obtain ⟨number, _, found⟩ := Option.bind_eq_some_iff.mp located
      have absent := (quiet.mute context (context_mem found) (context_alive found)).1
      have closed := marked.1.works context.number closeByForce_works (fun _ => closeByForce_output)
        fun entry _ ended => by
          rw [closeByForce_eq]
          exact ⟨⟨rfl, ended.2.imp_right fun gone => ⟨rfl, gone.2⟩⟩, rfl, rfl⟩
      exact marked.trans (closed.trans (reenqueue_hushed _ environments closed.1 absent))

theorem answer_hushed {request other : Request} (quiet : provider.Quiet request) (different : other ≠ request)
    (response : Response) (environment : Environment) :
    Hushed request provider (provider.answer other response environment) := by
  have counted (attempts : Request → Nat) : Hushed request provider
      { provider with authAttemptCount := attempts } := quiet.noted _ rfl rfl quiet.cancelled
  unfold answer
  split
  · dsimp only
    split
    · exact (counted _).trans (sendRequest_hushed (counted _).1 different environment)
    · exact quiet.noted _ rfl rfl quiet.cancelled
  · exact quiet.noted _ rfl rfl quiet.cancelled

/-- The pending copy of a cancelled request takes its response silently. -/
theorem handleResponse_hushed (quiet : provider.Quiet request) (number : Nat) (response : Response)
    (environment : Environment) :
    Hushed request provider (provider.handleResponse number response environment) := by
  have popped := quiet.works number (popPending_works provider.cancelled response)
    (fun _ => popPending_output provider.cancelled response) fun context _ ended => by
      unfold popPending
      split
      · exact ⟨ended, rfl, rfl⟩
      · exact ⟨ended, rfl, rfl⟩
  unfold handleResponse
  split
  · exact ⟨quiet, rfl⟩
  · split
    · exact ⟨quiet, rfl⟩
    · dsimp only
      split
      · exact popped
      · next other rest _ =>
          split
          · exact popped
          · next kept =>
              have different : other ≠ request := fun same => kept (same ▸ quiet.cancelled)
              exact popped.trans (answer_hushed popped.1 different response environment)

theorem runDeferred_hushed (quiet : provider.Quiet request) (number index : Nat) {again : List Request}
    (absent : request ∉ again) (environment : Environment) :
    Hushed request provider (provider.runDeferred number index again environment) := by
  have taken := quiet.works number (fun context => takeDeferred_works context index) (fun _ => id)
    fun context _ ended => ⟨takeDeferred_over ended index, rfl, rfl⟩
  unfold runDeferred
  split
  · exact ⟨quiet, rfl⟩
  · next context found =>
      split
      · exact ⟨quiet, rfl⟩
      · next deferred =>
          refine quiet.works number (fun context => (takeDeferred_works context index).trans
            (connect_works _ environment)) (fun context sound =>
              (connect_lives (context.takeDeferred index) environment).outputSound sound) fun other same ended => ?_
          obtain rfl : context = other := by simpa [found] using same
          -- a channel with a connection to come is not over
          have among : DeferredTask.connectNext ∈ context.deferred := List.mem_of_getElem? deferred
          rcases ended.2 with none | ⟨_, still⟩
          · simp [none] at among
          · exact absurd ⟨fun none => by simp [none] at among, .inl among⟩ still
      · dsimp only
        split
        · have silent (other : ChannelContext) : request ∉ meanwhile other again := by
            unfold meanwhile
            split
            · simp
            · exact fun among => absent (List.mem_filter.mp among).1
          have registered := failed_registered taken.1.toRegistered context.number again
          have failed := taken.1.modify registered fun other found => by
            refine ⟨fun alive => ?_, rfl⟩
            obtain ⟨unqueued, unsent⟩ := taken.1.mute other (context_mem found) alive
            refine ⟨fun among => (List.mem_append.mp among).elim unqueued (silent other), fun sending => ?_⟩
            obtain ⟨unlisted, ended⟩ := unsent sending
            exact ⟨by simp [Provider.failed, unlisted], ended⟩
          exact taken.trans (failed.trans (failed.1.noted _ rfl rfl taken.1.cancelled))
        · exact taken.trans (taken.1.works number (fun other => enterState_works other other.state)
            (fun other sound => enterState_output sound other.state) fun other _ ended => by
              unfold enterState
              split
              · exact ⟨⟨rfl, ended.2⟩, rfl, rfl⟩
              · exact ⟨ended, rfl, rfl⟩)

theorem step_hushed (quiet : provider.Quiet request) (event : Event) (other : event.submits request = false) :
    Hushed request provider (provider.step event) := by
  cases event with
  | sendRequest submitted environment =>
      have different : submitted ≠ request := by simpa [Event.submits] using other
      have noted := quiet.noted { provider with submitted := provider.submitted ++ [submitted] } rfl rfl
        quiet.cancelled
      exact noted.trans (sendRequest_hushed noted.1 different environment)
  | cancelRequest cancelled environments => exact cancelRequest_hushed quiet cancelled environments
  | channel number event =>
      refine quiet.works number (fun context => ?_) (fun context sound => ?_) fun context _ ended => ?_
      · split
        · exact (notice_works context event).trans (handle_works _ event)
        · exact .refl _
      · split
        · exact handle_output ((notice_lives context event).outputSound sound) event
        · exact sound
      · split
        · next referenced =>
            rw [handle_over ended referenced]
            exact ⟨ended, rfl, rfl⟩
        · exact ⟨ended, rfl, rfl⟩
  | response number response environment =>
      have noticed := quiet.works number noticeResponse_works (fun _ => noticeResponse_output)
        fun context _ ended => by
          rw [noticeResponse]
          split <;> exact ⟨ended, rfl, rfl⟩
      exact noticed.trans (handleResponse_hushed noticed.1 number response environment)
  | deferred number index again environment =>
      have absent : request ∉ again := by simpa [Event.submits] using other
      have noticed := quiet.works number (noticeRetry_works index)
        (fun context sound => (noticeRetry_lives context index).outputSound sound) fun context _ ended => by
          rw [noticeRetry]
          split <;> exact ⟨ended, rfl, rfl⟩
      exact noticed.trans (runDeferred_hushed noticed.1 number index absent environment)
  | destroyed number =>
      refine quiet.modify (step_registered quiet.toRegistered (.destroyed number)) fun context found => ?_
      split
      · exact ⟨quiet.mute context (context_mem found), rfl⟩
      · exact ⟨fun alive => by simp at alive, rfl⟩

theorem run_hushed (quiet : provider.Quiet request) (events : List Event)
    (others : ∀ event ∈ events, event.submits request = false) :
    Hushed request provider (Machine.run step provider events) := by
  induction events generalizing provider with
  | nil => exact ⟨quiet, rfl⟩
  | cons event rest ih =>
      have first := step_hushed quiet event (others event List.mem_cons_self)
      exact first.trans (ih first.1 fun other among => others other (List.mem_cons_of_mem _ among))

/-- A channel of the list holds the request, sent or to be sent. -/
def HeldBy (provider : Provider) (number : Nat) (request : Request) : Prop :=
  ∃ context ∈ provider.contexts, context.number = number ∧ context.listed = true ∧
    request ∈ context.pendingRequests ++ context.outgoingMessages

/-- The cancelled request is sent by no channel afterwards, and every other request of its channel that was
not cancelled is queued on another channel of the list, which holds it. -/
structure Withdraws (provider : Provider) (request : Request) (environments : List Environment) : Prop where
  silent : ∀ events, (∀ event ∈ events, event.submits request = false) →
    (Machine.run step (provider.cancelRequest request environments) events).transmissions request =
      provider.transmissions request
  others : ∀ context ∈ (provider.channel request).bind provider.context, ∃ resent,
    (provider.cancelRequest request environments).queued = provider.queued ++ resent ∧
      ∀ other ∈ context.pendingRequests ++ context.outgoingMessages,
        other ∉ request :: provider.cancelled → ∃ number, number ≠ context.number ∧ (number, other) ∈ resent ∧
          (provider.cancelRequest request environments).HeldBy number other

/-- The request does not wait in a queue, the only channel that may still be sending it is its own, which
will not connect again, no other request of that channel waits for its response, and those that wait there to be sent
are sent without loss. -/
def Cancellable (provider : Provider) (request : Request) (environments : List Environment) : Prop :=
  (∀ context ∈ provider.contexts, context.alive = true →
    request ∉ context.outgoingMessages ∧
      (context.curOutMessage = some request →
        context.Over ∨ provider.channel request = some context.number ∧ ¬ context.Restarts)) ∧
    ∀ context ∈ (provider.channel request).bind provider.context,
      (∀ other ∈ context.pendingRequests, other ∈ request :: provider.cancelled ∨ other ∈ context.outgoingMessages) ∧
        ReenqueueSafe context.outgoingMessages environments
          ({ provider with cancelled := request :: provider.cancelled }.modify context.number closeByForce)

instance (provider : Provider) (request : Request) (environments : List Environment) :
    Decidable (provider.Cancellable request environments) :=
  inferInstanceAs (Decidable ((∀ _ ∈ _, _) ∧ ∀ _ ∈ _, _))

/-- After the closing of a channel every channel of its number is closed, and the others are as before. -/
theorem closed_contexts (registered : provider.Registered) (found : provider.context context.number = some context) :
    ∀ other ∈ (provider.modify context.number closeByForce).contexts,
      other = closeByForce context ∨ other ∈ provider.contexts ∧ other.number ≠ context.number := by
  have after := registered.works context.number closeByForce_works fun _ => closeByForce_output
  have again := context_modify found (closeByForce_works context).number (closeByForce_works context).alive
  intro other among
  by_cases same : other.number = context.number
  · exact .inl (after.unique among (context_mem again) (same.trans (closeByForce_works context).number.symm))
  · refine .inr ⟨?_, same⟩
    have origin : ∀ entry ∈ (provider.modify context.number closeByForce).contexts,
        entry ∈ provider.contexts ∨ entry = closeByForce context :=
      forall_modifyFirst (fun entry present => .inl present) fun entry located => by
        obtain rfl : context = entry := Option.some.inj (found.symm.trans located)
        exact .inr rfl
    refine (origin other among).resolve_right fun closed => same ?_
    rw [closed, (closeByForce_works context).number]

/-- The cancellation makes the request quiet. -/
theorem cancel_quiet (registered : provider.Registered) (cancellable : provider.Cancellable request environments) :
    (provider.cancelRequest request environments).Quiet request ∧
      (provider.cancelRequest request environments).transmissions request =
        provider.transmissions request := by
  obtain ⟨muted, _⟩ := cancellable
  have marked : ({ provider with cancelled := request :: provider.cancelled } : Provider).Registered :=
    ⟨registered.numbers, registered.listed, registered.output⟩
  unfold cancelRequest
  dsimp only
  split
  · next absent =>
      refine ⟨⟨marked, List.mem_cons_self, fun context among alive => ?_⟩, rfl⟩
      obtain ⟨unqueued, unsent⟩ := muted context among alive
      refine ⟨unqueued, fun sending => (unsent sending).resolve_right fun ⟨located, _⟩ => ?_⟩
      -- the channel of the request is there, so it would have been found
      have none : provider.contexts.find? (isAt context.number) = none := by
        have absent : (provider.channel request).bind provider.context = none := absent
        rw [located] at absent
        exact absent
      have fails := List.find?_eq_none.mp none context among
      simp [isAt, alive] at fails
  · next context located =>
      obtain ⟨number, channel, found⟩ := Option.bind_eq_some_iff.mp located
      obtain rfl := context_number found
      have own := muted context (context_mem found) (context_alive found)
      have registered' := marked.works context.number closeByForce_works fun _ => closeByForce_output
      have quiet : ({ provider with cancelled := request :: provider.cancelled }.modify context.number
          closeByForce).Quiet request := by
        refine ⟨registered', List.mem_cons_self, fun other among alive => ?_⟩
        rcases closed_contexts marked found other among with rfl | ⟨before, apart⟩
        · rw [closeByForce_eq]
          refine ⟨own.1, fun sending => ⟨rfl, ?_⟩⟩
          rcases own.2 sending with ended | ⟨_, still⟩
          · exact ended.2.imp_right fun gone => ⟨rfl, gone.2⟩
          · exact .inr ⟨rfl, still⟩
        · obtain ⟨unqueued, unsent⟩ := muted other before alive
          refine ⟨unqueued, fun sending => (unsent sending).resolve_right fun ⟨located, _⟩ => apart ?_⟩
          have channel : provider.channel request = some context.number := channel
          rw [channel] at located
          simpa using located.symm
      have sent := reenqueue_hushed context.outgoingMessages environments quiet own.1
      refine ⟨sent.1, sent.2.trans (total_modifyFirst_same _ fun other _ => ?_)⟩
      rw [closeByForce_eq]

/-- A channel that takes a request holds it beside those that it has held. -/
theorem queueMessage_holds (request : Request) (environment : Environment) (output : context.OutputSound)
    (safe : context.state = .ready → (context.pushOutgoing request).Flows environment.activations) {other : Request}
    (holding : other = request ∨ other ∈ context.pendingRequests ++ context.outgoingMessages) :
    other ∈ (context.queueMessage request environment).pendingRequests ++
      (context.queueMessage request environment).outgoingMessages := by
  refine ((queueMessage_moves request environment output safe).mem other).mpr ?_
  rw [pushOutgoing, ← List.append_assoc]
  rcases holding with rfl | held
  · exact List.mem_append_right _ (List.mem_singleton_self _)
  · exact List.mem_append_left _ held

/-- A request that is sent without loss is held by the channel that takes it, and what is held stays held. -/
theorem sendRequest_held (registered : provider.Registered) {environment : Environment}
    (safe : provider.SendSafe request environment) :
    ∃ target, (provider.sendRequest request environment).queued = provider.queued ++ [(target, request)] ∧
      (provider.sendRequest request environment).HeldBy target request ∧
      (∀ number other, provider.HeldBy number other → (provider.sendRequest request environment).HeldBy number other) ∧
      ∀ number < provider.created,
        (∀ context ∈ provider.contexts, context.number = number → context.listed = false) →
          target ≠ number ∧ number < (provider.sendRequest request environment).created ∧
            ∀ context ∈ (provider.sendRequest request environment).contexts,
              context.number = number → context.listed = false := by
  have works (context : ChannelContext) := queueMessage_works context request environment
  have listing (context : ChannelContext) (output : context.OutputSound)
      (flows : context.state = .ready → (context.pushOutgoing request).Flows environment.activations) :
      (context.queueMessage request environment).listed = context.listed :=
    (queueMessage_moves request environment output flows).listed
  cases found : provider.contexts.find? (serves request.hop) with
  | none =>
      have fresh : (newClient provider.created request.hop).OutputSound := .inl ⟨rfl, rfl⟩
      have initial : (newClient provider.created request.hop).state = .ready →
          ((newClient provider.created request.hop).pushOutgoing request).Flows environment.activations := by
        simp [newClient]
      have held := queueMessage_holds request environment fresh initial (.inl rfl)
      simp only [sendRequest, found]
      refine ⟨provider.created, rfl, ⟨_, List.mem_cons_self, (works _).number, listing _ fresh initial, held⟩, ?_, ?_⟩
      · rintro number other ⟨context, among, rest⟩
        exact ⟨context, List.mem_cons_of_mem _ among, rest⟩
      · intro number less closed
        refine ⟨by omega, by omega, fun context among same => ?_⟩
        rcases List.mem_cons.mp among with rfl | among
        · rw [(works _).number] at same
          change provider.created = number at same
          omega
        · exact closed context among same
  | some context =>
      have present := List.mem_of_find?_eq_some found
      have output := registered.output context present
      have flows := safe context found
      have open_end := serves_listed (List.find?_some found)
      have listed := (listing context output flows).trans open_end
      simp only [sendRequest, found]
      refine ⟨context.number, rfl, ⟨context.queueMessage request environment, changed_mem_modifyFirst found,
        (works context).number, listed, queueMessage_holds request environment output flows (.inl rfl)⟩, ?_, ?_⟩
      · rintro number other ⟨entry, among, numbered, listedEntry, held⟩
        rcases @mem_modifyFirst _ (serves request.hop) (·.queueMessage request environment) _ entry among with
          stays | ⟨isFound, changed⟩
        · exact ⟨entry, stays, numbered, listedEntry, held⟩
        · obtain rfl : context = entry := by simpa [found] using isFound
          exact ⟨_, changed, (works context).number.trans numbered, listed,
            queueMessage_holds request environment output flows (.inr held)⟩
      · intro number less closed
        have apart : context.number ≠ number := fun same => by
          simp [closed context present same] at open_end
        refine ⟨apart, less, forall_modifyFirst closed fun entry located same => ?_⟩
        obtain rfl : context = entry := by simpa [found] using located
        exact absurd ((works context).number.symm.trans same) apart

/-- Requests that are sent while a channel is closed go to other channels, which hold them. -/
theorem reenqueue_held (requests : List Request) (registered : provider.Registered)
    (safe : ReenqueueSafe requests environments provider) (created : number < provider.created)
    (closed : ∀ context ∈ provider.contexts, context.number = number → context.listed = false) :
    (∀ target other, provider.HeldBy target other →
        (reenqueue requests environments provider).HeldBy target other) ∧
      ∃ resent, (reenqueue requests environments provider).queued = provider.queued ++ resent ∧
        ∀ request ∈ requests, ∃ target, target ≠ number ∧ (target, request) ∈ resent ∧
          (reenqueue requests environments provider).HeldBy target request := by
  induction requests generalizing environments provider with
  | nil => exact ⟨fun _ _ => id, [], by simp [reenqueue], by simp⟩
  | cons request rest ih =>
      obtain ⟨first, later⟩ := safe
      obtain ⟨target, queued, held, kept, apart⟩ := sendRequest_held registered first
      obtain ⟨other, createdAfter, closedAfter⟩ := apart number created closed
      obtain ⟨keptAfter, resent, queuedAfter, heldAfter⟩ :=
        ih (sendRequest_registered registered request _) later createdAfter closedAfter
      refine ⟨fun place holding same => keptAfter place holding (kept place holding same), (target, request) :: resent,
        ?_, ?_⟩
      · rw [reenqueue, queuedAfter, queued, List.append_assoc]
        rfl
      · intro sent among
        rcases List.mem_cons.mp among with rfl | among
        · exact ⟨target, other, List.mem_cons_self, keptAfter target _ held⟩
        · obtain ⟨place, away, isResent, holding⟩ := heldAfter sent among
          exact ⟨place, away, List.mem_cons_of_mem _ isResent, holding⟩

theorem cancel_queued (registered : provider.Registered) (cancellable : provider.Cancellable request environments) :
    ∀ context ∈ (provider.channel request).bind provider.context, ∃ resent,
      (provider.cancelRequest request environments).queued = provider.queued ++ resent ∧
        ∀ other ∈ context.pendingRequests ++ context.outgoingMessages,
          other ∉ request :: provider.cancelled →
            ∃ number, number ≠ context.number ∧ (number, other) ∈ resent ∧
              (provider.cancelRequest request environments).HeldBy number other := by
  intro context located
  obtain ⟨answered, safe⟩ := cancellable.2 context located
  have location : (provider.channel request).bind provider.context = some context := located
  obtain ⟨number, channel, found⟩ := Option.bind_eq_some_iff.mp location
  obtain rfl := context_number found
  have marked : ({ provider with cancelled := request :: provider.cancelled } : Provider).Registered :=
    ⟨registered.numbers, registered.listed, registered.output⟩
  have closed : ∀ other ∈ ({ provider with cancelled := request :: provider.cancelled }.modify context.number
      closeByForce).contexts, other.number = context.number → other.listed = false := by
    intro other among same
    rcases closed_contexts marked found other among with rfl | ⟨_, apart⟩
    · rw [closeByForce_eq]
    · exact absurd same apart
  have created : context.number < ({ provider with cancelled := request :: provider.cancelled }.modify
      context.number closeByForce).created := registered.lt (context_mem found)
  obtain ⟨-, resent, queued, held⟩ := reenqueue_held context.outgoingMessages
    (marked.works context.number closeByForce_works fun _ => closeByForce_output) safe created closed
  have cancelled : provider.cancelRequest request environments = reenqueue context.outgoingMessages
      environments ({ provider with cancelled := request :: provider.cancelled }.modify context.number
        closeByForce) := by
    unfold cancelRequest
    dsimp only
    rw [show (provider.channel request).bind
      ({ provider with cancelled := request :: provider.cancelled } : Provider).context = some context from location]
  refine ⟨resent, by rw [cancelled, queued]; rfl, fun other among kept => ?_⟩
  have waiting : other ∈ context.outgoingMessages :=
    (List.mem_append.mp among).elim (fun pending => (answered other pending).resolve_left kept) id
  rw [cancelled]
  exact held other waiting

end Provider

end BelleSip.Http
