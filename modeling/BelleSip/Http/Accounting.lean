import BelleSip.Http.Failing

/-
This file proves when every request of the HTTP provider gets its response and is reported once.
-/

namespace BelleSip.Http

open Foundation Foundation.Selection

namespace ChannelContext

/-- The number of times that the channel holds a request. -/
def holds (context : ChannelContext) (request : Request) : Nat :=
  context.pendingRequests.count request + context.outgoingMessages.count request

/-- The responses were given to the requests that were sent, in order; the others are pending. -/
def Matched (context : ChannelContext) : Prop :=
  context.sent.map some = context.given ++ context.pendingRequests.map some

/-- Every request that the channel holds is cancelled. -/
def Spent (cancelled : List Request) (context : ChannelContext) : Prop :=
  ∀ request ∈ context.pendingRequests ++ context.outgoingMessages, request ∈ cancelled

/-- A deferred task keeps the channel, and the channel connects or may connect. -/
def Restarts (context : ChannelContext) : Prop :=
  context.deferred ≠ [] ∧ (.connectNext ∈ context.deferred ∨ context.resolving = true)

instance (context : ChannelContext) (cancelled : List Request) : Decidable (context.Spent cancelled) :=
  inferInstanceAs (Decidable (∀ _ ∈ _, _))

instance (context : ChannelContext) : Decidable context.Restarts := inferInstanceAs (Decidable (_ ∧ _))

/-- The provider has let the channel go, and the channel does nothing any more. -/
def Over (context : ChannelContext) : Prop :=
  context.listed = false ∧
    (context.deferred = [] ∨ context.state = .disconnected ∧ ¬ context.Restarts)

instance (context : ChannelContext) : Decidable context.Over := inferInstanceAs (Decidable (_ ∧ _))

/-- What holds of every channel between two events. -/
structure Sound (cancelled : List Request) (context : ChannelContext) : Prop where
  output : context.OutputSound
  matched : context.Matched
  answered : context.arrived = context.given.length
  listed : context.listed = true →
    context.alive = true ∧ context.forceClose = false ∧ context.state ≠ .disconnected
  hopeful : context.listed = true → context.Hopeful
  unlisted : context.listed = false → context.Spent cancelled ∨
    context.Over ∧ (context.forceClose = false ∨ ∀ request ∈ context.pendingRequests, request ∈ cancelled)

variable {context : ChannelContext} {before after : ChannelContext} {cancelled : List Request}

theorem Kept.holds_eq (kept : Kept before after) (request : Request) :
    after.holds request = before.holds request := by
  rw [holds, holds, kept.pending, kept.outgoing]

theorem Kept.matched (kept : Kept before after) (matched : before.Matched) :
    after.Matched := by
  rw [Matched, kept.sent, kept.given, kept.pending]
  exact matched

theorem drained_holds (context : ChannelContext) (request : Request) :
    (context.drained context.outgoingMessages).holds request = context.holds request := by
  simp [holds, drained]

theorem drained_matched (queue : List Request) (matched : context.Matched) :
    (context.drained queue).Matched := by
  rw [Matched, drained]
  simp only [List.map_append]
  rw [show context.sent.map some = _ from matched, List.append_assoc]

/-- An event moves requests within the channel only. -/
structure Moves (before after : ChannelContext) : Prop where
  listed : after.listed = before.listed
  alive : after.alive = before.alive
  forceClose : after.forceClose = before.forceClose
  holds_eq : ∀ request, after.holds request = before.holds request
  matched : before.Matched → after.Matched
  answered : before.arrived = before.given.length → after.arrived = after.given.length
  output : before.OutputSound → after.OutputSound
  connected : before.state ≠ .disconnected → after.state ≠ .disconnected

theorem Moves.refl (context : ChannelContext) : Moves context context :=
  ⟨rfl, rfl, rfl, fun _ => rfl, id, id, id, id⟩

theorem Moves.trans {first second third : ChannelContext} (early : Moves first second) (late : Moves second third) :
    Moves first third where
  listed := late.listed.trans early.listed
  alive := late.alive.trans early.alive
  forceClose := late.forceClose.trans early.forceClose
  holds_eq request := (late.holds_eq request).trans (early.holds_eq request)
  matched := late.matched ∘ early.matched
  answered := late.answered ∘ early.answered
  output := late.output ∘ early.output
  connected := late.connected ∘ early.connected

theorem Kept.answered (kept : Kept before after) (answered : before.arrived = before.given.length) :
    after.arrived = after.given.length := by
  rw [kept.arrived, kept.given, answered]

theorem Lives.moves (lives : Lives before after) : Moves before after :=
  ⟨lives.listed, lives.alive, lives.forceClose, lives.holds_eq, lives.toKept.matched, lives.toKept.answered,
    lives.outputSound, lives.connected⟩

theorem processQueue_moves {activations : List Activation} (flows : context.Flows activations)
    (sound : context.OutputSound) (ready : context.state = .ready) :
    Moves context (context.processQueue activations) := by
  obtain ⟨kept, output⟩ := processQueue_kept flows sound ready
  exact ⟨kept.listed, kept.alive, kept.forceClose,
    fun request => (kept.holds_eq request).trans (drained_holds context request),
    fun matched => kept.matched (drained_matched _ matched), kept.answered, fun _ => output, kept.connected⟩

theorem Moves.mem (moves : Moves before after) (request : Request) :
    request ∈ after.pendingRequests ++ after.outgoingMessages ↔
      request ∈ before.pendingRequests ++ before.outgoingMessages := by
  have same := moves.holds_eq request
  unfold holds at same
  rw [← List.count_append, ← List.count_append] at same
  rw [← List.count_pos_iff, ← List.count_pos_iff, same]

theorem Moves.spent (moves : Moves before after) (spent : before.Spent cancelled) : after.Spent cancelled :=
  fun request held => spent request ((moves.mem request).mp held)

/-- A listed or spent channel stays sound when its requests move. -/
theorem Sound.moves (sound : before.Sound cancelled) (moves : Moves before after)
    (hopeful : before.listed = true → after.Hopeful) (active : before.listed = true ∨ before.Spent cancelled) :
    after.Sound cancelled where
  output := moves.output sound.output
  matched := moves.matched sound.matched
  answered := moves.answered sound.answered
  hopeful listed := hopeful (moves.listed ▸ listed)
  listed listed := by
    rw [moves.listed] at listed
    obtain ⟨alive, unforced, connected⟩ := sound.listed listed
    exact ⟨moves.alive.trans alive, moves.forceClose.trans unforced, moves.connected connected⟩
  unlisted unlisted := by
    rw [moves.listed] at unlisted
    rcases active with listed | spent
    · simp [listed] at unlisted
    · exact .inl (moves.spent spent)

theorem Sound.mono {cancelled more : List Request} (sound : context.Sound cancelled)
    (grows : ∀ request ∈ cancelled, request ∈ more) :
    context.Sound more where
  output := sound.output
  matched := sound.matched
  answered := sound.answered
  listed := sound.listed
  hopeful := sound.hopeful
  unlisted unlisted := by
    rcases sound.unlisted unlisted with spent | ⟨ended, rest⟩
    · exact .inl fun request held => grows request (spent request held)
    · exact .inr ⟨ended, rest.imp_right fun all request held => grows request (all request held)⟩

/-- An event of the channel loses no request and announces none twice; what ends the channel without a word
finds it without a request that waits for an answer. -/
def Smooth (cancelled : List Request) (context : ChannelContext) : ChannelEvent → Prop
  | .resolved _ _ | .connectFailed | .receiveFailed => True
  | .connected environment => context.state = .connecting → context.Flows environment.activations
  | .disconnected => context.Spent cancelled
  | .writable environment => context.state = .ready → context.Flows environment.activations

instance (cancelled : List Request) (context : ChannelContext) :
    ∀ event, Decidable (context.Smooth cancelled event)
  | .resolved _ _ | .connectFailed | .receiveFailed => inferInstanceAs (Decidable True)
  | .connected _ | .writable _ => inferInstanceAs (Decidable (_ → _))
  | .disconnected => inferInstanceAs (Decidable (context.Spent cancelled))

/-- Nothing happens on a channel that is over. -/
theorem handle_over (ended : context.Over) (referenced : context.referenced = true) (event : ChannelEvent) :
    (context.notice event).handle event = context := by
  obtain ⟨unlisted, ended⟩ := ended
  have tasks : context.deferred ≠ [] := by
    intro none
    simp [ChannelContext.referenced, unlisted, none] at referenced
  obtain ⟨closed, quiet⟩ := ended.resolve_left tasks
  have resolved : context.resolving = false := by
    cases resolving : context.resolving with
    | false => rfl
    | true => exact absurd ⟨tasks, .inr resolving⟩ quiet
  cases event with
  | resolved addresses environment => simp [notice, handle, resolved]
  | connected environment => simp [notice, handle, closed]
  | connectFailed => simp [notice, handle, closed]
  | receiveFailed => simp [notice, handle, closed]
  | disconnected =>
      obtain ⟨⟩ := context
      simp only at closed unlisted
      subst closed unlisted
      simp [notice, handle, enterState]
  | writable environment => simp [notice, handle, closed]

/-- The events other than `disconnected` move requests within the channel. -/
theorem handle_moves {event : ChannelEvent} (output : context.OutputSound) (smooth : context.Smooth cancelled event)
    (other : event ≠ .disconnected) : Moves context (context.handle event) := by
  cases event with
  | resolved addresses environment =>
      rw [handle]
      split
      · exact (resDone_lives context addresses environment).moves
      · exact .refl _
  | connected environment =>
      rw [handle]
      split
      · next connecting =>
          have entered := enterState_lives context .ready (by simp)
          have flows : (context.enterState .ready).Flows environment.activations := by
            have flows := smooth connecting
            rw [enterState, if_neg (by simp)]
            exact flows
          have ready : (context.enterState .ready).state = .ready := by simp [enterState]
          have moved := processQueue_moves flows (entered.outputSound output) ready
          exact entered.moves.trans moved
      · exact .refl _
  | connectFailed =>
      rw [handle]
      split
      · exact (handleError_lives context).moves
      · exact .refl _
  | receiveFailed =>
      rw [handle]
      split
      · exact (handleError_lives context).moves
      · exact .refl _
  | disconnected => exact absurd rfl other
  | writable environment =>
      rw [handle]
      split
      · next ready => exact processQueue_moves (smooth ready) output ready
      · exact .refl _

/-- The number of times that a channel of the provider holds a request. -/
def load (request : Request) (context : ChannelContext) : Nat :=
  if context.listed then context.holds request else 0

theorem Spent.holds_eq (spent : context.Spent cancelled) {request : Request} (kept : request ∉ cancelled) :
    context.holds request = 0 := by
  have absent : request ∉ context.pendingRequests ++ context.outgoingMessages :=
    fun held => kept (spent request held)
  rw [holds, ← List.count_append, List.count_eq_zero.mpr absent]

theorem Moves.load_eq (moves : Moves before after) (request : Request) :
    after.load request = before.load request := by
  rw [load, load, moves.listed, moves.holds_eq]

/-- The provider lets a channel go when it is disconnected; whatever the channel still holds was cancelled. -/
theorem disconnect_sound (sound : context.Sound cancelled) (spent : context.Spent cancelled) :
    (context.enterState .disconnected).Sound cancelled ∧
      ∀ request, request ∉ cancelled →
        (context.enterState .disconnected).load request = context.load request := by
  rw [enterState_disconnected]
  have closed : (context.listed && context.forceClose) = false := by
    cases listed : context.listed with
    | false => rfl
    | true => exact (sound.listed listed).2.1
  refine ⟨⟨sound.output, sound.matched, sound.answered, fun listed => ?_, fun listed => ?_, fun _ => .inl spent⟩,
    fun request kept => ?_⟩
  · simp [closed] at listed
  · simp [closed] at listed
  · have empty : context.holds request = 0 := spent.holds_eq kept
    simp [load, closed, empty]

theorem notice_lives (context : ChannelContext) (event : ChannelEvent) : Lives context (context.notice event) := by
  cases event with
  | resolved | connectFailed | receiveFailed =>
      rw [notice]
      split <;> exact ⟨⟨rfl, rfl, rfl, rfl, rfl, rfl, rfl, rfl, id⟩, rfl, rfl, rfl, rfl⟩
  | connected | disconnected | writable => exact .refl _

theorem Smooth.notice {event : ChannelEvent} (smooth : context.Smooth cancelled event) :
    (context.notice event).Smooth cancelled event := by
  cases event with
  | resolved | connectFailed | receiveFailed => trivial
  | connected | disconnected | writable => exact smooth

/-- A smooth event keeps a channel sound, and it holds the same requests for the provider. -/
theorem handle_sound {event : ChannelEvent} (sound : context.Sound cancelled) (referenced : context.referenced = true)
    (smooth : context.Smooth cancelled event) :
    ((context.notice event).handle event).Sound cancelled ∧
      ∀ request, request ∉ cancelled →
        ((context.notice event).handle event).load request = context.load request := by
  by_cases ended : context.Over
  · rw [handle_over ended referenced]
    exact ⟨sound, fun _ _ => rfl⟩
  have active : context.listed = true ∨ context.Spent cancelled := by
    cases listed : context.listed with
    | true => exact .inl rfl
    | false => exact .inr ((sound.unlisted listed).resolve_right fun gone => ended gone.1)
  by_cases ending : event = .disconnected
  · subst ending
    exact disconnect_sound sound smooth
  · have noticed := notice_lives context event
    have moves := noticed.moves.trans (handle_moves (noticed.outputSound sound.output) smooth.notice ending)
    exact ⟨sound.moves moves (fun listed => (sound.hopeful listed).handle ending) active,
      fun request _ => moves.load_eq request⟩

theorem pushOutgoing_sound (request : Request) (sound : context.Sound cancelled) (listed : context.listed = true) :
    (context.pushOutgoing request).Sound cancelled :=
  ⟨sound.output, sound.matched, sound.answered, sound.listed,
    fun open_end => ⟨(sound.hopeful open_end).told, (sound.hopeful open_end).retried⟩,
    fun unlisted => by simp [pushOutgoing, listed] at unlisted⟩

theorem queueMessage_moves (request : Request) (environment : Environment) (output : context.OutputSound)
    (safe : context.state = .ready → (context.pushOutgoing request).Flows environment.activations) :
    Moves (context.pushOutgoing request) (context.queueMessage request environment) := by
  have pushed : (context.pushOutgoing request).OutputSound := output
  unfold queueMessage
  dsimp only
  split
  · exact (resolve_lives _ environment).moves
  · split
    · next ready => exact processQueue_moves (safe ready) pushed ready
    · exact .refl _

/-- A listed channel takes a request into its queue. -/
theorem queueMessage_sound (request : Request) (environment : Environment) (sound : context.Sound cancelled)
    (listed : context.listed = true)
    (safe : context.state = .ready → (context.pushOutgoing request).Flows environment.activations) :
    (context.queueMessage request environment).Sound cancelled ∧
      ∀ other, (context.queueMessage request environment).load other =
        context.load other + [request].count other := by
  have pushed := pushOutgoing_sound request sound listed
  have moves := queueMessage_moves request environment sound.output safe
  refine ⟨pushed.moves moves (fun _ => (sound.hopeful listed).queueMessage request environment) (.inl listed),
    fun other => ?_⟩
  rw [moves.load_eq]
  simp only [load, pushOutgoing, listed, ↓reduceIte, holds, List.count_append]
  omega

end ChannelContext

open ChannelContext

namespace Provider

/-- The number of times that the channels of the provider hold a request. -/
def held (provider : Provider) (request : Request) : Nat := total (load request) provider.contexts

/-- Each response was given to the request that it answers, and each request that was not cancelled is held by a channel
of the provider or was reported, as often as it was submitted. A channel that holds such a request is not closed, and
after a failure the main loop has still to tell its error or to try its next address. -/
structure Accounted (provider : Provider) : Prop where
  matched : ∀ context ∈ provider.contexts, context.Matched ∧ context.given.length = context.arrived
  account : ∀ request, request ∉ provider.cancelled →
    provider.submitted.count request = provider.reported.count request + provider.held request
  awaited : ∀ context ∈ provider.contexts, ∀ request, request ∉ provider.cancelled → 0 < context.load request →
    context.state ≠ .disconnected ∧ context.Hopeful

/-- The channels of the provider are sound. -/
def AllSound (provider : Provider) : Prop :=
  ∀ context ∈ provider.contexts, context.Sound provider.cancelled

/-- A request that is given to a channel which is ready is sent without loss. -/
def SendSafe (provider : Provider) (request : Request) (environment : Environment) : Prop :=
  ∀ context ∈ provider.contexts.find? (serves request.hop), context.state = .ready →
    (context.pushOutgoing request).Flows environment.activations

instance (provider : Provider) (request : Request) (environment : Environment) :
    Decidable (provider.SendSafe request environment) :=
  inferInstanceAs (Decidable (∀ _ ∈ _, _))

/-- Each request that is submitted again is sent without loss. -/
def ReenqueueSafe : List Request → List Environment → Provider → Prop
  | [], _, _ => True
  | request :: rest, environments, provider =>
      provider.SendSafe request (environments.headD {}) ∧
        ReenqueueSafe rest environments.tail (provider.sendRequest request (environments.headD {}))

instance ReenqueueSafe.decidable : ∀ (requests : List Request) (environments : List Environment)
    (provider : Provider), Decidable (ReenqueueSafe requests environments provider)
  | [], _, _ => inferInstanceAs (Decidable True)
  | request :: rest, environments, provider =>
      have := ReenqueueSafe.decidable rest environments.tail
        (provider.sendRequest request (environments.headD {}))
      inferInstanceAs (Decidable (_ ∧ _))

@[simp] theorem sendRequest_cancelled (provider : Provider) (request : Request) (environment : Environment) :
    (provider.sendRequest request environment).cancelled = provider.cancelled := by
  unfold sendRequest
  split <;> rfl

@[simp] theorem sendRequest_submitted (provider : Provider) (request : Request) (environment : Environment) :
    (provider.sendRequest request environment).submitted = provider.submitted := by
  unfold sendRequest
  split <;> rfl

@[simp] theorem sendRequest_reported (provider : Provider) (request : Request) (environment : Environment) :
    (provider.sendRequest request environment).reported = provider.reported := by
  unfold sendRequest
  split <;> rfl

variable {provider : Provider} {context : ChannelContext} {change : ChannelContext → ChannelContext}
  {environment : Environment} {number : Nat} {request : Request} {cancelled : List Request}

theorem serves_listed {hop : Hop} (serving : serves hop context = true) :
    context.listed = true := by
  simp only [serves, Bool.and_eq_true] at serving
  exact serving.1.1.1

theorem newClient_sound (number : Nat) (hop : Hop) (cancelled : List Request) :
    (newClient number hop).Sound cancelled :=
  ⟨.inl ⟨rfl, rfl⟩, rfl, rfl, fun _ => ⟨rfl, rfl, by simp [newClient]⟩,
    fun _ => ⟨fun error => by simp [newClient] at error, fun lost => by simp [newClient] at lost⟩,
    fun unlisted => by simp [newClient] at unlisted⟩

/-- A request that is sent is held once more. -/
theorem sendRequest_sound (sound : provider.AllSound) (safe : provider.SendSafe request environment) :
    (provider.sendRequest request environment).AllSound ∧
      ∀ other, (provider.sendRequest request environment).held other =
        provider.held other + [request].count other := by
  unfold AllSound held
  rw [sendRequest_cancelled]
  unfold sendRequest
  split
  · next context found =>
      have queued := queueMessage_sound request environment
        (sound context (List.mem_of_find?_eq_some found)) (serves_listed (List.find?_some found))
        (safe context found)
      refine ⟨forall_modifyFirst sound fun other same => ?_, fun other => ?_⟩
      · obtain rfl : context = other := by simpa [found] using same
        exact queued.1
      · have balance := total_modifyFirst (load other) (·.queueMessage request environment) found
        have grown := queued.2 other
        dsimp only at balance ⊢
        omega
  · next absent =>
      have queued := queueMessage_sound request environment
        (newClient_sound provider.created request.hop provider.cancelled) rfl (by simp [newClient])
      refine ⟨fun context among => ?_, fun other => ?_⟩
      · rcases List.mem_cons.mp among with rfl | among
        · exact queued.1
        · exact sound context among
      · have fresh : (newClient provider.created request.hop).load other = 0 := by
          simp [newClient, load, holds]
        rw [total_cons, queued.2, fresh]
        omega

theorem reenqueue_sound (requests : List Request) {environments : List Environment} (sound : provider.AllSound)
    (safe : ReenqueueSafe requests environments provider) :
    (reenqueue requests environments provider).AllSound ∧
      (reenqueue requests environments provider).cancelled = provider.cancelled ∧
      (reenqueue requests environments provider).submitted = provider.submitted ∧
      (reenqueue requests environments provider).reported = provider.reported ∧
      ∀ other, (reenqueue requests environments provider).held other =
        provider.held other + requests.count other := by
  induction requests generalizing environments provider with
  | nil => exact ⟨sound, rfl, rfl, rfl, fun _ => rfl⟩
  | cons request rest ih =>
      obtain ⟨first, later⟩ := safe
      obtain ⟨sound, held⟩ := sendRequest_sound sound first
      obtain ⟨sound, cancelled, submitted, reported, others⟩ := ih sound later
      rw [sendRequest_cancelled] at cancelled
      rw [sendRequest_submitted] at submitted
      rw [sendRequest_reported] at reported
      refine ⟨sound, cancelled, submitted, reported, fun other => ?_⟩
      have split : (request :: rest).count other = [request].count other + rest.count other := by
        rw [← List.count_append]
        rfl
      rw [reenqueue, others, held, split]
      omega

/-- What is known of the channel that an event is about passes to the changed channel. -/
theorem modify_sound (sound : provider.AllSound) (changed : ∀ context, provider.context number = some context →
      (change context).Sound provider.cancelled) : (provider.modify number change).AllSound :=
  forall_modifyFirst sound changed

theorem modify_held (change : ChannelContext → ChannelContext) (found : provider.context number = some context)
    (request : Request) :
    (provider.modify number change).held request + context.load request =
      provider.held request + (change context).load request :=
  total_modifyFirst (load request) change found

theorem context_number (found : provider.context number = some context) : context.number = number := by
  have passes : isAt number context = true := List.find?_some found
  simp only [isAt, Bool.and_eq_true, decide_eq_true_eq] at passes
  exact passes.1

theorem context_mem (found : provider.context number = some context) : context ∈ provider.contexts :=
  List.mem_of_find?_eq_some found

/-- A changed channel that stays alive is found again. -/
theorem context_modify (found : provider.context number = some context)
    (same : (change context).number = context.number) (alive : (change context).alive = context.alive) :
    (provider.modify number change).context number = some (change context) := by
  have passes : isAt number context = true := List.find?_some found
  exact find?_modifyFirst found (by rw [isAt, same, alive]; exact passes)

/-- A pending request that is popped was the first one sent and not yet answered. -/
theorem popPending_sound (response : Response) {rest : List Request} (sound : context.Sound cancelled)
    (read : context.isRead = true) (pending : context.pendingRequests = request :: rest) :
    (popPending cancelled response context.noticeResponse).Sound cancelled ∧
      ∀ other, (popPending cancelled response context.noticeResponse).load other +
        (if context.listed then [request].count other else 0) = context.load other := by
  have subset : ∀ other ∈ rest, other ∈ context.pendingRequests := fun other among => by
    rw [pending]
    exact List.mem_cons_of_mem _ among
  have popped : popPending cancelled response context.noticeResponse = { context with
      pendingRequests := rest
      given := context.given ++ [some request]
      arrived := context.arrived + 1
      aboutToBeClosed := context.aboutToBeClosed || (response.closes && request ∉ cancelled) } := by
    rw [noticeResponse, if_pos read, popPending]
    simp only [pending]
  rw [popped]
  refine ⟨⟨sound.output, ?_, ?_, sound.listed, ?_, fun unlisted => ?_⟩, fun other => ?_⟩
  · have matched : context.sent.map some = _ := sound.matched
    rw [pending] at matched
    rw [Matched]
    simp [matched]
  · simp [sound.answered]
  · exact fun listed => ⟨(sound.hopeful listed).told, (sound.hopeful listed).retried⟩
  · rcases sound.unlisted unlisted with spent | ⟨ended, rest_cancelled⟩
    · refine .inl fun other among => spent other ?_
      rcases List.mem_append.mp among with among | among
      · exact List.mem_append_left _ (subset other among)
      · exact List.mem_append_right _ among
    · exact .inr ⟨ended, rest_cancelled.imp_right fun all other among => all other (subset other among)⟩
  · have split : (request :: rest).count other = [request].count other + rest.count other := by
      rw [← List.count_append]
      rfl
    cases listed : context.listed with
    | true =>
        simp only [load, listed, ↓reduceIte, holds, pending, split]
        omega
    | false => simp [load, listed]

/-- The channels are sound and each request that was not cancelled is accounted for. -/
structure Balanced (provider : Provider) : Prop where
  sound : provider.AllSound
  account : ∀ request, request ∉ provider.cancelled →
    provider.submitted.count request = provider.reported.count request + provider.held request

/-- A change of one channel that keeps what it holds keeps the balance. -/
theorem Balanced.modify (balanced : provider.Balanced) (changed : ∀ context, provider.context number = some context →
      (change context).Sound provider.cancelled ∧
        ∀ request, request ∉ provider.cancelled → (change context).load request = context.load request) :
    (provider.modify number change).Balanced where
  sound := modify_sound balanced.sound fun context found => (changed context found).1
  account request kept := by
    have before := balanced.account request kept
    have same : (provider.modify number change).held request = provider.held request :=
      total_modifyFirst_same (load request) fun context found => (changed context found).2 request kept
    rw [same]
    exact before

theorem sendRequest_balanced (sound : provider.AllSound) (safe : provider.SendSafe request environment)
    (account : ∀ other, other ∉ provider.cancelled → provider.submitted.count other =
      provider.reported.count other + (provider.held other + [request].count other)) :
    (provider.sendRequest request environment).Balanced := by
  obtain ⟨sound, held⟩ := sendRequest_sound sound safe
  refine ⟨sound, fun other kept => ?_⟩
  rw [sendRequest_cancelled] at kept
  rw [sendRequest_submitted, sendRequest_reported, held]
  exact account other kept

/-- The response is a challenge that makes the provider submit the request again. -/
def Challenged (provider : Provider) (request : Request) (response : Response) : Prop :=
  (response.code = 401 ∨ response.code = 407) ∧
    (handleAuthentication (provider.authAttemptCount request) response).1 = true

/-- A popped request is sent again, or its listener is told. -/
theorem answer_balanced {response : Response} (sound : provider.AllSound)
    (safe : provider.Challenged request response → provider.SendSafe request environment)
    (account : ∀ other, other ∉ provider.cancelled → provider.submitted.count other =
      provider.reported.count other + (provider.held other + [request].count other)) :
    (provider.answer request response environment).Balanced := by
  have told (attempts : Request → Nat) :
      ({ provider with authAttemptCount := attempts }.report request).Balanced := by
    refine ⟨sound, fun other kept => ?_⟩
    have before := account other kept
    simp only [report, List.count_append] at *
    change _ = _ + _ + provider.held other
    omega
  unfold answer
  split
  · next challenge =>
      dsimp only
      split
      · next resubmitted => exact sendRequest_balanced sound (safe ⟨challenge, resubmitted⟩) account
      · exact told _
  · exact told provider.authAttemptCount

/-- No step of the event loses a request, announces one twice, or lets a response answer nothing. -/
def Lossless (provider : Provider) : Event → Prop
  | .sendRequest request environment => provider.SendSafe request environment
  | .cancelRequest request environments =>
      ∀ context ∈ (provider.channel request).bind provider.context,
        (∀ other ∈ context.pendingRequests, other ∈ request :: provider.cancelled) ∧
        (context.listed = true ∧ ¬ context.Restarts ∨
          ∀ other ∈ context.outgoingMessages, other ∈ request :: provider.cancelled) ∧
        ReenqueueSafe context.outgoingMessages environments
          ({ provider with cancelled := request :: provider.cancelled }.modify context.number closeByForce)
  | .channel number event =>
      ∀ context ∈ provider.context number, context.referenced = true →
        context.Smooth provider.cancelled event
  | .response number response environment =>
      ∀ context ∈ provider.context number, context.isRead = true →
        context.pendingRequests ≠ [] ∧
          ∀ request ∈ context.pendingRequests.head?, request ∉ provider.cancelled →
            provider.Challenged request response →
            (provider.modify number fun other => popPending provider.cancelled response other.noticeResponse).SendSafe
              request environment
  | .deferred number index again _ =>
      ∀ context ∈ provider.context number,
        context.deferred[index]? = some .invokeStateListenerDefered → context.state = .error →
        context.listed = true →
        context.deferred.length = 1 ∧
          (context.pendingRequests = [] ∨
            again = [] ∧ ∀ other ∈ context.outgoingMessages, other ∈ provider.cancelled)
  | .destroyed _ => True

instance (provider : Provider) (request : Request) (response : Response) :
    Decidable (provider.Challenged request response) :=
  inferInstanceAs (Decidable (_ ∧ _))

instance (provider : Provider) : ∀ event, Decidable (provider.Lossless event)
  | .sendRequest request environment => inferInstanceAs (Decidable (provider.SendSafe request environment))
  | .cancelRequest _ _ | .channel _ _ | .response _ _ _ | .deferred _ _ _ _ =>
      inferInstanceAs (Decidable (∀ _ ∈ _, _))
  | .destroyed _ => inferInstanceAs (Decidable True)

theorem modify_modify (provider : Provider) (number : Nat) (next : ChannelContext → ChannelContext)
    (same : ∀ context, (change context).number = context.number)
    (alive : ∀ context, (change context).alive = context.alive) :
    (provider.modify number change).modify number next =
      provider.modify number fun context => next (change context) := by
  have kept := modifyFirst_modifyFirst next
    (fun context => show isAt number (change context) = isAt number context by rw [isAt, isAt, same, alive])
    provider.contexts
  rw [modify, modify, modify]
  dsimp only
  rw [kept]

theorem modify_same (same : ∀ context, provider.context number = some context → change context = context) :
    provider.modify number change = provider := by
  rw [modify, modifyFirst_of_same same]

theorem modify_none (absent : provider.context number = none) (change : ChannelContext → ChannelContext) :
    provider.modify number change = provider :=
  modify_same fun context found => by simp [absent] at found

theorem noticeResponse_number (context : ChannelContext) : context.noticeResponse.number = context.number := by
  rw [noticeResponse]
  split <;> rfl

theorem noticeResponse_alive (context : ChannelContext) : context.noticeResponse.alive = context.alive := by
  rw [noticeResponse]
  split <;> rfl

/-- What `http_channel_context_handle_response` does with a response that is read. -/
theorem handleResponse_read {response : Response} {rest : List Request} (found : provider.context number = some context)
    (read : context.isRead = true) (pending : context.pendingRequests = request :: rest) :
    (provider.modify number noticeResponse).handleResponse number response environment =
      let popped := provider.modify number fun other => popPending provider.cancelled response other.noticeResponse
      if request ∈ provider.cancelled then popped else popped.answer request response environment := by
  have noticed := context_modify found (noticeResponse_number context) (noticeResponse_alive context)
  have same : context.noticeResponse = { context with arrived := context.arrived + 1 } := if_pos read
  have stillRead : context.noticeResponse.isRead = true := by
    rw [same]
    exact read
  have stillPending : context.noticeResponse.pendingRequests = request :: rest := by
    rw [same]
    exact pending
  have twice := modify_modify provider number (popPending provider.cancelled response) noticeResponse_number
    noticeResponse_alive
  rw [handleResponse, noticed]
  dsimp only
  rw [if_neg (by simp [stillRead]), stillPending]
  change (if request ∈ provider.cancelled then
    (provider.modify number noticeResponse).modify number (popPending provider.cancelled response) else
    ((provider.modify number noticeResponse).modify number (popPending provider.cancelled response)).answer request
      response environment) = _
  rw [twice]

theorem response_balanced {response : Response} (balanced : provider.Balanced)
    (lossless : provider.Lossless (.response number response environment)) :
    (provider.step (.response number response environment)).Balanced := by
  rw [step]
  cases found : provider.context number with
  | none =>
      rw [modify_none found, handleResponse, found]
      exact balanced
  | some context =>
      cases read : context.isRead with
      | false =>
          have unread : context.noticeResponse = context := if_neg (by simp [read])
          have noticed := context_modify found (noticeResponse_number context) (noticeResponse_alive context)
          rw [handleResponse, noticed]
          dsimp only
          rw [unread, if_pos read]
          refine balanced.modify fun other same => ?_
          obtain rfl : context = other := by simpa [found] using same
          rw [unread]
          exact ⟨balanced.sound context (context_mem found), fun _ _ => rfl⟩
      | true =>
          obtain ⟨waiting, safe⟩ := lossless context found read
          have sound := balanced.sound context (context_mem found)
          obtain ⟨request, rest, pending⟩ := List.exists_cons_of_ne_nil waiting
          have first : request ∈ context.pendingRequests.head? := by
            rw [pending]
            rfl
          obtain ⟨popped, load⟩ := popPending_sound response sound read pending
          rw [handleResponse_read found read pending]
          dsimp only
          have others : (provider.modify number fun other =>
              popPending provider.cancelled response other.noticeResponse).AllSound :=
            modify_sound balanced.sound fun other same => by
              obtain rfl : context = other := by simpa [found] using same
              exact popped
          have held (other : Request) :
              (provider.modify number fun other =>
                popPending provider.cancelled response other.noticeResponse).held other +
                (if context.listed then [request].count other else 0) = provider.held other := by
            have balance := modify_held
              (fun other => popPending provider.cancelled response other.noticeResponse) found other
            have taken := load other
            omega
          split
          · next cancelled =>
              refine ⟨others, fun other kept => ?_⟩
              have before := balanced.account other kept
              have absent : [request].count other = 0 := by
                refine List.count_eq_zero.mpr fun same => kept ?_
                rw [List.mem_singleton.mp same]
                exact cancelled
              have after := held other
              rw [absent, ite_self] at after
              change provider.submitted.count other = provider.reported.count other + _
              omega
          · next kept =>
              -- only a listed channel has a pending request that was not cancelled
              have listed : context.listed = true := by
                by_contra unlisted
                have unlisted : context.listed = false := by simpa using unlisted
                have forced : context.forceClose = true := by simpa [isRead, unlisted] using read
                have among : request ∈ context.pendingRequests := by simp [pending]
                rcases sound.unlisted unlisted with spent | ⟨_, unforced | all⟩
                · exact kept (spent request (List.mem_append_left _ among))
                · simp [forced] at unforced
                · exact kept (all request among)
              refine answer_balanced others (fun challenged => safe request first kept challenged)
                fun other outside => ?_
              have before := balanced.account other outside
              have after := held other
              rw [if_pos listed] at after
              rw [after]
              exact before

theorem channel_balanced {event : ChannelEvent} (balanced : provider.Balanced)
    (lossless : provider.Lossless (.channel number event)) :
    (provider.step (.channel number event)).Balanced := by
  refine balanced.modify fun context found => ?_
  have sound := balanced.sound context (context_mem found)
  cases referenced : context.referenced with
  | false => exact ⟨sound, fun _ _ => rfl⟩
  | true => exact handle_sound sound referenced (lossless context found referenced)

theorem destroyed_balanced (balanced : provider.Balanced) :
    (provider.step (.destroyed number)).Balanced := by
  refine balanced.modify fun context found => ?_
  have sound := balanced.sound context (context_mem found)
  cases referenced : context.referenced with
  | true => exact ⟨sound, fun _ _ => rfl⟩
  | false =>
      have unlisted : context.listed = false := by
        cases listed : context.listed with
        | false => rfl
        | true => simp [ChannelContext.referenced, listed, (sound.listed listed).1] at referenced
      refine ⟨⟨sound.output, sound.matched, sound.answered, fun listed => ?_, fun listed => ?_, sound.unlisted⟩,
        fun _ _ => rfl⟩
      · simp [unlisted] at listed
      · simp [unlisted] at listed

theorem takeDeferred_lives (context : ChannelContext) (index : Nat) :
    Lives context (context.takeDeferred index) :=
  ⟨⟨rfl, rfl, rfl, rfl, rfl, rfl, rfl, rfl, id⟩, rfl, rfl, rfl, rfl⟩

theorem noticeRetry_lives (context : ChannelContext) (index : Nat) :
    Lives context (context.noticeRetry index) := by
  rw [noticeRetry]
  split <;> exact ⟨⟨rfl, rfl, rfl, rfl, rfl, rfl, rfl, rfl, id⟩, rfl, rfl, rfl, rfl⟩

theorem noticeRetry_number (index : Nat) (context : ChannelContext) :
    (context.noticeRetry index).number = context.number := by
  rw [noticeRetry]
  split <;> rfl

/-- A deferred task that leaves the main loop does not start a channel that is over. -/
theorem takeDeferred_over (ended : context.Over) (index : Nat) :
    (context.takeDeferred index).Over := by
  obtain ⟨unlisted, ended⟩ := ended
  refine ⟨unlisted, ended.imp (fun none => by simp [takeDeferred, none]) fun ⟨closed, quiet⟩ => ⟨closed, ?_⟩⟩
  rintro ⟨tasks, restarts⟩
  refine quiet ⟨fun none => tasks (by simp [takeDeferred, none]), restarts.imp_left fun among => ?_⟩
  exact List.mem_of_mem_eraseIdx among

theorem connectNext_balanced {number index : Nat} (balanced : provider.Balanced)
    (deferred : ∀ context, provider.context number = some context →
      context.deferred[index]? = some .connectNext) :
    (provider.modify number fun context =>
      ((context.noticeRetry index).takeDeferred index).connect environment).Balanced := by
  refine balanced.modify fun context found => ?_
  have sound := balanced.sound context (context_mem found)
  have lives := ((noticeRetry_lives context index).trans (takeDeferred_lives _ index)).trans
    (connect_lives _ environment)
  have among : DeferredTask.connectNext ∈ context.deferred := List.mem_of_getElem? (deferred context found)
  have active : context.listed = true ∨ context.Spent provider.cancelled := by
    cases listed : context.listed with
    | true => exact .inl rfl
    | false =>
        refine .inr ((sound.unlisted listed).resolve_right fun ⟨⟨_, ended⟩, _⟩ => ?_)
        rcases ended with none | ⟨_, quiet⟩
        · simp [none] at among
        · exact quiet ⟨fun none => by simp [none] at among, .inl among⟩
  have hopeful : (((context.noticeRetry index).takeDeferred index).connect environment).Hopeful := by
    rw [noticeRetry, if_pos (deferred context found)]
    exact connect_hopeful (fun lost => by simp [takeDeferred] at lost) environment
  exact ⟨sound.moves lives.moves (fun _ => hopeful) active, fun request _ => lives.moves.load_eq request⟩

/-- The listener is told a state other than `BELLE_SIP_CHANNEL_ERROR` after the call stack that entered it. -/
theorem told_balanced {number index : Nat} (balanced : provider.Balanced)
    (found : provider.context number = some context)
    (deferred : context.deferred[index]? = some .invokeStateListenerDefered) (sane : context.state ≠ .error) :
    (provider.modify number fun other =>
      (other.takeDeferred index).enterState (other.takeDeferred index).state).Balanced := by
  refine balanced.modify fun other same => ?_
  obtain rfl : context = other := by simpa [found] using same
  have sound := balanced.sound context (context_mem found)
  have taken := takeDeferred_lives context index
  by_cases closed : context.state = .disconnected
  · have unlisted : context.listed = false := by
      by_contra listed
      exact (sound.listed (by simpa using listed)).2.2 closed
    have same : (context.takeDeferred index).enterState (context.takeDeferred index).state =
        context.takeDeferred index := by
      rw [show (context.takeDeferred index).state = .disconnected from closed, enterState_disconnected]
      simp [takeDeferred, unlisted, closed]
    rw [same]
    refine ⟨⟨sound.output, sound.matched, sound.answered, ?_, ?_, fun unlisted => ?_⟩,
      fun request _ => taken.moves.load_eq request⟩
    · exact fun listed => absurd (unlisted.symm.trans listed) (by decide)
    · exact fun listed => absurd (unlisted.symm.trans listed) (by decide)
    · exact (sound.unlisted unlisted).imp taken.moves.spent fun ⟨ended, rest⟩ => ⟨takeDeferred_over ended index, rest⟩
  · have lives := taken.trans (enterState_lives (context.takeDeferred index) _ closed)
    have tasks : context.deferred ≠ [] := fun none => by simp [none] at deferred
    have active : context.listed = true ∨ context.Spent provider.cancelled := by
      cases listed : context.listed with
      | true => exact .inl rfl
      | false =>
          refine .inr ((sound.unlisted listed).resolve_right fun ⟨⟨_, ended⟩, _⟩ => ?_)
          exact ended.elim tasks fun gone => closed gone.1
    exact ⟨sound.moves lives.moves (fun listed => (sound.hopeful listed).tell sane deferred) active,
      fun request _ => lives.moves.load_eq request⟩

/-- The channel that is told an error lets its requests go. -/
theorem failed_sound {again : List Request} {index : Nat} (sound : context.Sound cancelled)
    (last : context.listed = true → (context.takeDeferred index).deferred = []) :
    (failed again (context.takeDeferred index)).Sound cancelled := by
  have gone : (context.listed && context.forceClose) = false := by
    cases listed : context.listed with
    | false => rfl
    | true => exact (sound.listed listed).2.1
  refine ⟨sound.output, sound.matched, sound.answered, ?_, ?_, fun _ => ?_⟩
  · exact fun listed => absurd (gone.symm.trans listed) (by decide)
  · exact fun listed => absurd (gone.symm.trans listed) (by decide)
  · cases listed : context.listed with
    | true => exact .inr ⟨⟨gone, .inl (last listed)⟩, .inl (sound.listed listed).2.1⟩
    | false =>
        have nothing : meanwhile (context.takeDeferred index) again = [] := by simp [meanwhile, takeDeferred, listed]
        refine (sound.unlisted listed).imp (fun spent => ?_)
          fun ⟨ended, rest⟩ => ⟨⟨gone, (takeDeferred_over ended index).2⟩, rest⟩
        rw [Spent, failed, nothing, List.append_nil]
        exact spent

theorem failed_load (again : List Request) (index : Nat) (sound : context.Sound cancelled) (request : Request) :
    (failed again (context.takeDeferred index)).load request = 0 := by
  have gone : (context.listed && context.forceClose) = false := by
    cases listed : context.listed with
    | false => rfl
    | true => exact (sound.listed listed).2.1
  simp [load, failed, takeDeferred, gone]

/-- The requests of the channel that is told an error are reported, those queued meanwhile included. -/
theorem reportError_balanced {number index : Nat} {again : List Request} (balanced : provider.Balanced)
    (found : provider.context number = some context)
    (last : context.listed = true → (context.takeDeferred index).deferred = [] ∧
      (context.pendingRequests = [] ∨
        again = [] ∧ ∀ other ∈ context.outgoingMessages, other ∈ provider.cancelled))
    (unlisted : context.listed = false → context.Spent provider.cancelled) :
    ((provider.modify number (·.takeDeferred index)).reportError (context.takeDeferred index) again).Balanced := by
  have sound := balanced.sound context (context_mem found)
  obtain rfl := context_number found
  have twice : (provider.modify context.number (·.takeDeferred index)).modify context.number (failed again) =
      provider.modify context.number fun other => failed again (other.takeDeferred index) :=
    modify_modify _ _ _ (fun _ => rfl) fun _ => rfl
  refine ⟨?_, fun request kept => ?_⟩
  · change ((provider.modify context.number (·.takeDeferred index)).modify context.number (failed again)).AllSound
    rw [twice]
    exact modify_sound balanced.sound fun other same => by
      obtain rfl : context = other := by simpa [found] using same
      exact failed_sound sound fun listed => (last listed).1
  · have before := balanced.account request kept
    have balance := modify_held (fun other => failed again (other.takeDeferred index)) found request
    rw [failed_load again index sound] at balance
    change (provider.submitted ++ meanwhile (context.takeDeferred index) again).count request =
      (provider.reported ++ if context.pendingRequests = [] then
        context.outgoingMessages ++ meanwhile (context.takeDeferred index) again else
          context.pendingRequests).count request +
        ((provider.modify context.number (·.takeDeferred index)).modify context.number (failed again)).held request
    rw [twice, List.count_append, List.count_append]
    cases listed : context.listed with
    | false =>
        have nothing : meanwhile (context.takeDeferred index) again = [] := by simp [meanwhile, takeDeferred, listed]
        have absent : context.holds request = 0 := (unlisted listed).holds_eq kept
        have silent : (if context.pendingRequests = [] then
            context.outgoingMessages ++ meanwhile (context.takeDeferred index) again
            else context.pendingRequests).count request = 0 := by
          rw [nothing]
          unfold holds at absent
          split
          · rw [List.append_nil]
            omega
          · omega
        simp only [load, listed, Bool.false_eq_true, ↓reduceIte] at balance
        rw [silent, nothing, List.count_nil]
        omega
    | true =>
        simp only [load, listed, ↓reduceIte, holds] at balance
        rcases (last listed).2 with none | ⟨quiet, spent⟩
        · rw [if_pos none, List.count_append]
          rw [none, List.count_nil] at balance
          omega
        · have nothing : meanwhile (context.takeDeferred index) again = [] := by simp [meanwhile, quiet]
          have absent : context.outgoingMessages.count request = 0 :=
            List.count_eq_zero.mpr fun among => kept (spent request among)
          rw [nothing, List.append_nil, List.count_nil]
          split
          · next none =>
              rw [none, List.count_nil] at balance
              omega
          · omega

theorem deferred_balanced {number index : Nat} {again : List Request} (balanced : provider.Balanced)
    (lossless : provider.Lossless (.deferred number index again environment)) :
    (provider.step (.deferred number index again environment)).Balanced := by
  rw [step]
  cases found : provider.context number with
  | none =>
      rw [modify_none found, runDeferred, found]
      exact balanced
  | some context =>
      have sound := balanced.sound context (context_mem found)
      have alive : ∀ other, (noticeRetry index other).alive = other.alive :=
        fun other => (noticeRetry_lives other index).alive
      have noticed := context_modify found (noticeRetry_number index context) (alive context)
      have tasks : (noticeRetry index context).deferred = context.deferred := by
        rw [noticeRetry]
        split <;> rfl
      rw [runDeferred, noticed]
      dsimp only
      rw [tasks]
      cases deferred : context.deferred[index]? with
      | none =>
          have same : noticeRetry index context = context := if_neg (by simp [deferred])
          refine balanced.modify fun other isContext => ?_
          obtain rfl : context = other := by simpa [found] using isContext
          rw [same]
          exact ⟨sound, fun _ _ => rfl⟩
      | some task =>
          cases task with
          | connectNext =>
              dsimp only
              rw [modify_modify _ _ _ (noticeRetry_number index) alive]
              exact connectNext_balanced balanced fun other same => by
                obtain rfl : context = other := by simpa [found] using same
                exact deferred
          | invokeStateListenerDefered =>
              have same : noticeRetry index context = context := if_neg (by simp [deferred])
              have unchanged : provider.modify number (noticeRetry index) = provider :=
                modify_same fun other isContext => by
                  obtain rfl : context = other := by simpa [found] using isContext
                  exact same
              dsimp only
              rw [same, unchanged]
              split
              · next error =>
                  have some_task : context.deferred ≠ [] := fun none => by simp [none] at deferred
                  refine reportError_balanced balanced found (fun listed => ?_) fun unlisted => ?_
                  · obtain ⟨alone, rest⟩ := lossless context found deferred error listed
                    refine ⟨List.eq_nil_of_length_eq_zero ?_, rest⟩
                    have inside : index < context.deferred.length := (List.getElem?_eq_some_iff.mp deferred).1
                    change (context.deferred.eraseIdx index).length = 0
                    rw [List.length_eraseIdx, if_pos inside]
                    omega
                  · refine (sound.unlisted unlisted).resolve_right fun ⟨⟨_, ended⟩, _⟩ => ?_
                    rcases ended with none | ⟨closed, _⟩
                    · exact some_task none
                    · simp [error] at closed
              · next sane =>
                  have twice := modify_modify provider number
                    (fun other : ChannelContext => other.enterState other.state)
                    (fun other : ChannelContext => show (other.takeDeferred index).number = other.number from rfl)
                    fun _ => rfl
                  rw [twice]
                  exact told_balanced balanced found deferred sane

theorem closeByForce_eq (context : ChannelContext) : closeByForce context =
    { context with listed := false, forceClose := true, state := .disconnected } := by
  rw [closeByForce, enterState_disconnected]
  rfl

/-- A channel whose closing is forced is over, or it holds nothing but cancelled requests. -/
theorem closeByForce_sound (sound : context.Sound cancelled)
    (pending : ∀ other ∈ context.pendingRequests, other ∈ cancelled)
    (closable : context.listed = true ∧ ¬ context.Restarts ∨
      ∀ other ∈ context.outgoingMessages, other ∈ cancelled) :
    (closeByForce context).Sound cancelled ∧
      ∀ other, other ∉ cancelled → context.load other = context.outgoingMessages.count other := by
  constructor
  · rw [closeByForce_eq]
    refine ⟨sound.output, sound.matched, sound.answered, fun listed => by simp at listed,
      fun listed => by simp at listed, fun _ => ?_⟩
    rcases closable with ⟨_, quiet⟩ | spent
    · exact .inr ⟨⟨rfl, .inr ⟨rfl, quiet⟩⟩, .inr pending⟩
    · exact .inl fun other among => (List.mem_append.mp among).elim (pending other) (spent other)
  · intro other kept
    have answered : context.pendingRequests.count other = 0 :=
      List.count_eq_zero.mpr fun among => kept (pending other among)
    cases listed : context.listed with
    | true =>
        simp only [load, listed, ↓reduceIte, holds]
        omega
    | false =>
        have spent := closable.resolve_left fun both => by simp [listed] at both
        rw [List.count_eq_zero.mpr fun among => kept (spent other among)]
        simp [load, listed]

/-- The requests that wait on a channel whose closing is forced are sent on other channels. -/
theorem reenqueue_balanced {environments : List Environment} (balanced : provider.Balanced)
    (found : provider.context context.number = some context)
    (pending : ∀ other ∈ context.pendingRequests, other ∈ provider.cancelled)
    (closable : context.listed = true ∧ ¬ context.Restarts ∨
      ∀ other ∈ context.outgoingMessages, other ∈ provider.cancelled)
    (safe : ReenqueueSafe context.outgoingMessages environments
      (provider.modify context.number closeByForce)) :
    (reenqueue context.outgoingMessages environments
      (provider.modify context.number closeByForce)).Balanced := by
  obtain ⟨closed, carried⟩ :=
    closeByForce_sound (balanced.sound context (context_mem found)) pending closable
  have others : (provider.modify context.number closeByForce).AllSound :=
    modify_sound balanced.sound fun other same => by
      obtain rfl : context = other := by simpa [found] using same
      exact closed
  obtain ⟨sound, cancelled, submitted, reported, held⟩ := reenqueue_sound _ others safe
  refine ⟨sound, fun other kept => ?_⟩
  rw [cancelled] at kept
  have before := balanced.account other kept
  have balance := modify_held closeByForce found other
  have emptied : (closeByForce context).load other = 0 := by
    rw [closeByForce_eq]
    simp [load]
  have waiting := carried other kept
  rw [submitted, reported, held]
  change provider.submitted.count other = provider.reported.count other + _
  omega

/-- A cancelled request leaves with its channel; those that wait are sent on another one. -/
theorem cancel_balanced {environments : List Environment} (balanced : provider.Balanced)
    (lossless : provider.Lossless (.cancelRequest request environments)) :
    (provider.cancelRequest request environments).Balanced := by
  have grows : ∀ other ∈ provider.cancelled, other ∈ request :: provider.cancelled :=
    fun other among => List.mem_cons_of_mem _ among
  have marked : ({ provider with cancelled := request :: provider.cancelled } : Provider).Balanced :=
    ⟨fun context among => (balanced.sound context among).mono grows,
      fun other kept => balanced.account other fun among => kept (grows other among)⟩
  unfold cancelRequest
  dsimp only
  split
  · exact marked
  · next context located =>
      obtain ⟨pending, closable, safe⟩ := lossless context located
      obtain ⟨number, _, found⟩ := Option.bind_eq_some_iff.mp located
      obtain rfl := context_number found
      exact reenqueue_balanced marked found pending closable safe

/-- A lossless event keeps the balance. -/
theorem step_balanced {event : Event} (balanced : provider.Balanced) (lossless : provider.Lossless event) :
    (provider.step event).Balanced := by
  cases event with
  | sendRequest request environment =>
      refine sendRequest_balanced balanced.sound lossless fun other kept => ?_
      have before := balanced.account other kept
      change (provider.submitted ++ [request]).count other =
        provider.reported.count other + (provider.held other + [request].count other)
      rw [List.count_append]
      omega
  | cancelRequest request environments => exact cancel_balanced balanced lossless
  | channel number event => exact channel_balanced balanced lossless
  | response number response environment => exact response_balanced balanced lossless
  | deferred number index again environment => exact deferred_balanced balanced lossless
  | destroyed number => exact destroyed_balanced balanced

theorem initial_balanced : ({} : Provider).Balanced :=
  ⟨by simp [AllSound], fun _ _ => rfl⟩

end Provider

end BelleSip.Http
