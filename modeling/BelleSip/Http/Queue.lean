import BelleSip.Http.Provider

/-
This file states what the life cycle and the queue of an HTTP channel do to the requests that it holds.
-/

namespace BelleSip.Http.ChannelContext

/-- The requests that the channel holds are as before, and so is what was sent and answered on it. -/
structure Kept (before after : ChannelContext) : Prop where
  listed : after.listed = before.listed
  alive : after.alive = before.alive
  forceClose : after.forceClose = before.forceClose
  pending : after.pendingRequests = before.pendingRequests
  outgoing : after.outgoingMessages = before.outgoingMessages
  sent : after.sent = before.sent
  given : after.given = before.given
  arrived : after.arrived = before.arrived
  connected : before.state ≠ .disconnected → after.state ≠ .disconnected

/-- A life cycle change touches neither the requests nor the output stream. -/
structure Lives (before after : ChannelContext) : Prop extends Kept before after where
  outState : after.outState = before.outState
  blocked : after.blocked = before.blocked
  current : after.curOutMessage = before.curOutMessage
  handed : after.handed = before.handed

theorem Kept.refl (context : ChannelContext) : Kept context context :=
  ⟨rfl, rfl, rfl, rfl, rfl, rfl, rfl, rfl, id⟩

theorem Kept.trans {first second third : ChannelContext} (early : Kept first second)
    (late : Kept second third) : Kept first third where
  listed := late.listed.trans early.listed
  alive := late.alive.trans early.alive
  forceClose := late.forceClose.trans early.forceClose
  pending := late.pending.trans early.pending
  outgoing := late.outgoing.trans early.outgoing
  sent := late.sent.trans early.sent
  given := late.given.trans early.given
  arrived := late.arrived.trans early.arrived
  connected := late.connected ∘ early.connected

theorem Kept.after {first second third : ChannelContext} (late : Kept second third)
    (early : Kept first second) : Kept first third := early.trans late

theorem Lives.refl (context : ChannelContext) : Lives context context :=
  ⟨.refl _, rfl, rfl, rfl, rfl⟩

theorem Lives.trans {first second third : ChannelContext} (early : Lives first second)
    (late : Lives second third) : Lives first third where
  toKept := early.toKept.trans late.toKept
  outState := late.outState.trans early.outState
  blocked := late.blocked.trans early.blocked
  current := late.current.trans early.current
  handed := late.handed.trans early.handed

theorem Lives.after {first second third : ChannelContext} (late : Lives second third)
    (early : Lives first second) : Lives first third := early.trans late

variable (context : ChannelContext)

theorem enterState_lives (state : ChannelState) (connected : state ≠ .disconnected) :
    Lives context (context.enterState state) := by
  rw [enterState, if_neg fun closing => connected closing.1]
  exact ⟨⟨rfl, rfl, rfl, rfl, rfl, rfl, rfl, rfl, fun _ => connected⟩, rfl, rfl, rfl, rfl⟩

theorem enterState_disconnected :
    context.enterState .disconnected =
      { context with listed := context.listed && context.forceClose, state := .disconnected } := by
  cases forced : context.forceClose <;> simp [enterState, forced]

theorem handleError_lives : Lives context context.handleError := by
  have reported : Lives context
      (({ context with state := .error } : ChannelContext).doLater .invokeStateListenerDefered) :=
    ⟨⟨rfl, rfl, rfl, rfl, rfl, rfl, rfl, rfl, fun _ => by simp [doLater]⟩, rfl, rfl, rfl, rfl⟩
  unfold handleError
  split
  · split
    · next next_peer others _ _ =>
        have retried := enterState_lives { context with currentPeer := next_peer :: others }
          .retry (by simp)
        exact ⟨⟨retried.listed, retried.alive, retried.forceClose, retried.pending, retried.outgoing,
          retried.sent, retried.given, retried.arrived, retried.connected⟩, retried.outState, retried.blocked,
          retried.current, retried.handed⟩
    · exact reported
  · exact reported

theorem connect_lives (environment : Environment) : Lives context (context.connect environment) := by
  have connecting := enterState_lives context .connecting (by simp)
  unfold connect
  dsimp only
  split
  · exact connecting
  · exact connecting.trans (handleError_lives _)

theorem resDone_lives (addresses : List Address) (environment : Environment) :
    Lives context (context.resDone addresses environment) := by
  have answered : Lives context { context with resolving := false } :=
    ⟨⟨rfl, rfl, rfl, rfl, rfl, rfl, rfl, rfl, id⟩, rfl, rfl, rfl, rfl⟩
  unfold resDone
  dsimp only
  split
  · exact answered.trans (handleError_lives _)
  · have resolved := enterState_lives { context with resolving := false, currentPeer := addresses }
      .resDone (by simp)
    exact (resolved.trans (connect_lives _ environment)).after
      ⟨⟨rfl, rfl, rfl, rfl, rfl, rfl, rfl, rfl, id⟩, rfl, rfl, rfl, rfl⟩

theorem resolve_lives (environment : Environment) : Lives context (context.resolve environment) := by
  have begun := enterState_lives context .resInProgress (by simp)
  unfold resolve
  dsimp only
  split
  · exact begun.trans ⟨⟨rfl, rfl, rfl, rfl, rfl, rfl, rfl, rfl, id⟩, rfl, rfl, rfl, rfl⟩
  · exact begun.trans (resDone_lives _ _ environment)

/-- Between two events the stream is idle, or a would-block has left bytes of the current message. -/
def OutputSound : Prop :=
  context.outState = .idle ∧ context.blocked = false ∨
    context.outState ≠ .idle ∧ context.blocked = true ∧ context.curOutMessage.isSome

variable {context}

theorem Lives.outputSound {before after : ChannelContext} (lives : Lives before after)
    (sound : before.OutputSound) : after.OutputSound := by
  unfold OutputSound
  rw [lives.outState, lives.blocked, lives.current]
  exact sound

theorem done_kept (context : ChannelContext) : Kept context context.done :=
  ⟨rfl, rfl, rfl, rfl, rfl, rfl, rfl, rfl, id⟩

/-- A message that is not given up half-way is sent, or the bytes that are left are kept. -/
theorem conclude_kept (context : ChannelContext) (written : Written) (busy : context.outState ≠ .idle)
    (current : context.curOutMessage.isSome) :
    Kept context (context.conclude written) ∧ (context.conclude written).OutputSound ∧
      (written = .taken → (context.conclude written).state = context.state ∧
        (context.conclude written).outState = .idle) := by
  cases written with
  | taken => exact ⟨⟨rfl, rfl, rfl, rfl, rfl, rfl, rfl, rfl, id⟩, .inl ⟨rfl, rfl⟩, fun _ => ⟨rfl, rfl⟩⟩
  | closed => exact ⟨⟨rfl, rfl, rfl, rfl, rfl, rfl, rfl, rfl, id⟩, .inl ⟨rfl, rfl⟩, by simp⟩
  | failed => exact ⟨(handleError_lives context).toKept.trans (done_kept _), .inl ⟨rfl, rfl⟩, by simp⟩
  | wouldBlock => exact ⟨⟨rfl, rfl, rfl, rfl, rfl, rfl, rfl, rfl, id⟩, .inr ⟨busy, rfl, current⟩, by simp⟩

/-- The requests of a queue that becomes empty are pending, and they were sent. -/
def drained (context : ChannelContext) (queue : List Request) : ChannelContext :=
  { context with
    outgoingMessages := [], pendingRequests := context.pendingRequests ++ queue,
    sent := context.sent ++ queue }

/-- A request that is sent on an idle stream becomes pending. -/
theorem sendMessage_kept (context : ChannelContext) {request : Request} (activation : Activation)
    (idle : context.outState = .idle) (sound : context.OutputSound) (marshals : request.marshals = true) :
    Kept { context with pendingRequests := context.pendingRequests ++ [request],
                        sent := context.sent ++ [request] } (context.sendMessage request activation) ∧
      (context.sendMessage request activation).OutputSound ∧
      (activation.written = .taken → (context.sendMessage request activation).state = context.state ∧
        (context.sendMessage request activation).outState = .idle) := by
  have unblocked : context.blocked = false := by
    rcases sound with ⟨_, unblocked⟩ | ⟨busy, _⟩
    · exact unblocked
    · exact absurd idle busy
  simp only [sendMessage, _sendMessage, sendHeaders, unblocked, marshals, Bool.false_eq_true, ↓reduceIte]
  generalize begunIs : ({ context with
    blocked := false, pendingRequests := context.pendingRequests ++ [request],
    sent := context.sent ++ [request], curOutMessage := some request,
    handed := context.handed ++ [request],
    outState := if request.chunked = true then .sendingBody else .sendingHeaders } : ChannelContext) = begun
  have busy : begun.outState ≠ .idle := by
    rw [← begunIs]
    cases request.chunked <;> simp
  obtain ⟨kept, output, finished⟩ :=
    conclude_kept begun activation.written busy (by rw [← begunIs]; rfl)
  subst begunIs
  exact ⟨kept.after ⟨rfl, rfl, rfl, rfl, rfl, rfl, rfl, rfl, id⟩, output, finished⟩

/-- Each waiting request is sent whole, except that the last one may be interrupted or fail. -/
def Flowing : List Request → List Activation → Prop
  | [], _ => True
  | request :: rest, activations =>
      request.marshals = true ∧ (activations.headD {}).written ≠ .closed ∧
        (rest ≠ [] → (activations.headD {}).written = .taken) ∧ Flowing rest activations.tail

/-- Nothing is lost or announced twice when the queue is processed: an interrupted message is taken up behind
its header section, and messages wait behind it only if it is then finished. -/
def Flows (context : ChannelContext) (activations : List Activation) : Prop :=
  if context.outState = .idle then Flowing context.outgoingMessages activations
  else
    (context.outgoingMessages ≠ [] → activations.headD {} = {}) ∧
      (activations.headD {}).flushed ≠ .closed ∧
      ((activations.headD {}).flushed = .taken →
        context.outState = .sendingBody ∧ (activations.headD {}).written ≠ .closed) ∧
      Flowing context.outgoingMessages activations.tail

instance Flowing.decidable : ∀ (queue : List Request) (activations : List Activation),
    Decidable (Flowing queue activations)
  | [], _ => inferInstanceAs (Decidable True)
  | _ :: rest, activations =>
      have := Flowing.decidable rest activations.tail
      inferInstanceAs (Decidable (_ ∧ _ ∧ _ ∧ _))

instance (context : ChannelContext) (activations : List Activation) : Decidable (context.Flows activations) :=
  inferInstanceAs (Decidable (ite _ _ _))

theorem popOutgoing_kept (queue : List Request) {activations : List Activation}
    (flowing : Flowing queue activations) {context : ChannelContext} (sound : context.OutputSound)
    (able : queue ≠ [] → context.state = .ready ∧ context.outState = .idle) :
    Kept (context.drained queue) (popOutgoing queue activations context) ∧
      (popOutgoing queue activations context).OutputSound := by
  induction queue generalizing activations context with
  | nil =>
      refine ⟨?_, sound⟩
      simp only [popOutgoing, drained, List.append_nil]
      exact .refl _
  | cons request rest ih =>
      obtain ⟨ready, idle⟩ := able (List.cons_ne_nil _ _)
      obtain ⟨marshals, _, whole, later⟩ := flowing
      have sound' : ({ context with outgoingMessages := rest } : ChannelContext).OutputSound := sound
      obtain ⟨kept, output, finished⟩ := sendMessage_kept { context with outgoingMessages := rest }
        (activations.headD {}) idle sound' marshals
      rw [popOutgoing, if_pos ⟨ready, idle⟩]
      generalize ({ context with outgoingMessages := rest } : ChannelContext).sendMessage request
        (activations.headD {}) = after at kept output finished ⊢
      have able' : rest ≠ [] → after.state = .ready ∧ after.outState = .idle := by
        intro more
        obtain ⟨state, idle⟩ := finished (whole more)
        exact ⟨state.trans ready, idle⟩
      obtain ⟨others, output⟩ := ih later output able'
      refine ⟨Kept.trans ?_ others, output⟩
      refine ⟨kept.listed, kept.alive, kept.forceClose, ?_, rfl, ?_, kept.given, kept.arrived, kept.connected⟩
      · simp only [drained, kept.pending, List.append_assoc, List.cons_append, List.nil_append]
      · simp only [drained, kept.sent, List.append_assoc, List.cons_append, List.nil_append]

/-- A queue that flows becomes pending as a whole. -/
theorem processQueue_kept {activations : List Activation} (flows : context.Flows activations)
    (sound : context.OutputSound) (ready : context.state = .ready) :
    Kept (context.drained context.outgoingMessages) (context.processQueue activations) ∧
      (context.processQueue activations).OutputSound := by
  unfold processQueue
  by_cases idle : context.outState = .idle
  · rw [if_neg (not_not_intro idle)]
    rw [Flows, if_pos idle] at flows
    exact popOutgoing_kept _ flows sound fun _ => ⟨ready, idle⟩
  · rw [if_pos idle]
    rw [Flows, if_neg idle] at flows
    obtain ⟨whole, open_end, body, later⟩ := flows
    obtain ⟨_, blocked, current⟩ := sound.resolve_left fun stale => idle stale.1
    obtain ⟨message, current⟩ := Option.isSome_iff_exists.mp current
    generalize activations.headD {} = activation at whole open_end body
    -- the interrupted message is in the hands of the transport, and its request is pending already
    have resumed : Kept context (context._sendMessage activation) ∧
        (context._sendMessage activation).OutputSound ∧
        (activation = {} → (context._sendMessage activation).state = context.state ∧
          (context._sendMessage activation).outState = .idle) := by
      simp only [_sendMessage, current, blocked, ↓reduceIte]
      cases flushed : activation.flushed with
      | wouldBlock =>
          refine ⟨⟨rfl, rfl, rfl, rfl, rfl, rfl, rfl, rfl, id⟩, .inr ⟨idle, rfl, rfl⟩, fun plain => ?_⟩
          simp [plain] at flushed
      | closed => exact absurd flushed open_end
      | failed =>
          generalize begunIs : ({ context with
            curOutMessage := some message, blocked := true,
            handed := context.handed ++ [message] } : ChannelContext) = begun
          have same : Kept context begun := by
            subst begunIs
            exact ⟨rfl, rfl, rfl, rfl, rfl, rfl, rfl, rfl, id⟩
          refine ⟨same.trans ((handleError_lives begun).toKept.trans (done_kept _)), .inl ⟨rfl, rfl⟩,
            fun plain => ?_⟩
          simp [plain] at flushed
      | taken =>
          have inside := (body flushed).1
          simp only [inside, reduceCtorEq, ↓reduceIte]
          obtain ⟨kept, output, finished⟩ := conclude_kept { context with
              curOutMessage := some message, handed := context.handed ++ [message], blocked := false,
              outState := .sendingBody } activation.written (by simp) rfl
          exact ⟨kept.after ⟨rfl, rfl, rfl, rfl, rfl, rfl, rfl, rfl, id⟩, output,
            fun plain => finished (by rw [plain])⟩
    obtain ⟨kept, output, finished⟩ := resumed
    generalize context._sendMessage activation = after at kept output finished ⊢
    have able : context.outgoingMessages ≠ [] → after.state = .ready ∧ after.outState = .idle := by
      intro more
      obtain ⟨state, idle⟩ := finished (whole more)
      exact ⟨state.trans ready, idle⟩
    obtain ⟨others, output⟩ := popOutgoing_kept _ later output able
    refine ⟨Kept.trans ?_ others, output⟩
    refine ⟨kept.listed, kept.alive, kept.forceClose, ?_, rfl, ?_, kept.given, kept.arrived, kept.connected⟩
    · simp only [drained, kept.pending]
    · simp only [drained, kept.sent]

/-- Whatever the transport answers, a message is finished or given up, or its bytes are kept. -/
theorem _sendMessage_output (busy : context.outState ≠ .idle) (current : context.curOutMessage.isSome)
    (activation : Activation) : (context._sendMessage activation).OutputSound := by
  obtain ⟨request, isCurrent⟩ := Option.isSome_iff_exists.mp current
  rw [_sendMessage, isCurrent]
  dsimp only
  split
  · next kept =>
      refine .inr ⟨busy, ?_, rfl⟩
      by_contra unblocked
      rw [if_neg unblocked] at kept
      cases kept
  · exact .inl ⟨rfl, rfl⟩
  · exact .inl ⟨rfl, rfl⟩
  · split
    · rw [sendHeaders]
      dsimp only
      split
      · refine (conclude_kept _ activation.written ?_ rfl).2.1
        dsimp only
        split <;> simp
      · exact .inl ⟨rfl, rfl⟩
    · refine (conclude_kept _ activation.written ?_ rfl).2.1
      exact busy

theorem sendMessage_output (context : ChannelContext) (request : Request) (activation : Activation) :
    (context.sendMessage request activation).OutputSound := by
  rw [sendMessage]
  exact _sendMessage_output (by simp) rfl activation

theorem popOutgoing_output (queue : List Request) {activations : List Activation} {context : ChannelContext}
    (sound : context.OutputSound) : (popOutgoing queue activations context).OutputSound := by
  induction queue generalizing activations context with
  | nil => exact sound
  | cons request rest ih =>
      rw [popOutgoing]
      split
      · exact ih (sendMessage_output _ request _)
      · exact sound

theorem processQueue_output (sound : context.OutputSound) (activations : List Activation) :
    (context.processQueue activations).OutputSound := by
  rw [processQueue]
  split
  · next busy =>
      obtain ⟨_, _, current⟩ := sound.resolve_left fun stale => busy stale.1
      exact popOutgoing_output _ (_sendMessage_output busy current _)
  · exact popOutgoing_output _ sound

theorem queueMessage_output (sound : context.OutputSound) (request : Request) (environment : Environment) :
    (context.queueMessage request environment).OutputSound := by
  have pushed : (context.pushOutgoing request).OutputSound := sound
  rw [queueMessage]
  split
  · exact (resolve_lives _ environment).outputSound pushed
  · split
    · exact processQueue_output pushed _
    · exact pushed

theorem enterState_output (sound : context.OutputSound) (state : ChannelState) :
    (context.enterState state).OutputSound := by
  rw [enterState]
  split <;> exact sound

theorem handle_output (sound : context.OutputSound) (event : ChannelEvent) : (context.handle event).OutputSound := by
  cases event with
  | resolved addresses environment =>
      rw [handle]
      split
      · exact (resDone_lives context addresses environment).outputSound sound
      · exact sound
  | connected environment =>
      rw [handle]
      split
      · exact processQueue_output (enterState_output sound .ready) _
      · exact sound
  | connectFailed | receiveFailed =>
      rw [handle]
      split
      · exact (handleError_lives context).outputSound sound
      · exact sound
  | disconnected => exact enterState_output sound .disconnected
  | writable environment =>
      rw [handle]
      split
      · exact processQueue_output sound _
      · exact sound

end BelleSip.Http.ChannelContext
