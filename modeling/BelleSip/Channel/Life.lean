import BelleSip.Channel.Output

/-
This file separates the life cycle of a channel from its output work.
-/

namespace BelleSip

/-- An effect of the life cycle is a notification, a close, or a release by the provider. -/
def Effect.living : Effect → Bool
  | .onStateChanged _ | .closed | .channelReleased => true
  | _ => false

/-- A notification with a state on which the provider drops its reference. -/
def Effect.ends : Effect → Bool
  | .onStateChanged state => state.terminal
  | _ => false

namespace Channel

theorem invokeStateListener_state (channel : Channel) : channel.invokeStateListener.state = channel.state := by
  unfold invokeStateListener channelStateChanged
  simp only
  split <;> split <;> (try split) <;> rfl

theorem setState_state (channel : Channel) (state : ChannelState) (soft : state ≠ .error) :
    (channel.setState state).state = state := by
  rw [setState, if_neg soft]
  exact invokeStateListener_state { channel with state := state }

theorem handleError_state (channel : Channel) :
    channel.handleError.state = .retry ∨ channel.handleError.state = .error := by
  unfold handleError
  split
  · split
    · next next_peer others _ _ =>
        exact .inl (invokeStateListener_state
          { channel with currentPeer := next_peer :: others, state := .retry })
    · exact .inr rfl
  · exact .inr rfl

theorem handleError_not_ready (channel : Channel) : channel.handleError.state ≠ .ready := by
  rcases channel.handleError_state with state | state <;> simp [state]

theorem setState_error_not_ready (channel : Channel) : (channel.setState .error).state ≠ .ready := by
  simpa [setState] using channel.handleError_not_ready

theorem handleError_ready (channel : Channel) (ready : channel.state = .ready) :
    channel.handleError.state = .error := by
  unfold handleError
  split
  · rw [if_neg (by simp [ready])]
    rfl
  · rfl

theorem setState_error (channel : Channel) (ready : channel.state = .ready) :
    (channel.setState .error).state = .error := by
  simpa [setState] using channel.handleError_ready ready

/-- The trace of a channel only grows. -/
def Extends (before after : Channel) : Prop := before.trace <+: after.trace

namespace Extends

theorem refl (channel : Channel) : Extends channel channel := List.prefix_refl _

theorem trans {first second third : Channel} (early : Extends first second) (late : Extends second third) :
    Extends first third := List.IsPrefix.trans early late

theorem emit (channel : Channel) (effect : Effect) : Extends channel (channel.emit effect) :=
  List.prefix_append _ _

end Extends

theorem invokeStateListener_extends (channel : Channel) : Extends channel channel.invokeStateListener := by
  have provider (channel : Channel) : Extends channel channel.channelStateChanged := by
    unfold channelStateChanged
    split
    · exact Extends.emit _ _
    · exact Extends.refl _
  have closing : Extends channel (if channel.state.terminal then channel.close else channel) := by
    split
    · exact Extends.emit _ _
    · exact Extends.refl _
  unfold invokeStateListener
  simp only
  generalize (if channel.state.terminal then channel.close else channel) = prepared at closing ⊢
  refine closing.trans ((Extends.emit prepared (.onStateChanged prepared.state)).trans ?_)
  split
  · exact provider _
  · exact Extends.refl _

theorem enterState_extends (channel : Channel) (state : ChannelState) :
    Extends channel (channel.enterState state) :=
  invokeStateListener_extends { channel with state := state }

theorem handleError_extends (channel : Channel) : Extends channel channel.handleError := by
  unfold handleError
  split
  · split
    · next next_peer others _ _ =>
        exact (enterState_extends { channel with currentPeer := next_peer :: others } .retry).trans
          (Extends.emit _ _)
    · exact Extends.refl _
  · exact Extends.refl _

theorem setState_extends (channel : Channel) (state : ChannelState) :
    Extends channel (channel.setState state) := by
  unfold setState
  split
  · exact handleError_extends channel
  · exact enterState_extends channel state

variable (transport : Nat → SendResult)

/-- Output work leaves the life cycle of a channel as it is. -/
structure SameLife (before after : Channel) : Prop where
  state : after.state = before.state
  peer : after.currentPeer = before.currentPeer
  listening : after.providerListening = before.providerListening
  deferred : after.deferred = before.deferred
  grown : ∃ effects, after.trace = before.trace ++ effects ∧ ∀ effect ∈ effects, effect.living = false

namespace SameLife

theorem refl (channel : Channel) : SameLife channel channel :=
  ⟨rfl, rfl, rfl, rfl, [], by simp, by simp⟩

theorem trans {first second third : Channel} (early : SameLife first second)
    (late : SameLife second third) : SameLife first third := by
  obtain ⟨some_effects, same, quiet⟩ := early.grown
  obtain ⟨more_effects, same', quiet'⟩ := late.grown
  refine ⟨late.state.trans early.state, late.peer.trans early.peer,
    late.listening.trans early.listening, late.deferred.trans early.deferred,
    some_effects ++ more_effects, by rw [same', same, List.append_assoc], fun effect present => ?_⟩
  rcases List.mem_append.mp present with early | late
  · exact quiet effect early
  · exact quiet' effect late

theorem emit (channel : Channel) (effect : Effect) (quiet : effect.living = false) :
    SameLife channel (channel.emit effect) :=
  ⟨rfl, rfl, rfl, rfl, [effect], rfl, by simpa using quiet⟩

/-- A change of the output fields alone keeps the life cycle. -/
theorem fields {before after : Channel} (state : after.state = before.state)
    (peer : after.currentPeer = before.currentPeer)
    (listening : after.providerListening = before.providerListening)
    (deferred : after.deferred = before.deferred) (trace : after.trace = before.trace) :
    SameLife before after :=
  ⟨state, peer, listening, deferred, [], by simp [trace], by simp⟩

end SameLife

/-- A send loop keeps the life cycle, or it ends with the report of an error. -/
inductive Ended (before : Channel) : Channel × SendOutcome → Prop where
  | smooth {after : Channel} {outcome : SendOutcome} (same : SameLife before after) :
      Ended before (after, outcome)
  | failed {middle : Channel} (same : SameLife before middle) :
      Ended before (middle.setState .error, .failed)

theorem Ended.after {before middle : Channel} {result : Channel × SendOutcome}
    (first : SameLife before middle) (ended : Ended middle result) : Ended before result := by
  cases ended with
  | smooth same => exact .smooth (first.trans same)
  | failed same => exact .failed (first.trans same)

theorem sendFrom_ended (fuel : Nat) (channel : Channel) (buffer : List Byte) (offset : Nat) :
    Ended channel (sendFrom transport fuel channel buffer offset) := by
  induction fuel generalizing channel offset with
  | zero => exact .smooth (.refl _)
  | succ fuel ih =>
      have called : SameLife channel { channel with sends := channel.sends + 1 } :=
        .fields rfl rfl rfl rfl rfl
      rw [sendFrom, sendBuffer]
      cases transport channel.sends with
      | wouldBlock => exact .smooth called
      | closed => exact .smooth called
      | error => exact .failed called
      | accepted count =>
          have taken := called.trans
            (SameLife.emit _ (.accepted ((buffer.drop offset).take (count + 1))) rfl)
          simp only
          generalize min (count + 1) (buffer.drop offset).length = size
          cases size with
          | zero => exact .smooth taken
          | succ size =>
              simp only
              split
              · exact .smooth taken
              · exact (ih _ _).after taken

theorem freeEwouldblockBuffer_same (channel : Channel) : SameLife channel channel.freeEwouldblockBuffer := by
  unfold freeEwouldblockBuffer
  split
  · exact .fields rfl rfl rfl rfl rfl
  · exact .refl _

theorem handleEwouldblock_same (channel : Channel) (buffer : List Byte) :
    SameLife channel (channel.handleEwouldblock buffer) :=
  (freeEwouldblockBuffer_same channel).trans (.fields rfl rfl rfl rfl rfl)

theorem transmit_ended (channel : Channel) (buffer : List Byte) :
    Ended channel (channel.transmit transport buffer) := by
  have loop := sendFrom_ended transport (buffer.length + 1) channel buffer 0
  unfold transmit
  generalize sendFrom transport (buffer.length + 1) channel buffer 0 = result at loop
  cases loop with
  | failed same => exact .failed same
  | @smooth after outcome same =>
      cases outcome with
      | wouldBlock offset => exact .smooth (same.trans (handleEwouldblock_same _ _))
      | sent => exact .smooth same
      | failed => exact .smooth same
      | fatal => exact .smooth same

theorem flush_ended (channel : Channel) : Ended channel (channel.flush transport) := by
  unfold flush
  split
  · exact .smooth (.refl _)
  · next buffer _ =>
      have loop := sendFrom_ended transport (buffer.length + 1) channel buffer channel.ewouldblockOffset
      generalize sendFrom transport (buffer.length + 1) channel buffer channel.ewouldblockOffset = result
        at loop
      cases loop with
      | failed same => exact .failed same
      | @smooth after outcome same =>
          cases outcome with
          | sent => exact .smooth (same.trans (freeEwouldblockBuffer_same _))
          | wouldBlock offset => exact .smooth (same.trans (.fields rfl rfl rfl rfl rfl))
          | failed => exact .smooth same
          | fatal => exact .smooth same

theorem appendBody_same (handler : BodyHandler) (fuel : Nat) (channel : Channel) (buffer : List Byte) :
    SameLife channel (appendBody handler fuel channel buffer).1 := by
  induction fuel generalizing channel buffer with
  | zero => exact .refl _
  | succ fuel ih =>
      rw [appendBody]
      obtain ⟨chunk, transfered, progress⟩ :=
        handler.sendChunk channel.transferedSize (maxChunk - buffer.length)
      have read : SameLife channel
          (Channel.emit { channel with transferedSize := transfered } (.sentChunk progress)) :=
        ⟨rfl, rfl, rfl, rfl, [_], rfl, by simp [Effect.living]⟩
      cases progress with
      | continues => exact read.trans (ih _ _)
      | stop => exact read

theorem sendHeaders_ended (channel : Channel) (message : Message) :
    Ended channel (channel.sendHeaders transport message) := by
  have announced := SameLife.emit channel (.onSending message) rfl
  have begun : SameLife channel { channel.emit (.onSending message) with transferedSize := 0 } :=
    announced.trans (.fields rfl rfl rfl rfl rfl)
  unfold sendHeaders
  simp only
  split
  · exact .smooth announced
  · split
    · exact (transmit_ended transport _ _).after announced
    · split
      · exact .smooth (announced.trans (.emit _ _ rfl))
      · split
        · exact (transmit_ended transport _ _).after (begun.trans (appendBody_same _ _ _ _))
        · refine Ended.after ?_ (transmit_ended transport _ _)
          exact begun.trans (.fields rfl rfl rfl rfl rfl)

theorem sendBody_ended (handler : BodyHandler) (fuel : Nat) (channel : Channel) :
    Ended channel (channel.sendBody transport handler fuel) := by
  induction fuel generalizing channel with
  | zero => exact .smooth (.refl _)
  | succ fuel ih =>
      rw [sendBody]
      obtain ⟨chunk, transfered, progress⟩ := handler.sendChunk channel.transferedSize maxChunk
      simp only
      have read : SameLife channel
          (Channel.emit { channel with transferedSize := transfered } (.sentChunk progress)) :=
        ⟨rfl, rfl, rfl, rfl, [_], rfl, by simp [Effect.living]⟩
      generalize Channel.emit { channel with transferedSize := transfered } (.sentChunk progress) = reading
        at read ⊢
      have chunked : Ended reading
          (if chunk = [] then (reading, SendOutcome.sent) else reading.transmit transport chunk) := by
        split
        · exact .smooth (.refl _)
        · exact transmit_ended transport _ _
      generalize (if chunk = [] then (reading, SendOutcome.sent) else reading.transmit transport chunk) =
        result at chunked ⊢
      cases chunked.after read with
      | failed same => exact .failed same
      | @smooth after outcome same =>
          cases outcome with
          | sent =>
              cases progress with
              | continues => exact (ih after).after same
              | stop => exact .smooth same
          | wouldBlock offset => exact .smooth same
          | failed => exact .smooth same
          | fatal => exact .smooth same

theorem sendRest_ended (channel : Channel) (message : Message) :
    Ended channel (channel.sendRest transport message) := by
  have first : Ended channel (if channel.outState = .sendingHeaders then
      channel.sendHeaders transport message else (channel, SendOutcome.sent)) := by
    split
    · exact sendHeaders_ended transport channel message
    · exact .smooth (.refl _)
  unfold sendRest
  generalize (if channel.outState = .sendingHeaders then
    channel.sendHeaders transport message else (channel, SendOutcome.sent)) = result at first ⊢
  cases first with
  | failed same => cases message.body <;> exact .failed same
  | @smooth after outcome same =>
      simp only
      split
      · split
        · exact (sendBody_ended transport _ _ _).after same
        · exact .smooth same
      · exact .smooth same

/-- An activation keeps the life cycle, or it reports an error and leaves the output idle. -/
inductive Acted (before : Channel) : Channel → Prop where
  | smooth {after : Channel} (same : SameLife before after) : Acted before after
  | failed {middle after : Channel} (same : SameLife before middle)
      (later : SameLife (middle.setState .error) after) (idle : after.outState = .idle) :
      Acted before after

theorem done_same (channel : Channel) (message : Message) : SameLife channel (channel.done message) :=
  (freeEwouldblockBuffer_same channel).trans ⟨rfl, rfl, rfl, rfl, [_], rfl, by simp [Effect.living]⟩

theorem conclude_acted {before : Channel} {result : Channel × SendOutcome} (message : Message)
    (ended : Ended before result) : Acted before (conclude message result) := by
  cases ended with
  | failed same => exact .failed same (done_same _ _) rfl
  | @smooth after outcome same =>
      cases outcome with
      | sent => exact .smooth (same.trans (done_same _ _))
      | failed => exact .smooth (same.trans (done_same _ _))
      | wouldBlock offset => exact .smooth same
      | fatal => exact .smooth same

theorem _sendMessage_acted (channel : Channel) : Acted channel (channel._sendMessage transport) := by
  have flushed := flush_ended transport channel
  unfold _sendMessage
  split
  · exact .smooth (.refl _)
  · next message _ =>
      generalize channel.flush transport = result at flushed
      cases flushed with
      | failed same => exact conclude_acted message (.failed same)
      | @smooth after outcome same =>
          cases outcome with
          | sent => exact conclude_acted message ((sendRest_ended transport after message).after same)
          | wouldBlock offset => exact conclude_acted message (.smooth same)
          | failed => exact conclude_acted message (.smooth same)
          | fatal => exact conclude_acted message (.smooth same)

/-- The channel failed while it was sending. -/
structure Broken (channel : Channel) : Prop where
  failed : channel.state = .error
  idle : channel.outState = .idle

theorem Acted.after {before middle after : Channel} (first : SameLife before middle)
    (acted : Acted middle after) : Acted before after := by
  cases acted with
  | smooth same => exact .smooth (first.trans same)
  | failed same later idle => exact .failed (first.trans same) later idle

theorem SameLife.extends {before after : Channel} (same : SameLife before after) : Extends before after := by
  obtain ⟨effects, grown, _⟩ := same.grown
  exact ⟨effects, grown.symm⟩

theorem Acted.extends {before after : Channel} (acted : Acted before after) : Extends before after := by
  cases acted with
  | smooth same => exact same.extends
  | failed same later idle => exact (same.extends.trans (setState_extends _ _)).trans later.extends

theorem popOutgoing_broken (fuel : Nat) {channel : Channel} (broken : Broken channel) :
    Broken (popOutgoing transport fuel channel) := by
  cases fuel with
  | zero => exact broken
  | succ fuel =>
      rw [popOutgoing]
      split
      · exact broken
      · simp only
        rw [if_neg (by simp [broken.failed])]
        exact ⟨broken.failed, broken.idle⟩

/-- Messages that cannot be sent are only popped. -/
theorem popOutgoing_same (fuel : Nat) (channel : Channel) (idle : channel.state ≠ .ready) :
    SameLife channel (popOutgoing transport fuel channel) := by
  cases fuel with
  | zero => exact .refl _
  | succ fuel =>
      rw [popOutgoing]
      split
      · exact .refl _
      · simp only
        rw [if_neg (by simp [idle])]
        exact .fields rfl rfl rfl rfl rfl

theorem popOutgoing_acted (fuel : Nat) (channel : Channel) (ready : channel.state = .ready) :
    Acted channel (popOutgoing transport fuel channel) := by
  induction fuel generalizing channel with
  | zero => exact .smooth (.refl _)
  | succ fuel ih =>
      rw [popOutgoing]
      split
      · exact .smooth (.refl _)
      · next message rest _ =>
          simp only
          split
          · have begun : SameLife channel { channel with
                outgoingMessages := rest, curOutMessage := some message, outState := .sendingHeaders } :=
              .fields rfl rfl rfl rfl rfl
            have acted := _sendMessage_acted transport { channel with
              outgoingMessages := rest, curOutMessage := some message, outState := .sendingHeaders }
            change Acted channel (popOutgoing transport fuel (_sendMessage transport { channel with
              outgoingMessages := rest, curOutMessage := some message, outState := .sendingHeaders }))
            generalize _sendMessage transport { channel with
              outgoingMessages := rest, curOutMessage := some message, outState := .sendingHeaders } = sent
              at acted
            cases acted with
            | smooth same => exact (ih _ (same.state.trans ready)).after (begun.trans same)
            | failed same later idle =>
                have failed := later.state.trans (setState_error _ (same.state.trans ready))
                exact .failed (begun.trans same)
                  (later.trans (popOutgoing_same transport fuel _ (by simp [failed])))
                  (popOutgoing_broken transport fuel ⟨failed, idle⟩).idle
          · exact .smooth (.fields rfl rfl rfl rfl rfl)

theorem popOutgoing_extends (fuel : Nat) (channel : Channel) :
    Extends channel (popOutgoing transport fuel channel) := by
  by_cases ready : channel.state = .ready
  · exact (popOutgoing_acted transport fuel channel ready).extends
  · exact (popOutgoing_same transport fuel channel ready).extends

theorem processQueue_acted (channel : Channel) (ready : channel.state = .ready) :
    Acted channel (channel.processQueue transport) := by
  unfold processQueue
  simp only
  split
  · have acted := _sendMessage_acted transport channel
    generalize channel._sendMessage transport = sent at acted
    cases acted with
    | smooth same => exact (popOutgoing_acted transport _ _ (same.state.trans ready)).after same
    | failed same later idle =>
        have failed := later.state.trans (setState_error _ (same.state.trans ready))
        exact .failed same (later.trans (popOutgoing_same transport _ _ (by simp [failed])))
          (popOutgoing_broken transport _ ⟨failed, idle⟩).idle
  · exact popOutgoing_acted transport _ _ ready

theorem processQueue_extends (channel : Channel) : Extends channel (channel.processQueue transport) := by
  unfold processQueue
  simp only
  split
  · exact (_sendMessage_acted transport channel).extends.trans (popOutgoing_extends transport _ _)
  · exact popOutgoing_extends transport _ _

/-- A broken channel only pops one message. -/
theorem processQueue_broken {channel : Channel} (broken : Broken channel) :
    SameLife channel (channel.processQueue transport) ∧ Broken (channel.processQueue transport) := by
  simp only [processQueue, broken.idle, ne_eq, not_true_eq_false, ↓reduceIte]
  exact ⟨popOutgoing_same transport _ _ (by simp [broken.failed]), popOutgoing_broken transport _ broken⟩

end Channel

end BelleSip
