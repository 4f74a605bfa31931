import BelleSip.Channel.Machine
import BelleSip.Channel.Transmission

/-
This file proves when the messages queued on a channel reach the transport once and in order.
-/

namespace BelleSip

open Foundation.FrameQueue

namespace Channel

variable (transport : Nat → SendResult)

/-- The messages that are neither lost nor finished. -/
def unfinished (channel : Channel) : List Message :=
  channel.curOutMessage.toList ++ channel.outgoingMessages

/-- The pending frames of the current message. -/
def currentFrames (channel : Channel) : List (List Byte) :=
  match channel.curOutMessage with
  | none => []
  | some message => channel.pendingFrames message

/-- The frames of each unfinished message. -/
def backlog (channel : Channel) : List (List (List Byte)) :=
  match channel.curOutMessage with
  | none => channel.outgoingMessages.map Message.frames
  | some message => channel.pendingFrames message :: channel.outgoingMessages.map Message.frames

/-- A would-block comes only when at most one message is unfinished, and that message is sent in
chunks; all queued messages can be sent. -/
structure Calm (channel : Channel) : Prop where
  sendable : ∀ message ∈ channel.outgoingMessages, message.sendable
  alone : ∀ index, transport (channel.sends + index) = .wouldBlock →
    drainJobs (takes transport) channel.sends index channel.backlog = [] ∨
      (drainJobs (takes transport) channel.sends index channel.backlog).length = 1 ∧
        ∀ message, channel.unfinished.getLast? = some message → message.chunked = true

/-- Every queued message is finished, current, or waiting, and the wire carries the finished
messages in order followed by what has been sent of the current one. -/
structure Account (channel : Channel) : Prop where
  conserved : queuedOf channel.trace = releasedOf channel.trace ++ channel.unfinished
  carried : bytesOf channel.trace ++ channel.currentFrames.flatten =
    (releasedOf channel.trace ++ channel.curOutMessage.toList).flatMap Message.wire

/-- The account of a channel between two activations. -/
structure Ledger (channel : Channel) : Prop extends Account channel where
  idle : channel.curOutMessage = none → OutputIdle channel
  flying : ∀ message, channel.curOutMessage = some message →
    InFlight channel message ∧ channel.outState = .sendingBody ∧ channel.ewouldblockBuffer.isSome

variable {transport}

variable {message : Message} {channel after : Channel} {bytes : List Byte}

theorem Calm.blocked {channel : Channel} {rest : List Message} {job left : List (List Byte)} {calls : Nat}
    (calm : Calm transport channel) (waiting : channel.unfinished = message :: rest)
    (jobs : channel.backlog = job :: rest.map Message.frames) (nonempty : job ≠ [])
    (served : Served (takes transport) channel.sends job (channel.sends + calls) left bytes) (some_left : left ≠ [])
    (answer : transport (channel.sends + calls) = .wouldBlock) :
    rest = [] ∧ message.chunked = true := by
  have remaining := served.drainJobs_eq nonempty (rest.map Message.frames)
  rw [Nat.add_sub_cancel_left, if_neg some_left] at remaining
  rcases calm.alone calls answer with finished | ⟨single, chunked⟩
  · rw [jobs, remaining] at finished
    simp at finished
  · rw [jobs, remaining] at single
    obtain rfl : rest = [] := by simpa using single
    exact ⟨rfl, chunked message (by rw [waiting]; rfl)⟩

theorem Calm.next {rest : List Message} {job : List (List Byte)} {calls : Nat} (calm : Calm transport channel)
    (waiting : channel.unfinished = message :: rest) (queued : channel.outgoingMessages = rest)
    (jobs : channel.backlog = job :: rest.map Message.frames) (nonempty : job ≠ [])
    (served : Served (takes transport) channel.sends job (channel.sends + calls) [] bytes)
    (counted : after.sends = channel.sends + calls) (current : after.curOutMessage = none)
    (outgoing : after.outgoingMessages = rest) : Calm transport after := by
  have remaining := served.drainJobs_eq nonempty (rest.map Message.frames)
  rw [Nat.add_sub_cancel_left, if_pos rfl] at remaining
  have jobs' : after.backlog = rest.map Message.frames := by rw [backlog, current, outgoing]
  refine ⟨fun other present => calm.sendable other (by rwa [queued, ← outgoing]), fun index answer => ?_⟩
  rw [counted, Nat.add_assoc] at answer
  have shifted : drainJobs (takes transport) channel.sends (calls + index) channel.backlog =
      drainJobs (takes transport) after.sends index after.backlog := by
    rw [drainJobs_add, jobs, remaining, jobs', counted]
  have alone := calm.alone (calls + index) answer
  rw [shifted] at alone
  refine alone.imp id fun ⟨single, chunked⟩ => ⟨single, fun last found => chunked last ?_⟩
  have same : after.unfinished = rest := by rw [unfinished, current, outgoing]; rfl
  rw [same] at found
  rw [waiting]
  cases rest with
  | nil => simp at found
  | cons next others => simpa using found

/-- The work of an activation that does not finish the message moves bytes to the wire. -/
theorem Account.worked {effects : List Effect} {left : List (List Byte)} {sendings calls : Nat}
    (account : Account channel) (current : channel.curOutMessage = some message)
    (served : Served (takes transport) channel.sends (channel.pendingFrames message)
      (channel.sends + calls) left bytes) (work : Work effects bytes sendings)
    (traced : after.trace = channel.trace ++ effects) (same : after.curOutMessage = some message)
    (outgoing : after.outgoingMessages = channel.outgoingMessages) (pending : after.pendingFrames message = left) :
    Account after where
  conserved := by
    rw [traced, queuedOf_append, releasedOf_append, work.unqueued, work.releasedOf_eq_nil,
      List.append_nil, List.append_nil, account.conserved, unfinished, unfinished, current, same, outgoing]
  carried := by
    have carried := account.carried
    rw [currentFrames, current] at carried
    rw [traced, bytesOf_append, releasedOf_append, work.bytes_eq, work.releasedOf_eq_nil, List.append_nil,
      currentFrames, same]
    simp only [pending]
    rw [List.append_assoc, served.flatten_eq, carried]

/-- The work of an activation that finishes the message completes it on the wire. -/
theorem Account.finished {effects : List Effect} {sendings calls : Nat} (account : Account channel)
    (current : channel.curOutMessage = some message)
    (served : Served (takes transport) channel.sends (channel.pendingFrames message)
      (channel.sends + calls) [] bytes) (work : Work effects bytes sendings)
    (traced : after.trace = channel.trace ++ effects ++ [.released message]) (none : after.curOutMessage = none)
    (outgoing : after.outgoingMessages = channel.outgoingMessages) : Account after where
  conserved := by
    have conserved := account.conserved
    rw [unfinished, current] at conserved
    rw [traced, queuedOf_append, releasedOf_append, queuedOf_append, releasedOf_append, work.unqueued,
      work.releasedOf_eq_nil, conserved, unfinished, none, outgoing]
    simp [queuedOf, releasedOf, Effect.queuedMessage, Effect.releasedMessage]
  carried := by
    have carried := account.carried
    have taken := served.flatten_eq
    rw [List.flatten_nil, List.append_nil] at taken
    rw [currentFrames, current] at carried
    simp only [← taken] at carried
    rw [traced, bytesOf_append, bytesOf_append, releasedOf_append, releasedOf_append, work.bytes_eq,
      work.releasedOf_eq_nil, currentFrames, none]
    simpa [bytesOf, releasedOf, Effect.bytes, Effect.releasedMessage] using carried

/-- An activation starts with a new message or with an interrupted body. -/
def Startable (channel : Channel) : Prop :=
  (channel.outState = .sendingHeaders ∧ channel.ewouldblockBuffer = none) ∨
    (channel.outState = .sendingBody ∧ channel.ewouldblockBuffer.isSome)

theorem Startable.pending_ne {channel : Channel} (startable : Startable channel) (message : Message) :
    channel.pendingFrames message ≠ [] := by
  rcases startable with ⟨headers, unblocked⟩ | ⟨_, kept⟩
  · simp [pendingFrames, blockedFrames, plannedFrames, headers, unblocked, Message.frames]
  · obtain ⟨buffer, kept⟩ := Option.isSome_iff_exists.mp kept
    simp [pendingFrames, blockedFrames, kept]

/-- One activation of `_send_message` finishes the message, is interrupted with nothing waiting, or
breaks the channel. -/
theorem activation_ledger (never : ∀ index, transport index ≠ .closed) (inFlight : InFlight channel message)
    (startable : Startable channel) (account : Account channel) (ready : channel.state = .ready)
    (calm : Calm transport channel) (activation : Activation transport channel message after) :
    (Ledger after ∧ Calm transport after ∧ after.curOutMessage = none ∧ after.state = .ready ∧
        after.outgoingMessages = channel.outgoingMessages) ∨
      (Ledger after ∧ after.outgoingMessages = [] ∧ after.state = .ready ∧ after.outState ≠ .idle) ∨
      Broken after := by
  have current := inFlight.current
  have waiting : channel.unfinished = message :: channel.outgoingMessages := by
    rw [unfinished, current]
    rfl
  have jobs : channel.backlog =
      channel.pendingFrames message :: channel.outgoingMessages.map Message.frames := by
    rw [backlog, current]
  have nonempty := startable.pending_ne message
  cases activation with
  | released calls transfered effects bytes served work disciplined stopped =>
      refine .inl ⟨⟨?_, fun _ => ⟨rfl, rfl, rfl⟩, fun other same => ?_⟩, ?_, rfl, ready, rfl⟩
      · exact account.finished current served work rfl rfl rfl
      · exact absurd same (by simp [emit])
      · exact calm.next waiting rfl jobs nonempty served rfl rfl rfl
  | flushing pieces buffer left kept inside answer served =>
      have alone := calm.blocked waiting jobs nonempty served (List.cons_ne_nil _ _) answer
      have body : channel.outState = .sendingBody := by
        rcases startable with ⟨_, unblocked⟩ | ⟨body, _⟩
        · rw [unblocked] at kept
          simp at kept
        · exact body
      refine .inr (.inl ⟨⟨?_, fun none => ?_, fun other same => ?_⟩, alone.1, ready, inFlight.busy⟩)
      · exact account.worked current served (Work.pieces pieces) rfl current rfl (pending_flushing channel message kept)
      · change channel.curOutMessage = _ at none
        rw [current] at none
        simp at none
      · change channel.curOutMessage = _ at same
        obtain rfl : message = other := by simpa [current] using same
        exact ⟨inFlight.flushing kept inside, body, by simp [refused, taking, kept]⟩
  | single calls transfered effects bytes rest headers single some_left answer served work =>
      have alone := calm.blocked waiting jobs nonempty served (List.cons_ne_nil _ _) answer
      rw [single] at alone
      simp at alone
  | body handler calls transfered effects bytes rest bodyEq chunked inside some_left answer served work
      disciplined stopped =>
      have alone := calm.blocked waiting jobs nonempty served (List.cons_ne_nil _ _) answer
      refine .inr (.inl ⟨⟨?_, fun none => ?_, fun other same => ?_⟩, alone.1, ready, by simp⟩)
      · exact account.worked current served work rfl current rfl (pending_chunk channel message bodyEq)
      · change channel.curOutMessage = _ at none
        rw [current] at none
        simp at none
      · change channel.curOutMessage = _ at same
        obtain rfl : message = other := by simpa [current] using same
        exact ⟨inFlight.chunk bodyEq chunked inside some_left, rfl, rfl⟩
  | failed after failure =>
      refine .inr (.inr ⟨?_, rfl⟩)
      rcases failure with ⟨index, answer⟩ | ⟨_, failed⟩
      · exact absurd answer (never index)
      · have kept : (after.done message).state = after.state := by
          unfold done freeEwouldblockBuffer
          split <;> rfl
        rw [kept, failed ready]

/-- The channel has sent all it can, or it is broken. -/
def Exhausted (channel : Channel) : Prop :=
  (Ledger channel ∧ channel.outgoingMessages = [] ∧ channel.state = .ready) ∨ Broken channel

theorem popOutgoing_send (fuel : Nat) {channel : Channel} {rest : List Message}
    (queued : channel.outgoingMessages = message :: rest) (ready : channel.state = .ready)
    (idle : channel.outState = .idle) :
    popOutgoing transport (fuel + 1) channel = popOutgoing transport fuel
      (_sendMessage transport { channel with
        outgoingMessages := rest, curOutMessage := some message, outState := .sendingHeaders }) := by
  rw [popOutgoing, queued]
  simp only
  rw [if_pos ⟨ready, idle⟩]
  rfl

/-- Popping sends the waiting messages one after the other. -/
theorem popOutgoing_exhausted (never : ∀ index, transport index ≠ .closed) (fuel : Nat)
    {channel : Channel} (ledger : Ledger channel) (current : channel.curOutMessage = none)
    (ready : channel.state = .ready) (calm : Calm transport channel)
    (enough : channel.outgoingMessages.length ≤ fuel) :
    Exhausted (popOutgoing transport fuel channel) := by
  induction fuel generalizing channel with
  | zero =>
      have empty : channel.outgoingMessages = [] := List.eq_nil_of_length_eq_zero (by omega)
      exact .inl ⟨ledger, empty, ready⟩
  | succ fuel ih =>
      cases queued : channel.outgoingMessages with
      | nil =>
          rw [popOutgoing, queued]
          exact .inl ⟨ledger, queued, ready⟩
      | cons message rest =>
          have idle := ledger.idle current
          rw [popOutgoing_send fuel queued ready idle.idle]
          generalize begunIs : { channel with
            outgoingMessages := rest, curOutMessage := some message, outState := .sendingHeaders } = begun
          have unblocked : begun.ewouldblockBuffer = none := by rw [← begunIs]; exact idle.unblocked
          have inFlight : InFlight begun message := by
            subst begunIs
            refine ⟨rfl, calm.sendable message (by simp [queued]), by simp, fun buffer kept => ?_,
              fun _ => idle.reset, by simp⟩
            rw [unblocked] at kept
            simp at kept
          have frames : begun.pendingFrames message = message.frames := by
            subst begunIs
            simp [pendingFrames, blockedFrames, plannedFrames, idle.unblocked]
          have waiting : begun.unfinished = channel.unfinished := by
            subst begunIs
            simp [unfinished, current, queued]
          have jobs : begun.backlog = channel.backlog := by
            have same : begun.backlog = begun.pendingFrames message :: rest.map Message.frames := by
              rw [← begunIs]
              rfl
            rw [same, frames, backlog, current, queued]
            rfl
          have account : Account begun := by
            refine ⟨?_, ?_⟩
            · rw [waiting, ← begunIs]
              exact ledger.conserved
            · have carried := ledger.carried
              rw [currentFrames, current] at carried
              have hand : begun.currentFrames = message.frames := by
                simp only [currentFrames, inFlight.current, frames]
              rw [hand, message.frames_flatten, ← begunIs]
              simpa using carried
          have calm' : Calm transport begun := by
            refine ⟨fun other present => calm.sendable other ?_, ?_⟩
            · rw [queued]
              rw [← begunIs] at present
              exact List.mem_cons_of_mem _ present
            · rw [jobs, waiting, ← begunIs]
              exact calm.alone
          rcases activation_ledger never inFlight (.inl ⟨by rw [← begunIs], unblocked⟩) account
            (by rw [← begunIs]; exact ready) calm' (_sendMessage_activation transport begun message inFlight)
            with ⟨ledger, calm, none, ready, same⟩ | ⟨ledger, empty, ready, busy⟩ | broken
          · refine ih ledger none ready calm ?_
            rw [same, ← begunIs]
            rw [queued, List.length_cons] at enough
            exact Nat.le_of_succ_le_succ enough
          · have unchanged : popOutgoing transport fuel (begun._sendMessage transport) =
                begun._sendMessage transport := by
              cases fuel with
              | zero => rfl
              | succ fuel => rw [popOutgoing, empty]
            rw [unchanged]
            exact .inl ⟨ledger, empty, ready⟩
          · exact .inr (popOutgoing_broken transport fuel broken)

theorem processQueue_exhausted (never : ∀ index, transport index ≠ .closed) {channel : Channel}
    (ledger : Ledger channel) (ready : channel.state = .ready) (calm : Calm transport channel) :
    Exhausted (channel.processQueue transport) := by
  rw [processQueue]
  cases current : channel.curOutMessage with
  | none =>
      simp only [(ledger.idle current).idle, ne_eq, not_true_eq_false, ↓reduceIte]
      exact popOutgoing_exhausted never _ ledger current ready calm (Nat.le_refl _)
  | some message =>
      obtain ⟨inFlight, body, kept⟩ := ledger.flying message current
      simp only [inFlight.busy, ne_eq, not_false_eq_true, ↓reduceIte]
      rcases activation_ledger never inFlight (.inr ⟨body, kept⟩) ledger.toAccount ready calm
        (_sendMessage_activation transport channel message inFlight)
        with ⟨ledger, calm, none, ready, _⟩ | ⟨ledger, empty, ready, _⟩ | broken
      · exact popOutgoing_exhausted never _ ledger none ready calm (Nat.le_refl _)
      · rw [empty]
        exact .inl ⟨ledger, empty, ready⟩
      · exact .inr (popOutgoing_broken transport _ broken)

/-- A life cycle change leaves the output side of a channel as it is. -/
structure SameOutput (before after : Channel) : Prop where
  outgoing : after.outgoingMessages = before.outgoingMessages
  current : after.curOutMessage = before.curOutMessage
  outState : after.outState = before.outState
  buffer : after.ewouldblockBuffer = before.ewouldblockBuffer
  offset : after.ewouldblockOffset = before.ewouldblockOffset
  transfered : after.transferedSize = before.transferedSize
  sends : after.sends = before.sends
  bytes : bytesOf after.trace = bytesOf before.trace
  queued : queuedOf after.trace = queuedOf before.trace
  released : releasedOf after.trace = releasedOf before.trace

namespace SameOutput

theorem refl (channel : Channel) : SameOutput channel channel := by constructor <;> rfl

theorem trans {first second third : Channel} (early : SameOutput first second)
    (late : SameOutput second third) : SameOutput first third where
  outgoing := late.outgoing.trans early.outgoing
  current := late.current.trans early.current
  outState := late.outState.trans early.outState
  buffer := late.buffer.trans early.buffer
  offset := late.offset.trans early.offset
  transfered := late.transfered.trans early.transfered
  sends := late.sends.trans early.sends
  bytes := late.bytes.trans early.bytes
  queued := late.queued.trans early.queued
  released := late.released.trans early.released

theorem emit (channel : Channel) (effect : Effect) (silent : effect.bytes = [])
    (unqueued : effect.queuedMessage = []) (unreleased : effect.releasedMessage = []) :
    SameOutput channel (channel.emit effect) := by
  constructor <;> simp [Channel.emit, bytesOf, queuedOf, releasedOf, silent, unqueued, unreleased]

theorem ledger {before after : Channel} (same : SameOutput before after) (ledger : Ledger before) :
    Ledger after := by
  have pending (message : Message) : after.pendingFrames message = before.pendingFrames message := by
    simp only [pendingFrames, blockedFrames, plannedFrames, same.buffer, same.offset, same.outState,
      same.transfered]
  refine ⟨⟨?_, ?_⟩, fun none => ?_, fun message current => ?_⟩
  · rw [same.queued, same.released, ledger.conserved, unfinished, unfinished, same.current, same.outgoing]
  · have frames : after.currentFrames = before.currentFrames := by
      simp only [currentFrames, same.current, pending]
    rw [same.bytes, same.released, same.current, frames, ledger.carried]
  · have idle := ledger.idle (same.current.symm.trans none)
    exact ⟨same.outState.trans idle.idle, same.buffer.trans idle.unblocked, same.offset.trans idle.reset⟩
  · obtain ⟨inFlight, body, kept⟩ := ledger.flying message (same.current.symm.trans current)
    refine ⟨⟨current, inFlight.sendable, ?_, ?_, ?_, ?_⟩, same.outState.trans body, ?_⟩
    · rw [same.outState]
      exact inFlight.busy
    · rw [same.buffer, same.offset]
      exact inFlight.inside
    · rw [same.buffer, same.offset]
      exact inFlight.reset
    · rw [same.outState, same.transfered]
      exact inFlight.body
    · rw [same.buffer]
      exact kept

end SameOutput

theorem invokeStateListener_same (channel : Channel) : SameOutput channel channel.invokeStateListener := by
  have provider (channel : Channel) : SameOutput channel channel.channelStateChanged := by
    unfold channelStateChanged
    split
    · constructor <;> simp [emit, bytesOf, queuedOf, releasedOf, Effect.bytes, Effect.queuedMessage,
        Effect.releasedMessage]
    · exact SameOutput.refl _
  have closing : SameOutput channel (if channel.state.terminal then channel.close else channel) := by
    split
    · exact SameOutput.emit _ _ rfl rfl rfl
    · exact SameOutput.refl _
  unfold invokeStateListener
  simp only
  generalize (if channel.state.terminal then channel.close else channel) = prepared at closing ⊢
  refine closing.trans ((SameOutput.emit prepared (.onStateChanged prepared.state) rfl rfl rfl).trans ?_)
  split
  · exact provider _
  · exact SameOutput.refl _

theorem enterState_same (channel : Channel) (state : ChannelState) :
    SameOutput channel (channel.enterState state) := by
  have entered : SameOutput channel { channel with state := state } := by constructor <;> rfl
  exact entered.trans (invokeStateListener_same _)

theorem doLater_same (channel : Channel) (task : DeferredTask) : SameOutput channel (channel.doLater task) := by
  constructor <;> rfl

theorem handleError_same (channel : Channel) : SameOutput channel channel.handleError := by
  have given_up : SameOutput channel
      (doLater { channel with state := .error } .invokeStateListenerDefered) := by
    constructor <;> rfl
  unfold handleError
  split
  · split
    · next next_peer others _ _ =>
        have moved : SameOutput channel { channel with currentPeer := next_peer :: others } := by
          constructor <;> rfl
        exact ((moved.trans (enterState_same _ _)).trans (SameOutput.emit _ _ rfl rfl rfl)).trans
          (doLater_same _ _)
    · exact given_up
  · exact given_up

theorem setState_same (channel : Channel) (state : ChannelState) :
    SameOutput channel (channel.setState state) := by
  unfold setState
  split
  · exact handleError_same channel
  · exact enterState_same channel state

theorem connect_same (environment : Environment) (channel : Channel) :
    SameOutput channel (connect environment channel).1 := by
  unfold connect
  have connecting := setState_same channel .connecting
  cases environment.connection with
  | pending => exact connecting
  | failed => exact connecting.trans (setState_same (channel.setState .connecting) .error)
  | ready => exact connecting.trans (setState_same (channel.setState .connecting) .ready)

theorem resDone_same (addresses : List Address) (environment : Environment) (channel : Channel) :
    SameOutput channel (resDone addresses environment channel).1 := by
  unfold resDone
  split
  · exact setState_same channel .error
  · have moved : SameOutput channel { channel with currentPeer := addresses } := by constructor <;> rfl
    exact (moved.trans (setState_same _ _)).trans (connect_same _ _)

theorem prepareContinue_same (environment : Environment) (channel : Channel) :
    SameOutput channel (prepareContinue environment channel).1 := by
  unfold prepareContinue
  split
  · unfold resolve
    have resolving := setState_same channel .resInProgress
    cases environment.resolution with
    | none => exact resolving
    | some addresses => exact resolving.trans (resDone_same _ _ _)
  · exact connect_same _ _
  · exact SameOutput.refl _
  · exact SameOutput.refl _

theorem runDeferred_same (index : Nat) (environment : Environment) (channel : Channel) :
    SameOutput channel (runDeferred index environment channel).1 := by
  have taken : SameOutput channel (channel.takeDeferred index) := by constructor <;> rfl
  unfold runDeferred
  split
  · exact SameOutput.refl _
  · exact taken.trans (connect_same _ _)
  · exact taken.trans (invokeStateListener_same _)

theorem advance_same (channel : Channel) (event : Event) :
    SameOutput channel (channel.advance event).1 ∨
      ∃ message environment, event = .queueMessage message environment ∧ channel.state = .init ∧
        SameOutput (channel.pushOutgoing message) (channel.advance event).1 := by
  cases event with
  | queueMessage message environment =>
      by_cases initial : channel.state = .init
      · refine .inr ⟨message, environment, rfl, initial, ?_⟩
        simp only [advance, queueMessage, if_pos initial]
        exact prepareContinue_same _ _
      · refine .inl ?_
        simp only [advance, queueMessage, if_neg initial]
        exact SameOutput.refl _
  | prepare environment => exact .inl (prepareContinue_same _ _)
  | resolved addresses environment => exact .inl (resDone_same _ _ _)
  | connected environment =>
      refine .inl ?_
      simp only [advance]
      split
      · exact setState_same channel .ready
      · exact SameOutput.refl _
  | connectFailed =>
      refine .inl ?_
      simp only [advance]
      split
      · exact setState_same _ _
      · exact SameOutput.refl _
  | received now => exact .inl (by constructor <;> rfl)
  | endOfStream => exact .inl (setState_same channel .disconnected)
  | receiveFailed => exact .inl (setState_same channel .error)
  | writable => exact .inl (SameOutput.refl _)
  | inactivityTimeout => exact .inl (setState_same channel .disconnected)
  | keepAliveFailed =>
      refine .inl ?_
      simp only [advance]
      split
      · exact (setState_same _ _).trans (SameOutput.emit _ _ rfl rfl rfl)
      · exact SameOutput.refl _
  | timeoutNotified now =>
      refine .inl ?_
      simp only [advance, notifyTimeout]
      split
      · exact setState_same channel .error
      · exact SameOutput.refl _
  | forceClosed =>
      have forced : SameOutput channel { channel with forceClose := true } := by constructor <;> rfl
      exact .inl (forced.trans (setState_same { channel with forceClose := true } .disconnected))
  | deferred index environment => exact .inl (runDeferred_same _ _ _)

/-- The output work of an event starts on a ready channel; without work the channel does not get
ready. -/
def Prepared (channel : Channel) (result : Channel × List Activity) : Prop :=
  (result.2 = [] ∧ (result.1.state = .ready → channel.state = .ready)) ∨
    (result.2 ≠ [] ∧ result.1.state = .ready)

namespace Prepared

theorem same (channel : Channel) : Prepared channel (channel, []) := .inl ⟨rfl, id⟩

theorem quiet {channel after : Channel} (idle : after.state ≠ .ready) : Prepared channel (after, []) :=
  .inl ⟨rfl, fun ready => absurd ready idle⟩

end Prepared

theorem setReady_prepared (before : Channel) (environment : Environment) (channel : Channel) :
    Prepared before (setReady environment channel) :=
  .inr ⟨by simp [setReady], setState_state channel .ready (by decide)⟩

theorem connect_prepared (before : Channel) (environment : Environment) (channel : Channel) :
    Prepared before (connect environment channel) := by
  have connecting : (channel.setState .connecting).state = .connecting :=
    setState_state channel .connecting (by decide)
  unfold connect
  cases environment.connection with
  | pending => exact .quiet (by simp [connecting])
  | failed => exact .quiet (setState_error_not_ready (channel.setState .connecting))
  | ready => exact setReady_prepared _ _ _

theorem resDone_prepared (before : Channel) (addresses : List Address) (environment : Environment)
    (channel : Channel) : Prepared before (resDone addresses environment channel) := by
  unfold resDone
  split
  · exact .quiet (setState_error_not_ready channel)
  · exact connect_prepared _ _ _

theorem prepareContinue_prepared (before : Channel) (environment : Environment) (channel : Channel) :
    Prepared before (prepareContinue environment channel) := by
  unfold prepareContinue
  split
  · unfold resolve
    cases environment.resolution with
    | none =>
        refine .quiet ?_
        rw [setState_state channel .resInProgress (by decide)]
        decide
    | some addresses => exact resDone_prepared _ _ _ _
  · exact connect_prepared _ _ _
  · next ready => exact .inr ⟨by simp, ready⟩
  · next other => exact .quiet other

theorem disconnected_prepared (before channel : Channel) :
    Prepared before (channel.setState .disconnected, []) := by
  refine .quiet ?_
  rw [setState_state channel .disconnected (by decide)]
  decide

/-- Output work starts on a ready channel, or it is a message queued by itself. -/
theorem advance_prepared (channel : Channel) (event : Event) :
    Prepared channel (channel.advance event) ∨
      ∃ message environment, event = .queueMessage message environment ∧
        channel.advance event = (channel, [.queue message]) := by
  cases event with
  | queueMessage message environment =>
      by_cases initial : channel.state = .init
      · simp only [advance, queueMessage, if_pos initial]
        exact .inl (prepareContinue_prepared _ _ _)
      · refine .inr ⟨message, environment, rfl, ?_⟩
        simp only [advance, queueMessage, if_neg initial]
  | prepare environment => exact .inl (prepareContinue_prepared _ _ _)
  | resolved addresses environment => exact .inl (resDone_prepared _ _ _ _)
  | connected environment =>
      simp only [advance]
      split
      · exact .inl (setReady_prepared _ _ _)
      · exact .inl (.same _)
  | connectFailed =>
      simp only [advance]
      split
      · exact .inl (.quiet (setState_error_not_ready channel))
      · exact .inl (.same _)
  | received now => exact .inl (.inl ⟨rfl, id⟩)
  | endOfStream => exact .inl (disconnected_prepared _ _)
  | receiveFailed => exact .inl (.quiet (setState_error_not_ready channel))
  | writable =>
      simp only [advance]
      split
      · next ready => exact .inl (.inr ⟨by simp, ready⟩)
      · exact .inl (.same _)
  | inactivityTimeout => exact .inl (disconnected_prepared _ _)
  | keepAliveFailed =>
      simp only [advance]
      split
      · exact .inl (.quiet (setState_error_not_ready channel))
      · exact .inl (.same _)
  | timeoutNotified now =>
      simp only [advance, notifyTimeout]
      split
      · exact .inl (.quiet (setState_error_not_ready channel))
      · exact .inl (.same _)
  | forceClosed => exact .inl (disconnected_prepared _ _)
  | deferred index environment =>
      simp only [advance, runDeferred]
      split
      · exact .inl (.same _)
      · exact .inl (connect_prepared _ _ _)
      · refine .inl (.inl ⟨rfl, fun ready => ?_⟩)
        rwa [invokeStateListener_state] at ready

variable {channel : Channel}

/-- A message that is queued joins the messages that wait. -/
theorem Ledger.push (ledger : Ledger channel) (message : Message) :
    Ledger (channel.pushOutgoing message) := by
  refine ⟨⟨?_, ?_⟩, fun none => ?_, fun other current => ?_⟩
  · have conserved := ledger.conserved
    simp only [pushOutgoing, emit, unfinished, queuedOf_append, releasedOf_append] at conserved ⊢
    rw [conserved]
    simp [queuedOf, releasedOf, Effect.queuedMessage, Effect.releasedMessage]
  · have carried := ledger.carried
    have frames : (channel.pushOutgoing message).currentFrames = channel.currentFrames := rfl
    rw [frames]
    simpa [pushOutgoing, emit, bytesOf, releasedOf, Effect.bytes, Effect.releasedMessage] using carried
  · exact ⟨(ledger.idle none).idle, (ledger.idle none).unblocked, (ledger.idle none).reset⟩
  · obtain ⟨inFlight, body, kept⟩ := ledger.flying other current
    exact ⟨⟨current, inFlight.sendable, inFlight.busy, inFlight.inside, inFlight.reset, inFlight.body⟩,
      body, kept⟩

/-- The state in which an activity starts to send. -/
def entered (channel : Channel) : Activity → Channel
  | .queue message => channel.pushOutgoing message
  | .resume => channel

variable (transport)

/-- An activity of a ready channel starts calmly. -/
def CalmActivity (channel : Channel) (activity : Activity) : Prop :=
  channel.state = .ready → Calm transport (channel.entered activity)

/-- The channel has not failed, and its output work is calm. -/
structure Orderly (channel : Channel) (event : Event) : Prop where
  alive : channel.state.terminal = false
  calm : Foundation.Machine.Along (activate transport) (CalmActivity transport)
    (channel.advance event).1 (channel.advance event).2

variable {transport}

/-- A ready channel with its ledger, or a broken one. -/
def Working (channel : Channel) : Prop :=
  (Ledger channel ∧ channel.state = .ready) ∨ Broken channel

theorem Exhausted.working (exhausted : Exhausted channel) : Working channel :=
  exhausted.imp (fun ⟨ledger, _, ready⟩ => ⟨ledger, ready⟩) id

theorem activate_exhausted (never : ∀ index, transport index ≠ .closed) {activity : Activity}
    (working : Working channel) (calm : CalmActivity transport channel activity) :
    Exhausted (activate transport channel activity) := by
  rcases working with ⟨ledger, ready⟩ | broken
  · have calm := calm ready
    cases activity with
    | resume => exact processQueue_exhausted never ledger ready calm
    | queue message =>
        have pushed : (channel.pushOutgoing message).state = .ready := ready
        simp only [activate, if_pos pushed]
        exact processQueue_exhausted never (ledger.push message) pushed calm
  · refine .inr ?_
    cases activity with
    | resume => exact (processQueue_broken transport broken).2
    | queue message =>
        have pushed : (channel.pushOutgoing message).state ≠ .ready := by
          change channel.state ≠ _
          simp [broken.failed]
        simp only [activate, if_neg pushed]
        exact ⟨broken.failed, broken.idle⟩

theorem activities_exhausted (never : ∀ index, transport index ≠ .closed) {activities : List Activity}
    (working : Working channel)
    (calm : Foundation.Machine.Along (activate transport) (CalmActivity transport) channel activities)
    (some_work : activities ≠ []) :
    Exhausted (Foundation.Machine.run (activate transport) channel activities) := by
  induction activities generalizing channel with
  | nil => exact absurd rfl some_work
  | cons activity rest ih =>
      have exhausted := activate_exhausted never working calm.1
      cases rest with
      | nil => exact exhausted
      | cons next others => exact ih exhausted.working calm.2 (List.cons_ne_nil _ _)

/-- A channel that has not failed accounts for all its messages, and a ready one keeps none waiting. -/
structure Accounted (channel : Channel) : Prop where
  ledger : Ledger channel
  sent : channel.state = .ready → channel.outgoingMessages = []

theorem step_accounted (never : ∀ index, transport index ≠ .closed) {event : Event}
    (accounted : channel.state.terminal = false → Accounted channel) (orderly : Orderly transport channel event) :
    (channel.step transport event).state.terminal = false → Accounted (channel.step transport event) := by
  intro alive
  have before := accounted orderly.alive
  have ledger : Ledger (channel.advance event).1 := by
    rcases channel.advance_same event with same | ⟨message, environment, _, _, same⟩
    · exact same.ledger before.ledger
    · exact same.ledger (before.ledger.push message)
  have finish {result : Channel} (exhausted : Exhausted result) (alive : result.state.terminal = false) :
      Accounted result := by
    rcases exhausted with ⟨ledger, empty, _⟩ | broken
    · exact ⟨ledger, fun _ => empty⟩
    · simp [broken.failed, ChannelState.terminal] at alive
  have calm := orderly.calm
  rcases channel.advance_prepared event with (⟨none, kept⟩ | ⟨some_work, ready⟩) |
    ⟨message, environment, rfl, same⟩
  · have unchanged : channel.step transport event = (channel.advance event).1 := by
      rw [step, none]
      rfl
    rw [unchanged]
    refine ⟨ledger, fun ready => ?_⟩
    rcases channel.advance_same event with same | ⟨message, environment, _, initial, _⟩
    · rw [same.outgoing]
      exact before.sent (kept ready)
    · rw [kept ready] at initial
      simp at initial
  · exact finish (activities_exhausted never (.inl ⟨ledger, ready⟩) calm some_work) alive
  · have ran : channel.step transport (.queueMessage message environment) =
        activate transport channel (.queue message) := by
      rw [step, same]
      rfl
    rw [same] at calm
    rw [ran] at alive ⊢
    by_cases ready : channel.state = .ready
    · exact finish (activate_exhausted never (.inl ⟨before.ledger, ready⟩) calm.1) alive
    · have pushed : (channel.pushOutgoing message).state ≠ .ready := ready
      simp only [activate, if_neg pushed]
      exact ⟨before.ledger.push message, fun ready => absurd ready pushed⟩

/-- A channel that has not been used yet. -/
structure Unused (channel : Channel) : Prop where
  idle : OutputIdle channel
  current : channel.curOutMessage = none
  outgoing : channel.outgoingMessages = []
  bytes : bytesOf channel.trace = []
  queued : queuedOf channel.trace = []
  released : releasedOf channel.trace = []

theorem Unused.accounted (unused : Unused channel) : Accounted channel := by
  refine ⟨⟨⟨?_, ?_⟩, fun _ => unused.idle, fun message current => ?_⟩, fun _ => unused.outgoing⟩
  · rw [unused.queued, unused.released, unfinished, unused.current, unused.outgoing]
    rfl
  · rw [unused.bytes, unused.released, unused.current, currentFrames, unused.current]
    rfl
  · rw [unused.current] at current
    simp at current

/-- A ready channel without a current message has put every queued message on the wire. -/
theorem Accounted.transmitted (accounted : Accounted channel) (ready : channel.state = .ready)
    (current : channel.curOutMessage = none) :
    bytesOf channel.trace = (queuedOf channel.trace).flatMap Message.wire := by
  have carried := accounted.ledger.carried
  rw [currentFrames, current] at carried
  rw [accounted.ledger.conserved, unfinished, current, accounted.sent ready]
  simpa using carried

variable (transport)

/-- Every queued message is finished, current, or waiting, and the wire carries each message once and
in order, along every run whose would-blocks find one unfinished message that is sent in chunks. -/
theorem run_accounted (never : ∀ index, transport index ≠ .closed) (start : Channel) (unused : Unused start)
    (events : List Event)
    (orderly : Foundation.Machine.Along (step transport) (Orderly transport) start events)
    (alive : (Foundation.Machine.run (step transport) start events).state.terminal = false) :
    Accounted (Foundation.Machine.run (step transport) start events) ∧
      ((Foundation.Machine.run (step transport) start events).state = .ready →
        (Foundation.Machine.run (step transport) start events).curOutMessage = none →
        bytesOf (Foundation.Machine.run (step transport) start events).trace =
          (queuedOf (Foundation.Machine.run (step transport) start events).trace).flatMap
            Message.wire) := by
  have preserved (channel : Channel) (event : Event)
      (accounted : channel.state.terminal = false → Accounted channel)
      (orderly : Orderly transport channel event) :
      (channel.step transport event).state.terminal = false → Accounted (channel.step transport event) :=
    step_accounted never accounted orderly
  have accounted := Foundation.Machine.run_invariant preserved (fun _ => unused.accounted) orderly alive
  exact ⟨accounted, accounted.transmitted⟩

/-- The resolver and the connection succeed at once. -/
def immediate : Environment := { resolution := some ["192.0.2.1:5060"], connection := .ready }

/-- The channel is blocked while it sends the body. -/
def interrupted : Channel := step blockSecond {} (.queueMessage chunkedMessage immediate)

theorem interrupted_eq :
    interrupted.state = .ready ∧ interrupted.sends = 2 ∧ interrupted.outgoingMessages = [] ∧
      interrupted.curOutMessage.isSome = true := by
  have fields : interrupted.state = .ready ∧ interrupted.sends = 2 ∧ interrupted.outgoingMessages.isEmpty = true ∧
      interrupted.curOutMessage.isSome = true := by
    decide +kernel
  exact ⟨fields.1, fields.2.1, List.isEmpty_iff.mp fields.2.2.1, fields.2.2.2⟩

/-- Nothing blocks once the body is sent. -/
theorem orderly_behind {channel : Channel} (ready : channel.state = .ready) (waiting : channel.outgoingMessages = [])
    (late : 1 < channel.sends) : Orderly blockSecond channel (.queueMessage optionsMessage {}) := by
  have later : channel.state ≠ .init := by
    rw [ready]
    decide
  have entered : channel.advance (.queueMessage optionsMessage {}) = (channel, [.queue optionsMessage]) := if_neg later
  refine ⟨by rw [ready]; rfl, ?_⟩
  rw [entered]
  refine ⟨fun _ => ⟨?_, ?_⟩, trivial⟩
  · intro message present
    have only : message ∈ channel.outgoingMessages ++ [optionsMessage] := present
    rw [waiting] at only
    obtain rfl : message = optionsMessage := List.mem_singleton.mp only
    exact ⟨by decide, by simp [optionsMessage]⟩
  · intro index blocked
    have second : channel.sends + index = 1 := blockSecond_wouldBlock blocked
    omega

/-- Both events are orderly: the would-block finds the body of the only message. -/
theorem interrupted_orderly :
    Foundation.Machine.Along (step blockSecond) (Orderly blockSecond) {}
      [.queueMessage chunkedMessage immediate, .queueMessage optionsMessage {}] := by
  obtain ⟨ready, sends, waiting, -⟩ := interrupted_eq
  refine ⟨⟨rfl, fun _ => ⟨?_, ?_⟩, trivial⟩, orderly_behind ready waiting (Nat.lt_of_lt_of_eq (by decide) sends.symm),
    trivial⟩
  · intro message present
    obtain rfl : message = chunkedMessage := List.mem_singleton.mp present
    exact chunkedMessage_sendable
  · intro index blocked
    obtain rfl : index = 1 := (Nat.zero_add index).symm.trans (blockSecond_wouldBlock blocked)
    refine .inr ⟨by decide +kernel, ?_⟩
    rintro message ⟨⟩
    decide +kernel

/-- A message is queued behind the one that is interrupted: both are on the wire, each of them once. -/
theorem run_accounted_interrupted :
    let sent := Foundation.Machine.run (step blockSecond) {}
      [.queueMessage chunkedMessage immediate, .queueMessage optionsMessage {}]
    interrupted.curOutMessage.isSome = true ∧ sent.state = .ready ∧ (releasedOf sent.trace).length = 2 ∧
      Accounted sent ∧ bytesOf sent.trace = (queuedOf sent.trace).flatMap Message.wire := by
  intro sent
  have done : sent.state = .ready ∧ sent.curOutMessage.isNone = true ∧ (releasedOf sent.trace).length = 2 := by
    decide +kernel
  have alive : sent.state.terminal = false := by
    rw [done.1]
    rfl
  obtain ⟨accounted, transmitted⟩ := @run_accounted blockSecond (fun index => (blockSecond_soft index).1) {}
    ⟨⟨rfl, rfl, rfl⟩, rfl, rfl, rfl, rfl, rfl⟩ _ interrupted_orderly alive
  exact ⟨interrupted_eq.2.2.2, done.1, done.2.2, accounted,
    transmitted done.1 (Option.isNone_iff_eq_none.mp done.2.1)⟩

/-- The transport blocks twice, then takes everything. -/
def blockTwice : Nat → SendResult
  | 0 | 1 => .wouldBlock
  | _ => .accepted 100

/-- The second of two messages is popped and lost while the first one is blocked. -/
theorem popped_message_lost :
    (∀ index, blockTwice index ≠ .closed) ∧
      (Foundation.Machine.run (step blockTwice) {}
        [.queueMessage optionsMessage immediate, .queueMessage optionsMessage {}]).state = .ready ∧
      ¬Account (Foundation.Machine.run (step blockTwice) {}
        [.queueMessage optionsMessage immediate, .queueMessage optionsMessage {}]) := by
  refine ⟨fun index => ?_, rfl, fun account => ?_⟩
  · match index with
    | 0 => decide
    | 1 => decide
    | _ + 2 => simp [blockTwice]
  · have queued : (queuedOf (Foundation.Machine.run (step blockTwice) {}
        [.queueMessage optionsMessage immediate, .queueMessage optionsMessage {}]).trace).length = 2 := rfl
    have kept : (releasedOf (Foundation.Machine.run (step blockTwice) {}
          [.queueMessage optionsMessage immediate, .queueMessage optionsMessage {}]).trace ++
        (Foundation.Machine.run (step blockTwice) {}
          [.queueMessage optionsMessage immediate, .queueMessage optionsMessage {}]).unfinished).length = 1 := rfl
    rw [account.conserved, kept] at queued
    simp at queued

end Channel

end BelleSip
