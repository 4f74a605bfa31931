import BelleSip.Channel.Queue

/-
This file proves when the byte stream of a channel keeps its keep-alives between complete messages.
-/

namespace BelleSip

open Foundation.FrameQueue

def crlf : List Byte := [13, 10]

/-- The text that `send_keep_alive` sends. -/
def keepAliveText : List Byte := crlf ++ crlf

/-- The callbacks of a stream channel and of the keep-alive timer of its listening point. -/
inductive StreamEvent where
  | event (event : Event)
  | keepAlive

namespace Channel

variable (transport : Nat → SendResult)

/-- This is `send_keep_alive`, which returns whether it succeeds; it keeps no bytes that the transport
has not taken. -/
def sendKeepAlive (channel : Channel) : Channel × Bool :=
  let called := { channel with sends := channel.sends + 1 }
  match transport channel.sends with
  | .accepted count => (called.emit (.accepted (keepAliveText.take (count + 1))), true)
  | .wouldBlock => (called, true)
  | .closed | .error => (called, false)

/-- This is `keep_alive_timer_func` for one channel. -/
def keepAliveTimer (channel : Channel) : Channel :=
  if channel.state = .ready then
    match channel.sendKeepAlive transport with
    | (channel, true) => channel
    | (channel, false) => (channel.setState .error).close
  else channel

/-- One event of a channel or one tick of the keep-alive timer. -/
def streamStep (channel : Channel) : StreamEvent → Channel
  | .event event => channel.step transport event
  | .keepAlive => channel.keepAliveTimer transport

/-- The bytes of the current message, none when there is no current message. -/
def currentWire (channel : Channel) : List Byte :=
  match channel.curOutMessage with
  | none => []
  | some message => message.wire

/-- The frames that complete what the transport has taken of a message. -/
def remainder (channel : Channel) (message : Message) : List (List Byte) :=
  channel.blockedFrames ++ if channel.outState = .sendingBody then channel.plannedFrames message else []

/-- The bytes that complete what the transport has taken of the current message. -/
def unsent (channel : Channel) : List Byte :=
  match channel.curOutMessage with
  | none => []
  | some message => (channel.remainder message).flatten

/-- The units of the stream are the queued messages and the CRLF. -/
def IsUnit (queued : List Message) (unit : List Byte) : Prop :=
  unit = crlf ∨ ∃ message ∈ queued, unit = message.wire

/-- The transport has taken complete messages and CRLFs, and then a part of the current message. -/
def Framed (channel : Channel) : Prop :=
  ∃ units : List (List Byte), ∃ part : List Byte,
    (∀ unit ∈ units, IsUnit (queuedOf channel.trace) unit) ∧
      bytesOf channel.trace = units.flatten ++ part ∧ part <+: channel.currentWire

/-- A keep-alive is sent only when no message is partially sent, and the transport takes whole CRLFs
of it. -/
def Undivided (channel : Channel) : StreamEvent → Prop
  | .event _ => True
  | .keepAlive => channel.state = .ready →
      (channel.unsent = [] ∨ channel.unsent = channel.currentWire) ∧
        ∀ count, transport channel.sends = .accepted count → count = 1 ∨ 3 ≤ count

/-- The current message has a body whose size is not known; the process has aborted. -/
structure Aborted (channel : Channel) (message : Message) : Prop where
  headers : channel.outState = .sendingHeaders
  unblocked : channel.ewouldblockBuffer = none
  reset : channel.ewouldblockOffset = 0
  short : message.headers.length < maxChunk
  unknown : ∃ handler, message.body = some handler ∧ handler.getSize = 0

/-- A message whose header section is blocked has no chunks. -/
def Whole (channel : Channel) (message : Message) : Prop :=
  channel.outState = .sendingHeaders → channel.ewouldblockBuffer.isSome → message.chunked = false

/-- The bytes are a sequence of units. -/
def Complete (queued : List Message) (bytes : List Byte) : Prop :=
  ∃ units : List (List Byte), (∀ unit ∈ units, IsUnit queued unit) ∧ bytes = units.flatten

/-- The bytes are units and a part, and the part continues with what is left to all or nothing. -/
def Cut (queued : List Message) (bytes left whole : List Byte) : Prop :=
  ∃ units : List (List Byte), ∃ part : List Byte, (∀ unit ∈ units, IsUnit queued unit) ∧
    bytes = units.flatten ++ part ∧ (part ++ left = [] ∨ part ++ left = whole)

/-- The invariant of the stream between two events. -/
structure Framing (channel : Channel) : Prop where
  queued : ∀ message ∈ channel.unfinished, message ∈ queuedOf channel.trace
  idle : channel.curOutMessage = none → OutputIdle channel
  flying : ∀ message, channel.curOutMessage = some message →
    (InFlight channel message ∧ channel.Whole message) ∨ Aborted channel message
  cut : Cut (queuedOf channel.trace) (bytesOf channel.trace) channel.unsent channel.currentWire

/-- The invariant shows a stream that is complete up to the current message. -/
theorem Framing.framed {channel : Channel} (framing : Framing channel) : Framed channel := by
  obtain ⟨units, part, known, bytes, nothing | whole⟩ := framing.cut
  · refine ⟨units, part, known, bytes, ?_⟩
    rw [(List.append_eq_nil_iff.mp nothing).1]
    exact List.nil_prefix
  · exact ⟨units, part, known, bytes, ⟨channel.unsent, whole⟩⟩

namespace Cut

variable {queued : List Message} {bytes left whole : List Byte}

theorem mono {more : List Message} (cut : Cut queued bytes left whole) (grown : queued ⊆ more) :
    Cut more bytes left whole := by
  obtain ⟨units, part, known, rest⟩ := cut
  refine ⟨units, part, ?_, rest⟩
  intro unit among
  exact (known unit among).imp id fun ⟨message, listed, same⟩ => ⟨message, grown listed, same⟩

/-- Bytes of the started copy reach the transport. -/
theorem take {moved after : List Byte} (cut : Cut queued bytes left whole) (same : moved ++ after = left) :
    Cut queued (bytes ++ moved) after whole := by
  obtain ⟨units, part, known, rfl, placed⟩ := cut
  refine ⟨units, part ++ moved, known, List.append_assoc _ _ _, ?_⟩
  rwa [List.append_assoc, same]

/-- A completed copy becomes a unit. -/
theorem close (cut : Cut queued bytes [] whole) (listed : whole = [] ∨ IsUnit queued whole) :
    Complete queued bytes := by
  obtain ⟨units, part, known, rfl, placed⟩ := cut
  rw [List.append_nil] at placed
  by_cases empty : part = []
  · exact ⟨units, known, by rw [empty, List.append_nil]⟩
  · have same : part = whole := placed.resolve_left empty
    rw [← same] at listed
    refine ⟨units ++ [part], ?_, by simp⟩
    intro unit among
    rcases List.mem_append.mp among with old | new
    · exact known unit old
    · rw [List.mem_singleton.mp new]
      exact listed.resolve_left empty

/-- A new copy starts after complete units. -/
theorem start (next : List Byte) (complete : Complete queued bytes) : Cut queued bytes next next := by
  obtain ⟨units, known, same⟩ := complete
  exact ⟨units, [], known, by rw [same, List.append_nil], .inr rfl⟩

end Cut

variable {channel : Channel} {message : Message}

theorem Framing.known (framing : Framing channel) :
    channel.currentWire = [] ∨ IsUnit (queuedOf channel.trace) channel.currentWire := by
  cases current : channel.curOutMessage with
  | none => exact .inl (by rw [currentWire, current])
  | some message =>
      refine .inr (.inr ⟨message, framing.queued message (by simp [unfinished, current]), ?_⟩)
      rw [currentWire, current]

/-- The part of the invariant that does not speak about the stream moves to a channel that differs only
in what it has sent. -/
theorem Framing.sending {channel after : Channel} (framing : Framing channel)
    (outgoing : after.outgoingMessages = channel.outgoingMessages)
    (current : after.curOutMessage = channel.curOutMessage) (outState : after.outState = channel.outState)
    (buffer : after.ewouldblockBuffer = channel.ewouldblockBuffer)
    (offset : after.ewouldblockOffset = channel.ewouldblockOffset)
    (transfered : after.transferedSize = channel.transferedSize)
    (queued : queuedOf after.trace = queuedOf channel.trace)
    (cut : Cut (queuedOf channel.trace) (bytesOf after.trace) channel.unsent channel.currentWire) :
    Framing after where
  queued := by
    rw [queued, unfinished, current, outgoing]
    exact framing.queued
  idle none := by
    have idle := framing.idle (current.symm.trans none)
    exact ⟨outState.trans idle.idle, buffer.trans idle.unblocked, offset.trans idle.reset⟩
  flying message same := by
    rcases framing.flying message (current.symm.trans same) with ⟨inFlight, whole⟩ | aborted
    · refine .inl ⟨⟨same, inFlight.sendable, ?_, ?_, ?_, ?_⟩, ?_⟩
      · rw [outState]
        exact inFlight.busy
      · rw [buffer, offset]
        exact inFlight.inside
      · rw [buffer, offset]
        exact inFlight.reset
      · rw [outState, transfered]
        exact inFlight.body
      · rw [Whole, outState, buffer]
        exact whole
    · exact .inr ⟨outState.trans aborted.headers, buffer.trans aborted.unblocked,
        offset.trans aborted.reset, aborted.short, aborted.unknown⟩
  cut := by
    have left : after.unsent = channel.unsent := by
      simp only [unsent, current, remainder, blockedFrames, plannedFrames, buffer, offset, outState,
        transfered]
    have wire : after.currentWire = channel.currentWire := by rw [currentWire, currentWire, current]
    rw [queued, left, wire]
    exact cut

theorem SameOutput.framing {before after : Channel} (same : SameOutput before after)
    (framing : Framing before) : Framing after := by
  apply framing.sending same.outgoing same.current same.outState same.buffer same.offset same.transfered
    same.queued
  rw [same.bytes]
  exact framing.cut

/-- Whole CRLFs reach the transport between two units. -/
theorem Cut.insert {queued : List Message} {bytes left whole : List Byte} (cut : Cut queued bytes left whole)
    (listed : whole = [] ∨ IsUnit queued whole) (undivided : left = [] ∨ left = whole)
    (count : Nat) : Cut queued (bytes ++ (List.replicate count crlf).flatten) left whole := by
  have complete : Complete queued bytes := by
    rcases undivided with nothing | all
    · rw [nothing] at cut
      exact cut.close listed
    · obtain ⟨units, part, known, rfl, placed⟩ := cut
      have empty : part = [] := by
        rcases placed with nothing | same
        · exact (List.append_eq_nil_iff.mp nothing).1
        · rw [all] at same
          exact List.append_left_eq_self.mp same
      exact ⟨units, known, by rw [empty, List.append_nil]⟩
  obtain ⟨units, known, rfl⟩ := complete
  refine ⟨units ++ List.replicate count crlf, [], ?_, by simp, ?_⟩
  · intro unit among
    rcases List.mem_append.mp among with old | new
    · exact known unit old
    · exact .inl (List.eq_of_mem_replicate new)
  · exact undivided

theorem keepAliveText_take {count : Nat} (whole : count = 1 ∨ 3 ≤ count) :
    ∃ copies, keepAliveText.take (count + 1) = (List.replicate copies crlf).flatten := by
  rcases whole with rfl | long
  · exact ⟨1, rfl⟩
  · refine ⟨2, ?_⟩
    have size : keepAliveText.length = 4 := rfl
    rw [List.take_of_length_le (by omega)]
    rfl

variable {transport}

/-- A tick of the timer that divides nothing keeps the invariant. -/
theorem keepAliveTimer_framing (soft : ∀ index, transport index ≠ .closed ∧ transport index ≠ .error)
    (framing : Framing channel) (undivided : channel.Undivided transport .keepAlive) :
    Framing (channel.keepAliveTimer transport) := by
  unfold keepAliveTimer
  by_cases ready : channel.state = .ready
  · obtain ⟨between, whole⟩ := undivided ready
    rw [if_pos ready, sendKeepAlive]
    cases answer : transport channel.sends with
    | closed => exact absurd answer (soft channel.sends).1
    | error => exact absurd answer (soft channel.sends).2
    | wouldBlock => exact framing.sending rfl rfl rfl rfl rfl rfl rfl framing.cut
    | accepted count =>
        obtain ⟨copies, text⟩ := keepAliveText_take (whole count answer)
        dsimp only
        refine framing.sending rfl rfl rfl rfl rfl rfl ?_ ?_
        · simp [emit, queuedOf, Effect.queuedMessage]
        · have bytes : bytesOf (channel.trace ++ [.accepted (keepAliveText.take (count + 1))]) =
              bytesOf channel.trace ++ (List.replicate copies crlf).flatten := by
            rw [bytesOf_append, ← text]
            exact congrArg (bytesOf channel.trace ++ ·) (List.append_nil _)
          rw [emit, bytes]
          exact framing.cut.insert framing.known between copies
  · rw [if_neg ready]
    exact framing

/-- The frames that the code will send complete the started copy, and a header section that is still
to be sent starts a new copy. -/
theorem pendingFrames_flatten (channel : Channel) (message : Message) (busy : channel.outState ≠ .idle) :
    (channel.pendingFrames message).flatten = (channel.remainder message).flatten ++
      if channel.outState = .sendingHeaders then message.wire else [] := by
  unfold pendingFrames remainder
  cases stage : channel.outState with
  | idle => exact absurd stage busy
  | sendingHeaders => simp [plannedFrames, stage, message.frames_flatten]
  | sendingBody => simp

theorem Framing.unsent_eq (current : channel.curOutMessage = some message) :
    channel.unsent = (channel.remainder message).flatten := by
  rw [unsent, current]

/-- The cut of a channel with a current message. -/
theorem Framing.cut_current (framing : Framing channel) (current : channel.curOutMessage = some message) :
    Cut (queuedOf channel.trace) (bytesOf channel.trace) (channel.remainder message).flatten
      message.wire := by
  have cut := framing.cut
  have wire : channel.currentWire = message.wire := by rw [currentWire, current]
  rwa [Framing.unsent_eq current, wire] at cut

/-- When the started copy has been completed, a new copy may follow. -/
theorem Framing.completed (framing : Framing channel) (current : channel.curOutMessage = some message) :
    Complete (queuedOf channel.trace) (bytesOf channel.trace ++ (channel.remainder message).flatten) := by
  have listed := framing.known
  have wire : channel.currentWire = message.wire := by rw [currentWire, current]
  rw [wire] at listed
  exact ((framing.cut_current current).take (List.append_nil _)).close listed

/-- The work of an activation that does not finish the message keeps the invariant. -/
theorem Framing.worked {channel after : Channel} {effects : List Effect} {bytes : List Byte} {sendings : Nat}
    (framing : Framing channel) (current : channel.curOutMessage = some message) (work : Work effects bytes sendings)
    (traced : after.trace = channel.trace ++ effects) (same : after.curOutMessage = some message)
    (outgoing : after.outgoingMessages = channel.outgoingMessages) (inFlight : InFlight after message)
    (whole : after.Whole message) (cut : Cut (queuedOf channel.trace) (bytesOf channel.trace ++ bytes)
      (after.remainder message).flatten message.wire) : Framing after := by
  have queued : queuedOf after.trace = queuedOf channel.trace := by
    rw [traced, queuedOf_append, work.unqueued, List.append_nil]
  refine ⟨?_, ?_, ?_, ?_⟩
  · rw [queued, unfinished, same, ← current, outgoing]
    exact framing.queued
  · intro none
    rw [same] at none
    cases none
  · intro other found
    cases same.symm.trans found
    exact .inl ⟨inFlight, whole⟩
  · have wire : after.currentWire = message.wire := by rw [currentWire, same]
    rw [queued, traced, bytesOf_append, work.bytes_eq, Framing.unsent_eq same, wire]
    exact cut

/-- The work of an activation that finishes the message leaves complete units. -/
theorem Framing.finished {channel after : Channel} (effects : List Effect)
    (framing : Framing channel) (queued : queuedOf effects = [])
    (traced : after.trace = channel.trace ++ effects)
    (none : after.curOutMessage = none) (idle : OutputIdle after)
    (outgoing : after.outgoingMessages = channel.outgoingMessages)
    (complete : Complete (queuedOf channel.trace) (bytesOf after.trace)) : Framing after := by
  have same : queuedOf after.trace = queuedOf channel.trace := by
    rw [traced, queuedOf_append, queued, List.append_nil]
  refine ⟨?_, fun _ => idle, ?_, ?_⟩
  · intro other among
    rw [same]
    apply framing.queued
    rw [unfinished, none, outgoing] at among
    exact List.mem_append_right _ among
  · intro other found
    rw [none] at found
    cases found
  · have left : after.unsent = [] := by rw [unsent, none]
    have wire : after.currentWire = [] := by rw [currentWire, none]
    rw [same, left, wire]
    exact Cut.start [] complete

/-- One activation of `_send_message` keeps the invariant. -/
theorem activation_framing (soft : ∀ index, transport index ≠ .closed ∧ transport index ≠ .error)
    {channel after : Channel} (framing : Framing channel) (inFlight : InFlight channel message)
    (whole : channel.Whole message) (activation : Activation transport channel message after) : Framing after := by
  have current := inFlight.current
  have pending := channel.pendingFrames_flatten message inFlight.busy
  have listed : message ∈ queuedOf channel.trace := framing.queued message (by simp [unfinished, current])
  have completed := framing.completed current
  cases activation with
  | released calls transfered effects bytes served work disciplined stopped =>
      have taken := served.flatten_eq
      rw [pending, List.flatten_nil, List.append_nil] at taken
      have queued : queuedOf (effects ++ [.released message]) = [] := by
        rw [queuedOf_append, work.unqueued]
        rfl
      refine framing.finished _ queued (by simp [emit, Channel.worked]) rfl ⟨rfl, rfl, rfl⟩ rfl ?_
      have carried : bytesOf (channel.trace ++ effects ++ [.released message]) =
          bytesOf channel.trace ++ (channel.remainder message).flatten ++
            if channel.outState = .sendingHeaders then message.wire else [] := by
        have silent : bytesOf [.released message] = [] := rfl
        rw [bytesOf_append, bytesOf_append, work.bytes_eq, taken, silent, List.append_nil, List.append_assoc]
      obtain ⟨units, known, same⟩ := completed
      refine ⟨units ++ if channel.outState = .sendingHeaders then [message.wire] else [], ?_, ?_⟩
      · intro unit among
        rcases List.mem_append.mp among with old | new
        · exact known unit old
        · split at new
          · rw [List.mem_singleton.mp new]
            exact .inr ⟨message, listed, rfl⟩
          · cases new
      · change bytesOf (channel.trace ++ effects ++ [.released message]) = _
        rw [carried, same, List.flatten_append]
        split <;> simp
  | flushing pieces buffer left kept inside answer served =>
      have moved : pieces.flatten ++
          (remainder { (channel.taking pieces).refused with ewouldblockOffset := left } message).flatten =
            (channel.remainder message).flatten := by
        have taken := served.flatten_eq
        rw [pending] at taken
        cases stage : channel.outState with
        | idle => exact absurd stage inFlight.busy
        | sendingHeaders =>
            simp only [remainder, blockedFrames, plannedFrames, stage, kept, refused, taking,
              message.frames_flatten, List.flatten_cons, List.flatten_nil, reduceCtorEq, if_false, if_true,
              List.append_nil] at taken ⊢
            rw [← List.append_assoc] at taken
            exact List.append_cancel_right taken
        | sendingBody =>
            simpa [remainder, blockedFrames, plannedFrames, stage, kept, refused, taking] using taken
      refine framing.worked current (Work.pieces pieces) rfl current rfl (inFlight.flushing kept inside) ?_ ?_
      · intro headers _
        exact whole headers (by rw [kept]; rfl)
      · exact (framing.cut_current current).take moved
  | single calls transfered effects bytes rest headers single some_left answer served work =>
      have taken := served.flatten_eq
      obtain ⟨first, ends⟩ : rest <:+ message.wire := by
        have ended := served.suffix.2
        have frames : channel.plannedFrames message = [message.firstFrame] := by
          simp [plannedFrames, headers, Message.frames, message.laterFrames_single single]
        have wire : message.firstFrame = message.wire := by simp [Message.firstFrame, single]
        simp only [pendingFrames, frames, wire, List.length_append, List.length_cons, List.length_nil,
          Nat.zero_add, Nat.add_sub_cancel, List.drop_left, List.flatten_cons, List.flatten_nil,
          List.append_nil] at ended
        exact ended
      have bytesEq : bytes = (channel.remainder message).flatten ++ first := by
        rw [pending, if_pos headers, ← ends, List.flatten_cons, List.flatten_nil, List.append_nil,
          ← List.append_assoc] at taken
        exact List.append_cancel_right taken
      refine framing.worked current work rfl current rfl (inFlight.piece headers some_left)
        (fun _ _ => single) ?_
      rw [bytesEq, ← List.append_assoc]
      apply (Cut.start message.wire completed).take
      simpa [remainder, blockedFrames, headers, refused, Channel.worked] using ends
  | body handler calls transfered effects bytes rest bodyEq chunked inside some_left answer served work
      disciplined stopped =>
      have taken := served.flatten_eq
      have left : (remainder { (channel.worked transfered calls effects).refused with
          outState := .sendingBody, ewouldblockBuffer := some rest, ewouldblockOffset := 0 }
          message) = rest :: handler.chunksFrom transfered := by
        simp [remainder, blockedFrames, plannedFrames, bodyEq, refused, Channel.worked]
      refine framing.worked current work rfl current rfl (inFlight.chunk bodyEq chunked inside some_left)
        (fun headers => absurd headers (by simp)) ?_
      rw [left]
      cases stage : channel.outState with
      | idle => exact absurd stage inFlight.busy
      | sendingBody =>
          apply (framing.cut_current current).take
          rw [taken, pending, stage]
          exact List.append_nil _
      | sendingHeaders =>
          have unblocked : channel.ewouldblockBuffer = none := by
            by_contra kept
            have single := whole stage (Option.isSome_iff_ne_none.mpr kept)
            rw [chunked] at single
            cases single
          have nothing : (channel.remainder message).flatten = [] := by
            simp [remainder, blockedFrames, unblocked, stage]
          rw [nothing, List.append_nil] at completed
          apply (Cut.start message.wire completed).take
          rw [taken, pending, nothing, stage]
          rfl
  | failed after failure => exact absurd failure (not_failed soft)

/-- A fatal message leaves the stream as it is. -/
theorem Aborted.framing (aborted : Aborted channel message) (current : channel.curOutMessage = some message)
    (framing : Framing channel) :
    Framing (channel._sendMessage transport) := by
  obtain ⟨handler, bodyEq, unknown⟩ := aborted.unknown
  rw [_sendMessage_unknown transport current aborted.headers aborted.unblocked bodyEq unknown aborted.short]
  exact SameOutput.framing ((SameOutput.emit _ _ rfl rfl rfl).trans (SameOutput.emit _ _ rfl rfl rfl)) framing

/-- A resumed message keeps the invariant. -/
theorem _sendMessage_framing (soft : ∀ index, transport index ≠ .closed ∧ transport index ≠ .error)
    (framing : Framing channel) : Framing (channel._sendMessage transport) := by
  cases current : channel.curOutMessage with
  | none =>
      rw [_sendMessage, current]
      exact framing
  | some message =>
      rcases framing.flying message current with ⟨inFlight, whole⟩ | aborted
      · exact activation_framing soft framing inFlight whole
          (_sendMessage_activation transport channel message inFlight)
      · exact aborted.framing current framing

/-- A new message starts between two units. -/
theorem Framing.begin (framing : Framing channel) (none : channel.curOutMessage = none)
    (listed : message ∈ queuedOf channel.trace) (short : message.headers.length < maxChunk) :
    Framing { channel with curOutMessage := some message, outState := .sendingHeaders } := by
  have idle := framing.idle none
  have nothing : channel.unsent = [] := by rw [unsent, none]
  have cut := framing.cut
  rw [nothing] at cut
  obtain ⟨units, known, same⟩ := cut.close framing.known
  refine ⟨?_, ?_, ?_, ?_⟩
  · intro other among
    rcases List.mem_cons.mp among with rfl | waiting
    · exact listed
    · apply framing.queued
      exact List.mem_append_right _ waiting
  · intro absent
    cases absent
  · intro other found
    cases found
    by_cases sendable : message.sendable
    · refine .inl ⟨⟨rfl, sendable, by simp, ?_, fun _ => idle.reset, by simp⟩, ?_⟩
      · intro buffer kept
        cases idle.unblocked.symm.trans kept
      · intro _ kept
        rw [show _ = Option.none from idle.unblocked] at kept
        cases kept
    · refine .inr ⟨rfl, idle.unblocked, idle.reset, short, ?_⟩
      simpa [Message.sendable, short, BodyHandler.getSize] using sendable
  · refine ⟨units, [], known, by rw [same, List.append_nil], .inl ?_⟩
    simp [unsent, remainder, blockedFrames, idle.unblocked]

theorem sendMessage_framing (soft : ∀ index, transport index ≠ .closed ∧ transport index ≠ .error)
    (framing : Framing channel) (none : channel.curOutMessage = none) (listed : message ∈ queuedOf channel.trace) :
    Framing (channel.sendMessage transport message) := by
  by_cases short : message.headers.length < maxChunk
  · exact _sendMessage_framing soft (framing.begin none listed short)
  · have idle := framing.idle none
    rw [sendMessage_oversized transport idle (Nat.not_lt.mp short)]
    have nothing : channel.unsent = [] := by rw [unsent, none]
    have cut := framing.cut
    rw [nothing] at cut
    refine framing.finished [.onSending message, .released message] rfl ?_ rfl ?_ ?_ ?_
    · simp [done, emit, freeEwouldblockBuffer, idle.unblocked]
    · refine ⟨rfl, ?_, ?_⟩ <;> simp [done, emit, freeEwouldblockBuffer, idle.unblocked, idle.reset]
    · simp [done, emit, freeEwouldblockBuffer, idle.unblocked]
    · have silent : bytesOf (done (emit { channel with
          curOutMessage := some message, outState := .sendingHeaders } (.onSending message)) message).trace =
          bytesOf channel.trace := by
        simp [done, emit, freeEwouldblockBuffer, idle.unblocked, bytesOf, Effect.bytes]
      rw [silent]
      exact cut.close framing.known

theorem Framing.pop {rest : List Message} (framing : Framing channel)
    (waiting : channel.outgoingMessages = message :: rest) :
    Framing { channel with outgoingMessages := rest } ∧ message ∈ queuedOf channel.trace := by
  constructor
  · refine ⟨?_, ?_, ?_, framing.cut⟩
    · intro other among
      apply framing.queued
      rcases List.mem_append.mp among with current | later
      · exact List.mem_append_left _ current
      · exact List.mem_append_right _ (waiting ▸ List.mem_cons_of_mem _ later)
    · intro none
      have idle := framing.idle none
      exact ⟨idle.idle, idle.unblocked, idle.reset⟩
    · intro other current
      rcases framing.flying other current with ⟨inFlight, whole⟩ | aborted
      · exact .inl ⟨inFlight.outgoing rest, whole⟩
      · exact .inr ⟨aborted.headers, aborted.unblocked, aborted.reset, aborted.short, aborted.unknown⟩
  · apply framing.queued
    exact List.mem_append_right _ (waiting ▸ List.mem_cons_self)

/-- The loop of `channel_process_queue` keeps the invariant. -/
theorem popOutgoing_framing (soft : ∀ index, transport index ≠ .closed ∧ transport index ≠ .error) (fuel : Nat)
    (framing : Framing channel) :
    Framing (popOutgoing transport fuel channel) := by
  induction fuel generalizing channel with
  | zero => exact framing
  | succ fuel ih =>
      rw [popOutgoing]
      split
      · exact framing
      · next message rest waiting =>
          obtain ⟨popped, listed⟩ := framing.pop waiting
          dsimp only
          split
          · next free =>
              apply ih
              apply sendMessage_framing soft popped _ listed
              by_contra current
              obtain ⟨other, found⟩ := Option.ne_none_iff_exists'.mp current
              rcases popped.flying other found with ⟨inFlight, _⟩ | aborted
              · exact inFlight.busy free.2
              · exact absurd (aborted.headers.symm.trans free.2) (by decide)
          · exact popped

theorem processQueue_framing (soft : ∀ index, transport index ≠ .closed ∧ transport index ≠ .error)
    (framing : Framing channel) : Framing (channel.processQueue transport) := by
  unfold processQueue
  apply popOutgoing_framing soft
  split
  · exact _sendMessage_framing soft framing
  · exact framing

theorem Framing.push (framing : Framing channel) (message : Message) :
    Framing (channel.pushOutgoing message) := by
  have queued : queuedOf (channel.pushOutgoing message).trace = queuedOf channel.trace ++ [message] := by
    simp [pushOutgoing, emit, queuedOf, Effect.queuedMessage]
  have bytes : bytesOf (channel.pushOutgoing message).trace = bytesOf channel.trace := by
    simp [pushOutgoing, emit, bytesOf, Effect.bytes]
  refine ⟨?_, ?_, ?_, ?_⟩
  · intro other among
    rw [queued, List.mem_append]
    rw [show (channel.pushOutgoing message).unfinished = channel.unfinished ++ [message] from
      (List.append_assoc _ _ _).symm, List.mem_append] at among
    exact among.imp (framing.queued other) id
  · intro none
    have idle := framing.idle none
    exact ⟨idle.idle, idle.unblocked, idle.reset⟩
  · intro other current
    rcases framing.flying other current with ⟨inFlight, whole⟩ | aborted
    · exact .inl ⟨⟨current, inFlight.sendable, inFlight.busy, inFlight.inside, inFlight.reset,
        inFlight.body⟩, whole⟩
    · exact .inr ⟨aborted.headers, aborted.unblocked, aborted.reset, aborted.short, aborted.unknown⟩
  · rw [queued, bytes]
    exact framing.cut.mono (List.subset_append_left _ _)

theorem activate_framing (soft : ∀ index, transport index ≠ .closed ∧ transport index ≠ .error) (activity : Activity)
    (framing : Framing channel) :
    Framing (activate transport channel activity) := by
  cases activity with
  | resume => exact processQueue_framing soft framing
  | queue message =>
      have pushed := framing.push message
      dsimp only [activate]
      split
      · exact processQueue_framing soft pushed
      · exact pushed

theorem streamStep_framing (soft : ∀ index, transport index ≠ .closed ∧ transport index ≠ .error)
    (channel : Channel) (input : StreamEvent) (framing : Framing channel)
    (undivided : channel.Undivided transport input) : Framing (channel.streamStep transport input) := by
  cases input with
  | keepAlive => exact keepAliveTimer_framing soft framing undivided
  | event event =>
      have advanced : Framing (channel.advance event).1 := by
        rcases channel.advance_same event with same | ⟨message, environment, _, _, same⟩
        · exact same.framing framing
        · exact same.framing (framing.push message)
      exact Foundation.Machine.run_preserves (fun _ activity => activate_framing soft activity) advanced _

theorem Unused.framing (unused : Unused channel) : Framing channel := by
  refine ⟨?_, fun _ => unused.idle, ?_, ⟨[], [], ?_, ?_, .inl ?_⟩⟩
  · simp [unfinished, unused.current, unused.outgoing]
  · simp [unused.current]
  · simp
  · rw [unused.bytes]
    rfl
  · simp [unsent, unused.current]

variable (transport)

/-- As long as every keep-alive is undivided and sent between two messages, the transport takes complete
messages and CRLFs. -/
theorem run_framed (soft : ∀ index, transport index ≠ .closed ∧ transport index ≠ .error)
    (channel : Channel) (unused : Unused channel) (inputs : List StreamEvent)
    (undivided : Foundation.Machine.Along (streamStep transport) (Undivided transport) channel inputs) :
    Framed (Foundation.Machine.run (streamStep transport) channel inputs) :=
  (Foundation.Machine.run_invariant (streamStep_framing soft) unused.framing undivided).framed

/-- A message is queued on a new channel, the connection is made, and the timer ticks. -/
def tickedStream : List StreamEvent :=
  [.event (.queueMessage optionsMessage { resolution := some ["192.0.2.1"] }), .event (.connected {}),
    .keepAlive]

theorem run_framed_options :
    Framed (Foundation.Machine.run (streamStep fun _ => .accepted 9) {} tickedStream) := by
  apply run_framed (fun _ => .accepted 9) (fun _ => ⟨by decide, by decide⟩)
  · exact ⟨⟨rfl, rfl, rfl⟩, rfl, rfl, rfl, rfl, rfl⟩
  · refine ⟨trivial, trivial, fun _ => ⟨.inl rfl, ?_⟩, trivial⟩
    intro count answer
    cases answer
    exact .inr (by decide)

/-- When the transport blocks inside a message, the keep-alive goes into the middle of that message. -/
theorem keepAlive_divides :
    (∀ index, blockOnce index ≠ .closed ∧ blockOnce index ≠ .error) ∧ Unused {} ∧
      bytesOf (Foundation.Machine.run (streamStep blockOnce) {} tickedStream).trace =
        [79, 80, 13, 10, 13, 10] ∧
      ¬Framed (Foundation.Machine.run (streamStep blockOnce) {} tickedStream) := by
  have bytes : bytesOf (Foundation.Machine.run (streamStep blockOnce) {} tickedStream).trace =
      [79, 80, 13, 10, 13, 10] := rfl
  have queued : queuedOf (Foundation.Machine.run (streamStep blockOnce) {} tickedStream).trace =
      [optionsMessage] := rfl
  have current : (Foundation.Machine.run (streamStep blockOnce) {} tickedStream).currentWire =
      [79, 80, 84, 73, 79, 78, 83] := rfl
  refine ⟨blockOnce_soft, ⟨⟨rfl, rfl, rfl⟩, rfl, rfl, rfl, rfl, rfl⟩, bytes, ?_⟩
  rintro ⟨units, part, known, cut, copied⟩
  rw [bytes] at cut
  rw [queued] at known
  rw [current] at copied
  cases units with
  | nil =>
      rw [List.flatten_nil, List.nil_append] at cut
      rw [← cut] at copied
      exact absurd copied (by decide)
  | cons unit rest =>
      rw [List.flatten_cons, List.append_assoc] at cut
      have first : unit <+: [79, 80, 13, 10, 13, 10] := ⟨_, cut.symm⟩
      rcases known unit List.mem_cons_self with rfl | ⟨message, among, rfl⟩
      · exact absurd first (by decide)
      · rw [List.mem_singleton.mp among] at first
        exact absurd first (by decide)

end Channel

end BelleSip
