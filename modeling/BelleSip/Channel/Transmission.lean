import Mathlib.Logic.Function.Iterate
import BelleSip.Channel.Activation

/-
This file proves when the bytes of one message reach the transport exactly once.
-/

namespace BelleSip

open Foundation.FrameQueue

namespace Channel

variable (transport : Nat → SendResult)

/-- The effects of a channel since an earlier state of it. -/
def since (start channel : Channel) : List Effect := channel.trace.drop start.trace.length

/-- The effects that belong to the first message released since an earlier state. -/
def messageEffects (start channel : Channel) : List Effect :=
  (since start channel).takeWhile fun effect => !effect.releases

/-- A message has been released since an earlier state. -/
def Finished (start channel : Channel) : Prop :=
  ∃ effect ∈ since start channel, effect.releases = true

variable {message : Message} {start channel : Channel} {effects : List Effect} {handler : BodyHandler}

theorem since_of_trace (traced : channel.trace = start.trace ++ effects) : since start channel = effects := by
  rw [since, traced, List.drop_left]

theorem not_finished (traced : channel.trace = start.trace ++ effects)
    (unreleased : ∀ effect ∈ effects, effect.releases = false) : ¬Finished start channel := by
  rintro ⟨effect, present, released⟩
  rw [since_of_trace traced] at present
  simp [unreleased effect present] at released

theorem messageEffects_released {effects later : List Effect}
    (traced : channel.trace = start.trace ++ (effects ++ .released message :: later))
    (unreleased : ∀ effect ∈ effects, effect.releases = false) :
    messageEffects start channel = effects := by
  rw [messageEffects, since_of_trace traced, List.takeWhile_append_of_pos]
  · simp [Effect.releases]
  · intro effect present
    simp [unreleased effect present]

/-- The wire carries the message once, `on_sending` is called once, and the body handler is never
called again after `BELLE_SIP_STOP`. -/
structure CompleteOnce (message : Message) (effects : List Effect) : Prop where
  bytes_eq : bytesOf effects = message.wire
  sendings_eq : onSendings effects = 1
  disciplined : .stop ∉ (progressOf effects).dropLast

/-- No would-block comes while exactly one frame of the queue is left. -/
def Undisturbed (start : Nat) (frames : List (List Byte)) : Prop :=
  ∀ index, transport (start + index) = .wouldBlock →
    (drain (takes transport) start index frames).length ≠ 1

/-- The condition `Undisturbed` for the first answers. -/
def UndisturbedBelow (start count : Nat) (frames : List (List Byte)) : Prop :=
  ∀ index < count, transport (start + index) = .wouldBlock →
    (drain (takes transport) start index frames).length ≠ 1

/-- No message is in flight. -/
structure OutputIdle (channel : Channel) : Prop where
  idle : channel.outState = .idle
  unblocked : channel.ewouldblockBuffer = none
  reset : channel.ewouldblockOffset = 0

/-- A message is sent and then resumed so many times through `channel_process_queue`. -/
def resumed (start : Channel) (message : Message) (resumptions : Nat) : Channel :=
  (processQueue transport)^[resumptions] (start.sendMessage transport message)

variable {transport}

theorem wouldBlock_takes {index : Nat} (answer : transport index = .wouldBlock) :
    takes transport index = none := by
  simp [takes, answer, SendResult.taken]

theorem drain_served {start count calls : Nat} {frames left later : List (List Byte)} {bytes : List Byte}
    (drained : drain (takes transport) start count frames = left)
    (served : Served (takes transport) (start + count) left (start + count + calls) later bytes) :
    drain (takes transport) start (count + calls) frames = later := by
  rw [drain_add, drained, ← served.drain_eq]
  congr 1
  omega

theorem drain_blocked {start count : Nat} {frames left : List (List Byte)}
    (drained : drain (takes transport) start count frames = left)
    (answer : transport (start + count) = .wouldBlock) :
    drain (takes transport) start (count + 1) frames = left := by
  rw [drain_add, drained, drain_succ, wouldBlock_takes answer, offer_none, drain_zero]

theorem UndisturbedBelow.served {start count calls : Nat} {frames left later : List (List Byte)}
    {bytes : List Byte} (below : UndisturbedBelow transport start count frames)
    (served : Served (takes transport) (start + count) left (start + count + calls) later bytes) :
    UndisturbedBelow transport start (count + calls) frames := by
  intro index inside blocked
  by_cases early : index < count
  · exact below index early blocked
  · exact absurd (wouldBlock_takes blocked) (served.answered (by omega) (by omega))

theorem UndisturbedBelow.blocked {start count : Nat} {frames left : List (List Byte)}
    (below : UndisturbedBelow transport start count frames)
    (drained : drain (takes transport) start count frames = left) (many : left.length ≠ 1) :
    UndisturbedBelow transport start (count + 1) frames := by
  intro index inside blocked
  by_cases early : index < count
  · exact below index early blocked
  · obtain rfl : index = count := by omega
    rwa [drained]

theorem UndisturbedBelow.finished {start count : Nat} {frames : List (List Byte)}
    (below : UndisturbedBelow transport start count frames)
    (drained : drain (takes transport) start count frames = []) :
    Undisturbed transport start frames := by
  intro index blocked
  by_cases early : index < count
  · exact below index early blocked
  · obtain ⟨more, rfl⟩ := Nat.exists_eq_add_of_le (Nat.le_of_not_lt early)
    rw [drain_add, drained, drain_nil]
    simp

variable (transport)

/-- The stages of one message since the channel `start` began to send it. -/
inductive Stage (start : Channel) (message : Message) : Channel → Prop where
  | sending {channel : Channel} (effects : List Effect) (bytes : List Byte) (count : Nat)
      (inFlight : InFlight channel message) (sending : channel.outState = .sendingBody)
      (traced : channel.trace = start.trace ++ effects)
      (counted : channel.sends = start.sends + count)
      (work : Work effects bytes 1) (unstopped : .stop ∉ progressOf effects)
      (drained : drain (takes transport) start.sends count message.frames = channel.pendingFrames message)
      (complete : bytes ++ (channel.pendingFrames message).flatten = message.wire)
      (many : 2 ≤ (channel.pendingFrames message).length)
      (below : UndisturbedBelow transport start.sends count message.frames) : Stage start message channel
  | repeating {channel : Channel} (effects : List Effect) (inFlight : InFlight channel message)
      (traced : channel.trace = start.trace ++ effects)
      (unreleased : ∀ effect ∈ effects, effect.releases = false)
      (disturbed : ¬Undisturbed transport start.sends message.frames)
      (again : channel.outState = .sendingHeaders ∧ message.chunked = false ∧ 1 ≤ onSendings effects ∨
        channel.outState = .sendingBody ∧ .stop ∈ progressOf effects) : Stage start message channel
  | aborted {channel : Channel} (effects : List Effect) (handler : BodyHandler)
      (traced : channel.trace = start.trace ++ effects)
      (unreleased : ∀ effect ∈ effects, effect.releases = false)
      (current : channel.curOutMessage = some message) (headers : channel.outState = .sendingHeaders)
      (unblocked : channel.ewouldblockBuffer = none)
      (bodyEq : message.body = some handler) (unknown : handler.getSize = 0)
      (short : message.headers.length < maxChunk) : Stage start message channel
  | released {channel : Channel} (effects later : List Effect)
      (traced : channel.trace = start.trace ++ (effects ++ .released message :: later))
      (unreleased : ∀ effect ∈ effects, effect.releases = false)
      (exactly : CompleteOnce message effects ↔
        message.sendable ∧ Undisturbed transport start.sends message.frames) :
      Stage start message channel

variable {transport}

/-- A message without hard failures is never dropped by the transport. -/
theorem not_failed (soft : ∀ index, transport index ≠ .closed ∧ transport index ≠ .error)
    {channel after : Channel} : ¬Failure transport channel after := by
  rintro (⟨index, answer⟩ | ⟨⟨index, answer⟩, _⟩)
  · exact (soft index).1 answer
  · exact (soft index).2 answer

theorem InFlight.chunk {channel : Channel} (inFlight : InFlight channel message) {transfered calls : Nat}
    {rest : List Byte} (bodyEq : message.body = some handler) (chunked : message.chunked = true)
    (inside : transfered ≤ handler.getSize) (some_left : rest ≠ []) :
    InFlight { (channel.worked transfered calls effects).refused with
      outState := .sendingBody, ewouldblockBuffer := some rest, ewouldblockOffset := 0 } message where
  current := inFlight.current
  sendable := inFlight.sendable
  busy := by simp
  inside buffer kept := by
    obtain rfl : rest = buffer := by simpa using kept
    exact List.length_pos_iff.mpr some_left
  reset cleared := by simp at cleared
  body _ := ⟨handler, bodyEq, chunked, inside⟩

theorem InFlight.piece {channel : Channel} (inFlight : InFlight channel message) {transfered calls : Nat}
    {rest : List Byte} (headers : channel.outState = .sendingHeaders) (some_left : rest ≠ []) :
    InFlight { (channel.worked transfered calls effects).refused with
      ewouldblockBuffer := some rest, ewouldblockOffset := 0 } message where
  current := inFlight.current
  sendable := inFlight.sendable
  busy := inFlight.busy
  inside buffer kept := by
    obtain rfl : rest = buffer := by simpa using kept
    exact List.length_pos_iff.mpr some_left
  reset cleared := by simp at cleared
  body sending := by
    change channel.outState = _ at sending
    simp [headers] at sending

theorem InFlight.flushing {channel : Channel} (inFlight : InFlight channel message) {pieces : List (List Byte)}
    {buffer : List Byte} {left : Nat} (kept : channel.ewouldblockBuffer = some buffer) (inside : left < buffer.length) :
    InFlight { (channel.taking pieces).refused with ewouldblockOffset := left } message where
  current := inFlight.current
  sendable := inFlight.sendable
  busy := inFlight.busy
  inside other same := by
    obtain rfl : buffer = other := by simpa [taking, refused, kept] using same
    exact inside
  reset cleared := by simp [taking, refused, kept] at cleared
  body := inFlight.body

theorem pending_chunk (channel : Channel) (message : Message) {transfered calls : Nat} {rest : List Byte}
    (bodyEq : message.body = some handler) :
    pendingFrames { (channel.worked transfered calls effects).refused with
        outState := .sendingBody, ewouldblockBuffer := some rest, ewouldblockOffset := 0 } message =
      rest :: handler.chunksFrom transfered := by
  simp [pendingFrames, blockedFrames, plannedFrames, bodyEq, refused, worked]

theorem pending_flushing (channel : Channel) (message : Message) {pieces : List (List Byte)}
    {buffer : List Byte} {left : Nat} (kept : channel.ewouldblockBuffer = some buffer) :
    pendingFrames { (channel.taking pieces).refused with ewouldblockOffset := left } message =
      buffer.drop left :: channel.plannedFrames message := by
  simp [pendingFrames, blockedFrames, plannedFrames, refused, taking, kept]

/-- An interrupted body is either on its way or already stopped. -/
theorem Stage.interrupted {transfered calls count : Nat} {earlier effects : List Effect} {taken bytes rest : List Byte}
    (inFlight : InFlight channel message) (bodyEq : message.body = some handler) (chunked : message.chunked = true)
    (inside : transfered ≤ handler.getSize) (some_left : rest ≠ []) (traced : channel.trace = start.trace ++ earlier)
    (counted : channel.sends = start.sends + count) (answer : transport (channel.sends + calls) = .wouldBlock)
    (served : Served (takes transport) channel.sends (channel.pendingFrames message)
      (channel.sends + calls) (rest :: handler.chunksFrom transfered) bytes)
    (work : Work (earlier ++ effects) (taken ++ bytes) 1) (unstopped : .stop ∉ progressOf earlier)
    (stopped : .stop ∈ progressOf effects ↔ transfered = handler.getSize)
    (drained : drain (takes transport) start.sends count message.frames = channel.pendingFrames message)
    (complete : taken ++ (channel.pendingFrames message).flatten = message.wire)
    (below : UndisturbedBelow transport start.sends count message.frames) :
    Stage transport start message
      { (channel.worked transfered calls effects).refused with
        outState := .sendingBody, ewouldblockBuffer := some rest, ewouldblockOffset := 0 } := by
  have flying : InFlight { (channel.worked transfered calls effects).refused with
      outState := .sendingBody, ewouldblockBuffer := some rest, ewouldblockOffset := 0 } message :=
    inFlight.chunk bodyEq chunked inside some_left
  rw [counted] at served answer
  have left := drain_served drained served
  have calm := below.served served
  rw [Nat.add_assoc] at answer
  have lengthened : channel.trace ++ effects = start.trace ++ (earlier ++ effects) := by
    rw [traced, List.append_assoc]
  by_cases whole : transfered = handler.getSize
  · refine .repeating (earlier ++ effects) flying lengthened work.unreleased ?_ (.inr ⟨rfl, ?_⟩)
    · intro undisturbed
      refine undisturbed (count + calls) answer ?_
      rw [left, whole, handler.chunksFrom_end]
      rfl
    · simp [stopped.mpr whole]
  · have more : handler.chunksFrom transfered ≠ [] := mt (handler.chunksFrom_eq_nil _ inside).mp whole
    have many : 2 ≤ (rest :: handler.chunksFrom transfered).length := by
      have positive := List.length_pos_iff.mpr more
      rw [List.length_cons]
      omega
    refine .sending (earlier ++ effects) (taken ++ bytes) (count + calls + 1) flying rfl lengthened ?_ work
      ?_ ?_ ?_ ?_ ?_
    · change channel.sends + calls + 1 = _
      omega
    · simp [unstopped, mt stopped.mp whole]
    · rw [pending_chunk channel message bodyEq]
      exact drain_blocked left answer
    · rw [pending_chunk channel message bodyEq, List.append_assoc, served.flatten_eq, complete]
    · rwa [pending_chunk channel message bodyEq]
    · exact calm.blocked left (by omega)

/-- A message that was never disturbed is complete when it is released. -/
theorem Stage.delivered {start : Channel} {channel after : Channel} {calls count : Nat} {earlier effects : List Effect}
    {taken bytes : List Byte} (sendable : message.sendable)
    (traced : after.trace = start.trace ++ (earlier ++ effects ++ [.released message]))
    (counted : channel.sends = start.sends + count)
    (served : Served (takes transport) channel.sends (channel.pendingFrames message)
      (channel.sends + calls) [] bytes) (work : Work (earlier ++ effects) (taken ++ bytes) 1)
    (disciplined : .stop ∉ (progressOf (earlier ++ effects)).dropLast)
    (drained : drain (takes transport) start.sends count message.frames = channel.pendingFrames message)
    (complete : taken ++ (channel.pendingFrames message).flatten = message.wire)
    (below : UndisturbedBelow transport start.sends count message.frames) :
    Stage transport start message after := by
  rw [counted] at served
  refine .released (earlier ++ effects) [] traced work.unreleased ⟨fun _ => ⟨sendable, ?_⟩, fun _ => ?_⟩
  · exact (below.served served).finished (drain_served drained served)
  · refine ⟨?_, work.sendings_eq, disciplined⟩
    rw [work.bytes_eq, ← complete, ← served.flatten_eq]
    simp

/-- A message that is still to be sent is begun. -/
theorem Stage.first {start after : Channel} (idle : OutputIdle start)
    (soft : ∀ index, transport index ≠ .closed ∧ transport index ≠ .error) (sendable : message.sendable)
    (activation : Activation transport
      { start with curOutMessage := some message, outState := .sendingHeaders } message after) :
    Stage transport start message after := by
  obtain ⟨begun, begunEq⟩ : ∃ begun, begun =
    { start with curOutMessage := some message, outState := .sendingHeaders } := ⟨_, rfl⟩
  rw [← begunEq] at activation
  have headers : begun.outState = .sendingHeaders := by rw [begunEq]
  have traced : begun.trace = start.trace ++ [] := by rw [begunEq, List.append_nil]
  have counted : begun.sends = start.sends + 0 := by rw [begunEq, Nat.add_zero]
  have unblocked : begun.ewouldblockBuffer = none := by rw [begunEq]; exact idle.unblocked
  have inFlight : InFlight begun message := by
    subst begunEq
    refine ⟨rfl, sendable, by simp, ?_, fun _ => idle.reset, by simp⟩
    intro buffer kept
    rw [unblocked] at kept
    simp at kept
  have pending : begun.pendingFrames message = message.frames := by
    simp [pendingFrames, blockedFrames, plannedFrames, unblocked, headers]
  have once : begun.plannedSendings = 1 := by simp [plannedSendings, headers]
  have complete : [] ++ (begun.pendingFrames message).flatten = message.wire := by
    rw [pending, List.nil_append, message.frames_flatten]
  have below : UndisturbedBelow transport start.sends 0 message.frames := by
    intro index inside
    omega
  cases activation with
  | released calls transfered effects bytes served work disciplined stopped =>
      rw [once] at work
      exact .delivered sendable (by simp [emit, worked, traced]) counted served (Work.nil.append work)
        disciplined pending.symm complete below
  | flushing pieces buffer left kept inside answer served =>
      rw [unblocked] at kept
      simp at kept
  | single calls transfered effects bytes rest _ single some_left answer served work =>
      have lengthened : begun.trace ++ effects = start.trace ++ effects := by rw [traced, List.append_nil]
      refine .repeating effects (inFlight.piece headers some_left) lengthened work.unreleased ?_
        (.inl ⟨headers, single, Nat.le_of_eq work.sendings_eq.symm⟩)
      intro undisturbed
      rw [counted, pending] at served
      rw [counted, Nat.add_zero] at answer
      refine undisturbed calls answer ?_
      have left := served.drain_eq
      simp only [Nat.add_zero, Nat.add_sub_cancel_left] at left
      rw [left]
      rfl
  | body handler calls transfered effects bytes rest bodyEq chunked inside some_left answer served work
      disciplined stopped =>
      rw [once] at work
      exact .interrupted inFlight bodyEq chunked inside some_left traced counted answer served
        (Work.nil.append work) (by simp) stopped pending.symm complete below
  | failed after failure => exact absurd failure (not_failed soft)

/-- A body that is on its way is resumed. -/
theorem Stage.continued {start channel after : Channel} {earlier : List Effect} {taken : List Byte} {count : Nat}
    (soft : ∀ index, transport index ≠ .closed ∧ transport index ≠ .error) (inFlight : InFlight channel message)
    (sending : channel.outState = .sendingBody) (traced : channel.trace = start.trace ++ earlier)
    (counted : channel.sends = start.sends + count) (working : Work earlier taken 1)
    (unstopped : .stop ∉ progressOf earlier)
    (drained : drain (takes transport) start.sends count message.frames = channel.pendingFrames message)
    (complete : taken ++ (channel.pendingFrames message).flatten = message.wire)
    (many : 2 ≤ (channel.pendingFrames message).length)
    (below : UndisturbedBelow transport start.sends count message.frames)
    (activation : Activation transport channel message after) : Stage transport start message after := by
  have silent : channel.plannedSendings = 0 := by simp [plannedSendings, sending]
  cases activation with
  | released calls transfered effects bytes served work disciplined stopped =>
      rw [silent] at work
      refine .delivered inFlight.sendable ?_ counted served (working.append work) ?_ drained complete below
      · simp [emit, worked, traced]
      · rw [progressOf_append, List.dropLast_append_of_ne_nil (stopped sending)]
        simp [unstopped, disciplined]
  | flushing pieces buffer left kept inside answer served =>
      have pending : pendingFrames { (channel.taking pieces).refused with ewouldblockOffset := left } message =
          buffer.drop left :: channel.plannedFrames message := pending_flushing channel message kept
      have lengthened : channel.trace ++ pieces.map Effect.accepted =
          start.trace ++ (earlier ++ pieces.map Effect.accepted) := by
        rw [traced, List.append_assoc]
      have more : 1 ≤ (channel.plannedFrames message).length := by
        rw [pendingFrames, blockedFrames, kept, List.length_append] at many
        simp only [List.length_cons, List.length_nil] at many
        omega
      rw [counted] at served answer
      rw [Nat.add_assoc] at answer
      have left_over := drain_served drained served
      refine .sending (earlier ++ pieces.map Effect.accepted) (taken ++ pieces.flatten)
        (count + pieces.length + 1) (inFlight.flushing kept inside) sending lengthened ?_
        (working.append (Work.pieces pieces)) (by simpa using unstopped) ?_ ?_ ?_ ?_
      · change channel.sends + pieces.length + 1 = _
        omega
      · rw [pending]
        exact drain_blocked left_over answer
      · rw [pending, List.append_assoc, served.flatten_eq, complete]
      · rw [pending, List.length_cons]
        omega
      · refine (below.served served).blocked left_over ?_
        rw [List.length_cons]
        omega
  | single _ _ _ _ _ headers =>
      rw [sending] at headers
      simp at headers
  | body handler calls transfered effects bytes rest bodyEq chunked inside some_left answer served work
      disciplined stopped =>
      rw [silent] at work
      exact .interrupted inFlight bodyEq chunked inside some_left traced counted answer served
        (working.append work) unstopped stopped drained complete below
  | failed after failure => exact absurd failure (not_failed soft)

/-- A message that is sent again cannot be complete when it is released. -/
theorem Stage.repeated {start channel after : Channel} {earlier : List Effect}
    (soft : ∀ index, transport index ≠ .closed ∧ transport index ≠ .error) (inFlight : InFlight channel message)
    (traced : channel.trace = start.trace ++ earlier) (unreleased : ∀ effect ∈ earlier, effect.releases = false)
    (disturbed : ¬Undisturbed transport start.sends message.frames)
    (again : channel.outState = .sendingHeaders ∧ message.chunked = false ∧ 1 ≤ onSendings earlier ∨
      channel.outState = .sendingBody ∧ .stop ∈ progressOf earlier)
    (activation : Activation transport channel message after) : Stage transport start message after := by
  have both {effects : List Effect} {bytes : List Byte} {sendings : Nat} (work : Work effects bytes sendings) :
      ∀ effect ∈ earlier ++ effects, effect.releases = false := by
    intro effect present
    rcases List.mem_append.mp present with old | new
    · exact unreleased effect old
    · exact work.unreleased effect new
  have lengthened (effects : List Effect) :
      channel.trace ++ effects = start.trace ++ (earlier ++ effects) := by
    rw [traced, List.append_assoc]
  cases activation with
  | released calls transfered effects bytes served work disciplined stopped =>
      refine .released (earlier ++ effects) [] (by simp [emit, worked, traced]) (both work)
        ⟨fun complete => ?_, fun condition => absurd condition.2 disturbed⟩
      rcases again with ⟨headers, _, announced⟩ | ⟨sending, seen⟩
      · have twice := complete.sendings_eq
        have planned : channel.plannedSendings = 1 := by simp [plannedSendings, headers]
        rw [onSendings_append, work.sendings_eq, planned] at twice
        omega
      · refine absurd ?_ complete.disciplined
        rw [progressOf_append, List.dropLast_append_of_ne_nil (stopped sending)]
        exact List.mem_append_left _ seen
  | flushing pieces buffer left kept inside answer served =>
      refine .repeating (earlier ++ pieces.map Effect.accepted) (inFlight.flushing kept inside)
        (lengthened _) (both (Work.pieces pieces)) disturbed ?_
      rcases again with ⟨headers, single, announced⟩ | ⟨sending, seen⟩
      · refine .inl ⟨headers, single, ?_⟩
        rw [onSendings_append]
        omega
      · exact .inr ⟨sending, by simpa using seen⟩
  | single calls transfered effects bytes rest headers single some_left answer served work =>
      refine .repeating (earlier ++ effects) (inFlight.piece headers some_left) (lengthened _) (both work)
        disturbed (.inl ⟨headers, single, ?_⟩)
      rw [onSendings_append, work.sendings_eq]
      omega
  | body handler calls transfered effects bytes rest bodyEq chunked inside some_left answer served work
      disciplined stopped =>
      refine .repeating (earlier ++ effects) (inFlight.chunk bodyEq chunked inside some_left) (lengthened _)
        (both work) disturbed (.inr ⟨rfl, ?_⟩)
      rcases again with ⟨_, single, _⟩ | ⟨_, seen⟩
      · rw [single] at chunked
        simp at chunked
      · simp [seen]
  | failed after failure => exact absurd failure (not_failed soft)

/-- A message whose body has no known size aborts the process after `on_sending`. -/
theorem _sendMessage_unknown (transport : Nat → SendResult) {channel : Channel}
    (current : channel.curOutMessage = some message) (headers : channel.outState = .sendingHeaders)
    (unblocked : channel.ewouldblockBuffer = none) (bodyEq : message.body = some handler)
    (unknown : handler.getSize = 0) (short : message.headers.length < maxChunk) :
    channel._sendMessage transport = (channel.emit (.onSending message)).emit .fatal := by
  simp only [_sendMessage, current, flush, unblocked, sendRest, headers, sendHeaders,
    if_neg (Nat.not_le.mpr short), bodyEq, unknown, ↓reduceIte, conclude]

theorem Stage.unknown {earlier : List Effect} (traced : channel.trace = start.trace ++ earlier)
    (unreleased : ∀ effect ∈ earlier, effect.releases = false) (current : channel.curOutMessage = some message)
    (headers : channel.outState = .sendingHeaders) (unblocked : channel.ewouldblockBuffer = none)
    (bodyEq : message.body = some handler) (unknown : handler.getSize = 0) (short : message.headers.length < maxChunk) :
    Stage transport start message (channel._sendMessage transport) := by
  rw [_sendMessage_unknown transport current headers unblocked bodyEq unknown short]
  refine .aborted (earlier ++ [.onSending message, .fatal]) handler ?_ ?_ current headers unblocked bodyEq
    unknown short
  · simp [emit, traced]
  · intro effect present
    rcases List.mem_append.mp present with old | new
    · exact unreleased effect old
    · simp only [List.mem_cons, List.not_mem_nil, or_false] at new
      rcases new with rfl | rfl <;> rfl

/-- A message whose header section does not fit is released after `on_sending`. -/
theorem sendMessage_oversized (transport : Nat → SendResult) {start : Channel} (idle : OutputIdle start)
    (long : maxChunk ≤ message.headers.length) :
    start.sendMessage transport message =
      Channel.done (Channel.emit { start with curOutMessage := some message, outState := .sendingHeaders }
        (.onSending message)) message := by
  simp only [sendMessage, _sendMessage, flush, idle.unblocked, sendRest, sendHeaders, if_pos long,
    ↓reduceIte]
  cases message.body <;> rfl

/-- A message whose header section does not fit is dropped without any bytes. -/
theorem Stage.oversized {start : Channel} (idle : OutputIdle start) (long : maxChunk ≤ message.headers.length) :
    Stage transport start message (start.sendMessage transport message) := by
  rw [sendMessage_oversized transport idle long]
  refine .released [.onSending message] [] ?_ (by simp [Effect.releases]) ⟨fun complete => ?_, fun condition => ?_⟩
  · simp [done, emit, freeEwouldblockBuffer, idle.unblocked]
  · have empty := complete.bytes_eq
    simp [bytesOf, Effect.bytes, Message.wire, message.headers_ne] at empty
  · exact absurd condition.1.1 (Nat.not_lt.mpr long)

theorem sendMessage_stage {start : Channel} (idle : OutputIdle start)
    (soft : ∀ index, transport index ≠ .closed ∧ transport index ≠ .error) :
    Stage transport start message (start.sendMessage transport message) := by
  by_cases long : maxChunk ≤ message.headers.length
  · exact .oversized idle long
  · by_cases sendable : message.sendable
    · refine .first idle soft sendable (_sendMessage_activation transport _ message ?_)
      refine ⟨rfl, sendable, by simp, ?_, fun _ => idle.reset, by simp⟩
      intro buffer kept
      change start.ewouldblockBuffer = _ at kept
      rw [idle.unblocked] at kept
      simp at kept
    · obtain ⟨handler, bodyEq, empty⟩ : ∃ handler, message.body = some handler ∧ handler.content = [] := by
        simpa [Message.sendable, Nat.not_le.mp long] using sendable
      exact .unknown (List.append_nil start.trace).symm (by simp) rfl rfl idle.unblocked bodyEq
        (by simp [BodyHandler.getSize, empty]) (Nat.not_le.mp long)

/-- A message popped while another is in flight is lost, and nothing else happens. -/
theorem popOutgoing_busy (transport : Nat → SendResult) (fuel : Nat) (channel : Channel)
    (busy : channel.outState ≠ .idle) :
    ∃ rest, popOutgoing transport fuel channel = { channel with outgoingMessages := rest } := by
  cases fuel with
  | zero => exact ⟨channel.outgoingMessages, rfl⟩
  | succ fuel =>
      rw [popOutgoing]
      split
      · exact ⟨channel.outgoingMessages, rfl⟩
      · next message rest _ =>
          simp only [busy, and_false, ↓reduceIte]
          exact ⟨rest, rfl⟩

theorem InFlight.outgoing {channel : Channel} (inFlight : InFlight channel message) (rest : List Message) :
    InFlight { channel with outgoingMessages := rest } message :=
  ⟨inFlight.current, inFlight.sendable, inFlight.busy, inFlight.inside, inFlight.reset, inFlight.body⟩

theorem Stage.later {start channel after : Channel} {effects later : List Effect} (grown : Extends channel after)
    (traced : channel.trace = start.trace ++ (effects ++ .released message :: later))
    (unreleased : ∀ effect ∈ effects, effect.releases = false) (exactly : CompleteOnce message effects ↔
      message.sendable ∧ Undisturbed transport start.sends message.frames) :
    Stage transport start message after := by
  obtain ⟨more, same⟩ := grown
  exact .released effects (later ++ more) (by rw [← same, traced]; simp) unreleased exactly

theorem Stage.pop (stage : Stage transport start message channel) (fuel : Nat) :
    Stage transport start message (popOutgoing transport fuel channel) := by
  cases stage with
  | sending effects bytes count inFlight sending traced counted work unstopped drained complete many below =>
      obtain ⟨rest, same⟩ := popOutgoing_busy transport fuel channel inFlight.busy
      rw [same]
      exact .sending effects bytes count (inFlight.outgoing rest) sending traced counted work unstopped
        drained complete many below
  | repeating effects inFlight traced unreleased disturbed again =>
      obtain ⟨rest, same⟩ := popOutgoing_busy transport fuel channel inFlight.busy
      rw [same]
      exact .repeating effects (inFlight.outgoing rest) traced unreleased disturbed again
  | aborted effects handler traced unreleased current headers unblocked bodyEq unknown short =>
      obtain ⟨rest, same⟩ := popOutgoing_busy transport fuel channel (by simp [headers])
      rw [same]
      exact .aborted effects handler traced unreleased current headers unblocked bodyEq unknown short
  | released effects later traced unreleased exactly =>
      exact .later (popOutgoing_extends transport fuel channel) traced unreleased exactly

theorem processQueue_stage (soft : ∀ index, transport index ≠ .closed ∧ transport index ≠ .error)
    (stage : Stage transport start message channel) :
    Stage transport start message (channel.processQueue transport) := by
  have resumes (busy : channel.outState ≠ .idle)
      (next : Stage transport start message (channel._sendMessage transport)) :
      Stage transport start message (channel.processQueue transport) := by
    rw [processQueue]
    simp only [ne_eq, busy, not_false_eq_true, ↓reduceIte]
    exact next.pop _
  cases stage with
  | sending effects bytes count inFlight sending traced counted work unstopped drained complete many below =>
      exact resumes inFlight.busy (.continued soft inFlight sending traced counted work unstopped drained
        complete many below (_sendMessage_activation transport channel message inFlight))
  | repeating effects inFlight traced unreleased disturbed again =>
      exact resumes inFlight.busy (.repeated soft inFlight traced unreleased disturbed again
        (_sendMessage_activation transport channel message inFlight))
  | aborted effects handler traced unreleased current headers unblocked bodyEq unknown short =>
      exact resumes (by simp [headers]) (.unknown traced unreleased current headers unblocked bodyEq unknown short)
  | released effects later traced unreleased exactly =>
      exact .later (processQueue_extends transport channel) traced unreleased exactly

theorem resumed_stage {start : Channel} (idle : OutputIdle start)
    (soft : ∀ index, transport index ≠ .closed ∧ transport index ≠ .error) (resumptions : Nat) :
    Stage transport start message (resumed transport start message resumptions) := by
  induction resumptions with
  | zero => exact sendMessage_stage idle soft
  | succ resumptions ih =>
      rw [resumed, Function.iterate_succ_apply']
      exact processQueue_stage soft ih

/-- A message that can be sent undisturbed is finished or on its way. -/
theorem Stage.progress (stage : Stage transport start message channel) (sendable : message.sendable)
    (undisturbed : Undisturbed transport start.sends message.frames) :
    Finished start channel ∨ ∃ count, InFlight channel message ∧ channel.sends = start.sends + count ∧
      drain (takes transport) start.sends count message.frames ≠ [] := by
  cases stage with
  | sending effects bytes count inFlight sending traced counted work unstopped drained complete many below =>
      refine .inr ⟨count, inFlight, counted, ?_⟩
      intro empty
      rw [drained] at empty
      rw [empty] at many
      exact absurd many (by decide)
  | repeating effects inFlight traced unreleased disturbed again => exact absurd undisturbed disturbed
  | aborted effects handler traced unreleased current headers unblocked bodyEq unknown short =>
      exact absurd (List.length_eq_zero_iff.mp unknown) (sendable.2 handler bodyEq)
  | released effects later traced unreleased exactly =>
      refine .inl ⟨.released message, ?_, rfl⟩
      rw [since_of_trace traced]
      exact List.mem_append_right _ List.mem_cons_self

theorem Finished.extends {after : Channel} (finished : Finished start channel) (grown : Extends channel after) :
    Finished start after := by
  obtain ⟨effect, among, releases⟩ := finished
  obtain ⟨more, same⟩ := grown
  refine ⟨effect, ?_, releases⟩
  rw [since, ← same, List.drop_append]
  exact List.mem_append_left _ among

theorem Finished.behind {after : Channel} (finished : Finished channel after) (begun : Extends start channel) :
    Finished start after := by
  obtain ⟨effect, among, releases⟩ := finished
  refine ⟨effect, ?_, releases⟩
  have further : since channel after = (since start after).drop (channel.trace.length - start.trace.length) := by
    rw [since, since, List.drop_drop, Nat.add_sub_cancel' begun.length_le]
  rw [further] at among
  exact List.mem_of_mem_drop among

/-- Each resumption finishes the message or calls the transport. -/
theorem processQueue_advances (soft : ∀ index, transport index ≠ .closed ∧ transport index ≠ .error)
    (inFlight : InFlight channel message) :
    Finished channel (channel.processQueue transport) ∨ channel.sends < (channel.processQueue transport).sends := by
  have called {after : Channel} (fuel : Nat) (busy : after.outState ≠ .idle) (more : channel.sends < after.sends) :
      channel.sends < (popOutgoing transport fuel after).sends := by
    obtain ⟨rest, same⟩ := popOutgoing_busy transport fuel after busy
    rw [same]
    exact more
  rw [processQueue]
  simp only [ne_eq, inFlight.busy, not_false_eq_true, ↓reduceIte]
  have activation := _sendMessage_activation transport channel message inFlight
  generalize channel._sendMessage transport = after at activation ⊢
  cases activation with
  | released calls transfered effects bytes served work disciplined stopped =>
      refine .inl (Finished.extends ⟨.released message, ?_, rfl⟩ (popOutgoing_extends transport _ _))
      simp [since, emit, worked]
  | flushing pieces buffer left kept inside answer served =>
      refine .inr (called _ inFlight.busy ?_)
      simp only [refused, taking]
      omega
  | single calls transfered effects bytes rest headers single some_left answer served work =>
      refine .inr (called _ inFlight.busy ?_)
      simp only [refused, worked]
      omega
  | body handler calls transfered effects bytes rest bodyEq chunked inside some_left answer served work
      disciplined stopped =>
      refine .inr (called _ (by simp) ?_)
      simp only [refused, worked]
      omega
  | failed after failure => exact absurd failure (not_failed soft)

theorem resumed_extends (start : Channel) (message : Message) (resumptions : Nat) :
    Extends start (resumed transport start message resumptions) := by
  induction resumptions with
  | zero =>
      have acted := _sendMessage_acted transport
        { start with curOutMessage := some message, outState := .sendingHeaders }
      exact acted.extends
  | succ resumptions ih =>
      rw [resumed, Function.iterate_succ_apply']
      exact ih.trans (processQueue_extends transport _)

theorem resumed_advances {start : Channel} (idle : OutputIdle start)
    (soft : ∀ index, transport index ≠ .closed ∧ transport index ≠ .error) (sendable : message.sendable)
    (undisturbed : Undisturbed transport start.sends message.frames) (resumptions : Nat) :
    Finished start (resumed transport start message resumptions) ∨
      start.sends + resumptions ≤ (resumed transport start message resumptions).sends := by
  induction resumptions with
  | zero =>
      refine ((resumed_stage idle soft 0).progress sendable undisturbed).imp_right ?_
      rintro ⟨count, -, counted, -⟩
      omega
  | succ resumptions ih =>
      have next : resumed transport start message (resumptions + 1) =
          (resumed transport start message resumptions).processQueue transport := Function.iterate_succ_apply' _ _ _
      rw [next]
      have extended := processQueue_extends transport (resumed transport start message resumptions)
      rcases (resumed_stage idle soft resumptions).progress sendable undisturbed with finished | ⟨_, inFlight, _, _⟩
      · exact .inl (finished.extends extended)
      · rcases ih with finished | reached
        · exact .inl (finished.extends extended)
        · rcases processQueue_advances soft inFlight with finished | more
          · exact .inl (finished.behind (resumed_extends start message resumptions))
          · exact .inr (by omega)

variable (transport)

/-- An undisturbed message is finished when the transport takes its frames in some answers, and the channel is resumed
as often. -/
theorem transmission_finishes {start : Channel} {message : Message} (idle : OutputIdle start)
    (soft : ∀ index, transport index ≠ .closed ∧ transport index ≠ .error) (sendable : message.sendable)
    (undisturbed : Undisturbed transport start.sends message.frames) {count resumptions : Nat}
    (drained : drain (takes transport) start.sends count message.frames = []) (enough : count ≤ resumptions) :
    Finished start (resumed transport start message resumptions) := by
  rcases resumed_advances idle soft sendable undisturbed resumptions with finished | reached
  · exact finished
  · rcases (resumed_stage idle soft resumptions).progress sendable undisturbed with finished | unfinished
    · exact finished
    · obtain ⟨calls, -, counted, left⟩ := unfinished
      obtain ⟨more, rfl⟩ : ∃ more, calls = count + more := Nat.exists_eq_add_of_le (by omega)
      rw [drain_add, drained, drain_nil] at left
      exact absurd rfl left

/-- A message is transmitted exactly once if and only if its header section fits, its body size is
known, and no would-block comes while its last frame is being sent. -/
theorem transmission_complete_iff (start : Channel) (message : Message) (idle : OutputIdle start)
    (soft : ∀ index, transport index ≠ .closed ∧ transport index ≠ .error) (resumptions : Nat)
    (finished : Finished start (resumed transport start message resumptions)) :
    CompleteOnce message (messageEffects start (resumed transport start message resumptions)) ↔
      message.sendable ∧ Undisturbed transport start.sends message.frames := by
  cases resumed_stage idle soft resumptions with
  | sending _ _ _ _ _ traced _ work => exact absurd finished (not_finished traced work.unreleased)
  | repeating _ _ traced unreleased => exact absurd finished (not_finished traced unreleased)
  | aborted _ _ traced unreleased => exact absurd finished (not_finished traced unreleased)
  | released effects later traced unreleased exactly =>
      rw [messageEffects_released traced unreleased]
      exact exactly

/-- The letters of OPTIONS stand for the header section of a message without body. -/
def optionsMessage : Message := ⟨[79, 80, 84, 73, 79, 78, 83], by decide, none⟩

/-- A message whose body is sent in two chunks after the header section. -/
def chunkedMessage : Message := ⟨[80, 85, 66], by decide, some (.memory (List.replicate (maxChunk + 9) 65))⟩

theorem chunkedMessage_sendable : chunkedMessage.sendable := by
  refine ⟨by decide, ?_⟩
  intro handler same
  obtain rfl := Option.some.inj same
  exact List.ne_nil_of_length_pos (Nat.lt_of_lt_of_eq (by decide) List.length_replicate.symm)

/-- The transport takes the header section, then blocks once, then takes everything. -/
def blockSecond : Nat → SendResult
  | 1 => .wouldBlock
  | _ => .accepted maxChunk

theorem blockSecond_soft (index : Nat) : blockSecond index ≠ .closed ∧ blockSecond index ≠ .error := by
  unfold blockSecond
  split <;> exact ⟨nofun, nofun⟩

theorem blockSecond_wouldBlock {index : Nat} (blocked : blockSecond index = .wouldBlock) : index = 1 := by
  unfold blockSecond at blocked
  split at blocked
  · rfl
  · cases blocked

theorem chunkedMessage_undisturbed : Undisturbed blockSecond 0 chunkedMessage.frames := by
  intro index blocked
  obtain rfl : index = 1 := (Nat.zero_add index).symm.trans (blockSecond_wouldBlock blocked)
  decide +kernel

/-- The frames of the message are taken in four answers. -/
theorem transmission_finishes_chunked : Finished {} (resumed blockSecond {} chunkedMessage 4) := by
  have drained : drain (takes blockSecond) 0 4 chunkedMessage.frames = [] :=
    List.isEmpty_iff.mp (by decide +kernel)
  exact transmission_finishes blockSecond ⟨rfl, rfl, rfl⟩ blockSecond_soft chunkedMessage_sendable
    chunkedMessage_undisturbed drained (Nat.le_refl 4)

/-- The body is interrupted before its first chunk, and the whole message is transmitted once. -/
theorem transmission_complete_iff_chunked :
    ¬Finished {} (resumed blockSecond {} chunkedMessage 0) ∧
      CompleteOnce chunkedMessage (messageEffects {} (resumed blockSecond {} chunkedMessage 4)) := by
  refine ⟨?_, ?_⟩
  · have silent : (since {} (resumed blockSecond {} chunkedMessage 0)).any Effect.releases = false := by
      decide +kernel
    rintro ⟨effect, among, releases⟩
    exact absurd releases (by simpa using List.any_eq_false.mp silent effect among)
  · exact (transmission_complete_iff blockSecond {} chunkedMessage ⟨rfl, rfl, rfl⟩ blockSecond_soft 4
      transmission_finishes_chunked).mpr ⟨chunkedMessage_sendable, chunkedMessage_undisturbed⟩

/-- The transport takes two bytes, then blocks once, then takes everything. -/
def blockOnce : Nat → SendResult
  | 0 => .accepted 1
  | 1 => .wouldBlock
  | _ => .accepted 100

theorem blockOnce_soft (index : Nat) : blockOnce index ≠ .closed ∧ blockOnce index ≠ .error := by
  match index with
  | 0 => exact ⟨by decide, by decide⟩
  | 1 => exact ⟨by decide, by decide⟩
  | _ + 2 => exact ⟨by simp [blockOnce], by simp [blockOnce]⟩

/-- After one would-block the message is sent a second time. -/
theorem wouldBlock_sends_twice :
    (∀ index, blockOnce index ≠ .closed ∧ blockOnce index ≠ .error) ∧
      Finished {} (resumed blockOnce {} optionsMessage 1) ∧
      ¬CompleteOnce optionsMessage (messageEffects {} (resumed blockOnce {} optionsMessage 1)) := by
  have traced : since {} (resumed blockOnce {} optionsMessage 1) =
      [.onSending optionsMessage, .accepted [79, 80], .accepted [84, 73, 79, 78, 83],
        .onSending optionsMessage, .accepted [79, 80, 84, 73, 79, 78, 83], .released optionsMessage] := rfl
  refine ⟨blockOnce_soft, ⟨.released optionsMessage, by simp [traced], rfl⟩, fun complete => ?_⟩
  · have once := complete.sendings_eq
    simp [messageEffects, traced, onSendings, List.countP_cons, Effect.announces, Effect.releases] at once

end Channel

end BelleSip
