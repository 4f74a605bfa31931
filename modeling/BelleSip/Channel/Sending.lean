import BelleSip.Foundation.FrameQueue
import BelleSip.Channel.Life

/-
This file states what each send loop of a channel does to its transport and to its trace.
-/

namespace BelleSip

open Foundation.FrameQueue

def SendResult.taken : SendResult → Option Nat
  | .accepted count => some count
  | _ => none

/-- The transport as the reader of a frame queue. -/
def takes (transport : Nat → SendResult) (index : Nat) : Option Nat := (transport index).taken

namespace Effect

def bytes : Effect → List Byte
  | .accepted bytes => bytes
  | _ => []

def announces : Effect → Bool
  | .onSending _ => true
  | _ => false

def progress : Effect → List Progress
  | .sentChunk progress => [progress]
  | _ => []

def releases : Effect → Bool
  | .released _ => true
  | _ => false

def queuedMessage : Effect → List Message
  | .queued message => [message]
  | _ => []

def releasedMessage : Effect → List Message
  | .released message => [message]
  | _ => []

end Effect

/-- The bytes that the transport has taken. -/
def bytesOf (effects : List Effect) : List Byte := effects.flatMap Effect.bytes

/-- The number of calls of `on_sending`. -/
def onSendings (effects : List Effect) : Nat := effects.countP Effect.announces

/-- The values that `belle_sip_body_handler_send_chunk` has returned. -/
def progressOf (effects : List Effect) : List Progress := effects.flatMap Effect.progress

/-- The messages given to `belle_sip_channel_queue_message`, oldest first. -/
def queuedOf (effects : List Effect) : List Message := effects.flatMap Effect.queuedMessage

/-- The messages that `_send_message` has finished with, oldest first. -/
def releasedOf (effects : List Effect) : List Message := effects.flatMap Effect.releasedMessage

@[simp] theorem queuedOf_append (first second : List Effect) :
    queuedOf (first ++ second) = queuedOf first ++ queuedOf second := List.flatMap_append

@[simp] theorem releasedOf_append (first second : List Effect) :
    releasedOf (first ++ second) = releasedOf first ++ releasedOf second := List.flatMap_append

@[simp] theorem bytesOf_append (first second : List Effect) :
    bytesOf (first ++ second) = bytesOf first ++ bytesOf second := List.flatMap_append

@[simp] theorem onSendings_append (first second : List Effect) :
    onSendings (first ++ second) = onSendings first + onSendings second := List.countP_append

@[simp] theorem progressOf_append (first second : List Effect) :
    progressOf (first ++ second) = progressOf first ++ progressOf second := List.flatMap_append

/-- The effects take `bytes`, call `on_sending` so many times, and release nothing. -/
structure Work (effects : List Effect) (bytes : List Byte) (sendings : Nat) : Prop where
  bytes_eq : bytesOf effects = bytes
  sendings_eq : onSendings effects = sendings
  unreleased : ∀ effect ∈ effects, effect.releases = false
  unqueued : queuedOf effects = []

namespace Work

theorem nil : Work [] [] 0 := ⟨rfl, rfl, by simp, rfl⟩

theorem append {first second : List Effect} {early late : List Byte} {few more : Nat}
    (before : Work first early few) (after : Work second late more) :
    Work (first ++ second) (early ++ late) (few + more) where
  bytes_eq := by rw [bytesOf_append, before.bytes_eq, after.bytes_eq]
  sendings_eq := by rw [onSendings_append, before.sendings_eq, after.sendings_eq]
  unreleased effect present := by
    rcases List.mem_append.mp present with early | late
    · exact before.unreleased effect early
    · exact after.unreleased effect late
  unqueued := by rw [queuedOf_append, before.unqueued, after.unqueued, List.nil_append]

theorem releasedOf_eq_nil {effects : List Effect} {bytes : List Byte} {sendings : Nat}
    (work : Work effects bytes sendings) : releasedOf effects = [] := by
  refine List.flatMap_eq_nil_iff.mpr fun effect present => ?_
  have unreleased := work.unreleased effect present
  cases effect <;> simp_all [Effect.releases, Effect.releasedMessage]

theorem pieces (pieces : List (List Byte)) : Work (pieces.map .accepted) pieces.flatten 0 where
  bytes_eq := by
    induction pieces with
    | nil => rfl
    | cons piece rest ih =>
        rw [List.map_cons, List.flatten_cons, ← ih]
        rfl
  sendings_eq := by
    induction pieces with
    | nil => rfl
    | cons piece rest ih =>
        rw [List.map_cons, onSendings, List.countP_cons_of_neg (by simp [Effect.announces])]
        exact ih
  unreleased effect present := by
    obtain ⟨piece, _, rfl⟩ := List.mem_map.mp present
    rfl
  unqueued := by
    induction pieces with
    | nil => rfl
    | cons piece rest ih =>
        rw [List.map_cons]
        exact ih

theorem chunk (progress : Progress) : Work [.sentChunk progress] [] 0 :=
  ⟨rfl, rfl, by simp [Effect.releases], rfl⟩

end Work

@[simp] theorem progressOf_pieces (pieces : List (List Byte)) :
    progressOf (pieces.map .accepted) = [] := by
  induction pieces with
  | nil => rfl
  | cons piece rest ih =>
      rw [List.map_cons]
      exact ih

@[simp] theorem progressOf_chunk (progress : Progress) (effects : List Effect) :
    progressOf (.sentChunk progress :: effects) = progress :: progressOf effects := rfl

@[simp] theorem progressOf_nil : progressOf [] = [] := rfl

namespace BodyHandler

/-- The chunks that are still to send, at most `fuel` of them. -/
def chunks (handler : BodyHandler) : Nat → Nat → List (List Byte)
  | 0, _ => []
  | fuel + 1, transfered =>
      if transfered < handler.getSize then
        handler.chunkAt transfered maxChunk ::
          chunks handler fuel (transfered + (handler.chunkAt transfered maxChunk).length)
      else []

/-- The chunks that are still to send from an offset on. -/
def chunksFrom (handler : BodyHandler) (transfered : Nat) : List (List Byte) :=
  handler.chunks (handler.getSize - transfered) transfered

theorem chunkAt_bounds (handler : BodyHandler) (transfered : Nat) (inside : transfered < handler.getSize) :
    0 < (handler.chunkAt transfered maxChunk).length ∧
      transfered + (handler.chunkAt transfered maxChunk).length ≤ handler.getSize := by
  have positive := handler.piece_pos transfered maxChunk inside (by decide)
  have bounded := handler.piece_le transfered maxChunk
  rw [chunkAt_length]
  unfold getSize at *
  omega

theorem chunks_enough (handler : BodyHandler) (first second transfered : Nat)
    (enough : handler.getSize - transfered ≤ first) (enough' : handler.getSize - transfered ≤ second) :
    handler.chunks first transfered = handler.chunks second transfered := by
  induction first generalizing second transfered with
  | zero =>
      cases second with
      | zero => rfl
      | succ second => rw [chunks, chunks, if_neg (by omega)]
  | succ first ih =>
      by_cases inside : transfered < handler.getSize
      · have bounds := handler.chunkAt_bounds transfered inside
        obtain ⟨less, rfl⟩ : ∃ less, second = less + 1 := ⟨second - 1, by omega⟩
        rw [chunks, chunks, if_pos inside, if_pos inside, ih less _ (by omega) (by omega)]
      · cases second with
        | zero => rw [chunks, chunks, if_neg inside]
        | succ second => rw [chunks, chunks, if_neg inside, if_neg inside]

theorem chunksFrom_step (handler : BodyHandler) (transfered : Nat) (inside : transfered < handler.getSize) :
    handler.chunksFrom transfered = handler.chunkAt transfered maxChunk ::
      handler.chunksFrom (transfered + (handler.chunkAt transfered maxChunk).length) := by
  have bounds := handler.chunkAt_bounds transfered inside
  rw [chunksFrom, show handler.getSize - transfered = handler.getSize - transfered - 1 + 1 by omega,
    chunks, if_pos inside, chunksFrom]
  rw [handler.chunks_enough _ (handler.getSize - (transfered + _)) _ (by omega) (Nat.le_refl _)]

@[simp] theorem chunksFrom_end (handler : BodyHandler) : handler.chunksFrom handler.getSize = [] := by
  rw [chunksFrom, Nat.sub_self, chunks]

theorem chunksFrom_flatten (handler : BodyHandler) (transfered : Nat) (inside : transfered ≤ handler.getSize) :
    (handler.chunksFrom transfered).flatten = handler.content.drop transfered := by
  obtain rfl | inside := Nat.eq_or_lt_of_le inside
  · rw [chunksFrom_end]
    simp [getSize]
  · have bounds := handler.chunkAt_bounds transfered inside
    rw [chunksFrom_step _ _ inside, List.flatten_cons, chunksFrom_flatten _ _ bounds.2, chunkAt_append]
termination_by handler.getSize - transfered

/-- No chunk is left exactly when the handler has returned `BELLE_SIP_STOP`. -/
theorem chunksFrom_eq_nil (handler : BodyHandler) (transfered : Nat)
    (inside : transfered ≤ handler.getSize) :
    handler.chunksFrom transfered = [] ↔ transfered = handler.getSize := by
  constructor
  · intro empty
    by_contra unfinished
    rw [chunksFrom_step _ _ (by omega)] at empty
    exact List.cons_ne_nil _ _ empty
  · rintro rfl
    exact handler.chunksFrom_end

end BodyHandler

namespace Message

/-- The bytes that `_send_message` sends together with the header section. -/
def firstFrame (message : Message) : List Byte :=
  if message.chunked then message.headers else message.wire

/-- The chunks that follow the first frame. -/
def laterFrames (message : Message) : List (List Byte) :=
  match message.body with
  | none => []
  | some handler => if message.chunked then handler.chunksFrom 0 else []

/-- The buffers that a message is cut into. -/
def frames (message : Message) : List (List Byte) := message.firstFrame :: message.laterFrames

theorem firstFrame_ne (message : Message) : message.firstFrame ≠ [] := by
  unfold firstFrame wire
  split <;> simp [message.headers_ne]

theorem laterFrames_single (message : Message) (single : message.chunked = false) :
    message.laterFrames = [] := by
  unfold laterFrames
  split <;> simp [single]

theorem chunked_body (message : Message) (chunked : message.chunked = true) :
    ∃ handler, message.body = some handler ∧ maxChunk - message.headers.length < handler.getSize ∧
      message.laterFrames = handler.chunksFrom 0 := by
  cases bodyEq : message.body with
  | none => simp [Message.chunked, bodyEq] at chunked
  | some handler =>
      refine ⟨handler, rfl, ?_, ?_⟩
      · simpa [Message.chunked, bodyEq] using chunked
      · simp [laterFrames, bodyEq, chunked]

/-- The frames of a message make up its bytes. -/
theorem frames_flatten (message : Message) : message.frames.flatten = message.wire := by
  cases chunked : message.chunked with
  | false => simp [frames, firstFrame, message.laterFrames_single chunked, chunked]
  | true =>
      obtain ⟨handler, bodyEq, _, later⟩ := message.chunked_body chunked
      rw [frames, List.flatten_cons, later, handler.chunksFrom_flatten 0 (Nat.zero_le _)]
      simp [firstFrame, wire, bodyBytes, bodyEq, chunked]

end Message

namespace Channel

/-- The transport has taken the given pieces, one for each call. -/
def taking (channel : Channel) (pieces : List (List Byte)) : Channel :=
  { channel with
    sends := channel.sends + pieces.length
    trace := channel.trace ++ pieces.map .accepted }

/-- One call of the transport has taken nothing. -/
def refused (channel : Channel) : Channel := { channel with sends := channel.sends + 1 }

@[simp] theorem taking_nil (channel : Channel) : channel.taking [] = channel := by
  simp [taking]

theorem taking_taking (channel : Channel) (first second : List (List Byte)) :
    (channel.taking first).taking second = channel.taking (first ++ second) := by
  simp [taking, Nat.add_assoc]

@[simp] theorem taking_sends (channel : Channel) (pieces : List (List Byte)) :
    (channel.taking pieces).sends = channel.sends + pieces.length := rfl

@[simp] theorem taking_trace (channel : Channel) (pieces : List (List Byte)) :
    (channel.taking pieces).trace = channel.trace ++ pieces.map .accepted := rfl

variable (transport : Nat → SendResult)

/-- The four ways in which sending `buffer` from `offset` can end. -/
inductive Loop (channel : Channel) (buffer : List Byte) (offset : Nat) : Channel × SendOutcome → Prop where
  | sent (pieces : List (List Byte))
      (served : Served (takes transport) channel.sends [buffer.drop offset]
        (channel.sends + pieces.length) [] pieces.flatten) :
      Loop channel buffer offset (channel.taking pieces, .sent)
  | wouldBlock (pieces : List (List Byte)) (left : Nat) (inside : left < buffer.length)
      (answer : transport (channel.sends + pieces.length) = .wouldBlock)
      (served : Served (takes transport) channel.sends [buffer.drop offset]
        (channel.sends + pieces.length) [buffer.drop left] pieces.flatten) :
      Loop channel buffer offset ((channel.taking pieces).refused, .wouldBlock left)
  | closed (pieces : List (List Byte))
      (answer : transport (channel.sends + pieces.length) = .closed) :
      Loop channel buffer offset ((channel.taking pieces).refused, .failed)
  | error (pieces : List (List Byte))
      (answer : transport (channel.sends + pieces.length) = .error) :
      Loop channel buffer offset ((channel.taking pieces).refused.setState .error, .failed)

/-- Bytes taken before the loop belong to its result. -/
theorem Loop.after {transport : Nat → SendResult} {channel : Channel} {buffer taken : List Byte}
    {offset next : Nat} {result : Channel × SendOutcome}
    (first : Served (takes transport) channel.sends [buffer.drop offset] (channel.sends + 1)
      [buffer.drop next] taken)
    (loop : Loop transport (channel.taking [taken]) buffer next result) :
    Loop transport channel buffer offset result := by
  have moved (pieces : List (List Byte)) :
      (channel.taking [taken]).sends + pieces.length = channel.sends + (taken :: pieces).length := by
    simp only [taking_sends, List.length_cons, List.length_nil]
    omega
  have joined (pieces : List (List Byte)) :
      (channel.taking [taken]).taking pieces = channel.taking (taken :: pieces) := by
    rw [taking_taking]
    rfl
  cases loop with
  | sent pieces served =>
      rw [moved] at served
      rw [joined]
      exact .sent _ (by simpa using first.trans served)
  | wouldBlock pieces left inside answer served =>
      rw [moved] at served answer
      rw [joined]
      exact .wouldBlock _ left inside answer (by simpa using first.trans served)
  | closed pieces answer =>
      rw [moved] at answer
      rw [joined]
      exact .closed _ answer
  | error pieces answer =>
      rw [moved] at answer
      rw [joined]
      exact .error _ answer

theorem sendFrom_loop (fuel : Nat) (channel : Channel) (buffer : List Byte) (offset : Nat)
    (inside : offset < buffer.length) (enough : buffer.length - offset ≤ fuel) :
    Loop transport channel buffer offset (sendFrom transport fuel channel buffer offset) := by
  induction fuel generalizing channel offset with
  | zero => omega
  | succ fuel ih =>
      rw [sendFrom, sendBuffer]
      cases answer : transport channel.sends with
      | accepted count =>
          have size : (buffer.drop offset).length = buffer.length - offset := List.length_drop
          obtain ⟨taken, takenEq⟩ : ∃ taken, min (count + 1) (buffer.drop offset).length = taken + 1 :=
            ⟨min (count + 1) (buffer.drop offset).length - 1, by omega⟩
          have called : Channel.emit { channel with sends := channel.sends + 1 }
              (.accepted ((buffer.drop offset).take (count + 1))) =
                channel.taking [(buffer.drop offset).take (count + 1)] := rfl
          have replied : takes transport channel.sends = some count := by
            simp [takes, answer, SendResult.taken]
          simp only [takenEq, called]
          split
          next whole =>
            have short : (buffer.drop offset).length ≤ count + 1 := by omega
            have served : Served (takes transport) channel.sends [buffer.drop offset] _ _ _ :=
              .step replied (.refl _ _)
            rw [offer, if_pos short] at served
            exact .sent [_] (by simpa using served)
          next part =>
            have long : ¬(buffer.drop offset).length ≤ count + 1 := by omega
            have served : Served (takes transport) channel.sends [buffer.drop offset] _ _ _ :=
              .step replied (.refl _ _)
            rw [offer, if_neg long, List.append_nil] at served
            have whole : taken + 1 = count + 1 := by omega
            rw [whole] at part ⊢
            refine Loop.after ?_ (ih _ (offset + (count + 1)) (by omega) (by omega))
            rw [List.drop_drop] at served
            exact served
      | wouldBlock =>
          have ended : Loop transport channel buffer offset _ := Loop.wouldBlock [] offset inside
            (by simpa using answer) (.refl _ _)
          rw [taking_nil] at ended
          exact ended
      | closed =>
          have ended : Loop transport channel buffer offset _ := Loop.closed [] (by simpa using answer)
          rw [taking_nil] at ended
          exact ended
      | error =>
          have ended : Loop transport channel buffer offset _ := Loop.error [] (by simpa using answer)
          rw [taking_nil] at ended
          exact ended

/-- A hard failure of the transport; a ready channel that meets an error is in the error state. -/
def Failure (channel after : Channel) : Prop :=
  (∃ index, transport index = .closed) ∨
    (∃ index, transport index = .error) ∧ (channel.state = .ready → after.state = .error)

/-- The ways in which `transmit` can end on a channel without pending bytes. -/
inductive Transmission (channel : Channel) (buffer : List Byte) : Channel × SendOutcome → Prop where
  | sent (pieces : List (List Byte))
      (served : Served (takes transport) channel.sends [buffer] (channel.sends + pieces.length) []
        pieces.flatten) :
      Transmission channel buffer (channel.taking pieces, .sent)
  | wouldBlock (pieces : List (List Byte)) (rest : List Byte) (offset : Nat) (some_left : rest ≠ [])
      (answer : transport (channel.sends + pieces.length) = .wouldBlock)
      (served : Served (takes transport) channel.sends [buffer] (channel.sends + pieces.length) [rest]
        pieces.flatten) :
      Transmission channel buffer
        ({ (channel.taking pieces).refused with ewouldblockBuffer := some rest }, .wouldBlock offset)
  | failed (after : Channel) (failure : Failure transport channel after) :
      Transmission channel buffer (after, .failed)

theorem transmit_transmission (channel : Channel) (buffer : List Byte) (nonempty : buffer ≠ [])
    (unblocked : channel.ewouldblockBuffer = none) :
    Transmission transport channel buffer (channel.transmit transport buffer) := by
  have loop := sendFrom_loop transport (buffer.length + 1) channel buffer 0
    (List.length_pos_iff.mpr nonempty) (by omega)
  rw [transmit]
  generalize sendFrom transport (buffer.length + 1) channel buffer 0 = result at loop
  cases loop with
  | sent pieces served => exact .sent pieces (by simpa using served)
  | wouldBlock pieces left inside answer served =>
      have kept : ((channel.taking pieces).refused).handleEwouldblock (buffer.drop left) =
          { (channel.taking pieces).refused with ewouldblockBuffer := some (buffer.drop left) } := by
        simp [handleEwouldblock, freeEwouldblockBuffer, refused, taking, unblocked]
      simp only [kept]
      refine .wouldBlock pieces (buffer.drop left) left ?_ answer (by simpa using served)
      simpa using inside
  | closed pieces answer => exact .failed _ (.inl ⟨_, answer⟩)
  | error pieces answer => exact .failed _ (.inr ⟨⟨_, answer⟩, fun ready => setState_error _ ready⟩)

/-- Work of the current message moves its body position, the transport, and the trace. -/
def worked (channel : Channel) (transfered calls : Nat) (effects : List Effect) : Channel :=
  { channel with
    transferedSize := transfered
    sends := channel.sends + calls
    trace := channel.trace ++ effects }

theorem worked_worked (channel : Channel) (transfered next calls more : Nat) (effects later : List Effect) :
    (channel.worked transfered calls effects).worked next more later =
      channel.worked next (calls + more) (effects ++ later) := by
  simp [worked, Nat.add_assoc]

theorem worked_taking (channel : Channel) (transfered calls : Nat) (effects : List Effect)
    (pieces : List (List Byte)) :
    (channel.worked transfered calls effects).taking pieces =
      channel.worked transfered (calls + pieces.length) (effects ++ pieces.map .accepted) := by
  simp [worked, taking, Nat.add_assoc]

/-- The ways in which sending the body from the current position can end. -/
inductive Body (channel : Channel) (handler : BodyHandler) : Channel × SendOutcome → Prop where
  | sent (calls : Nat) (effects : List Effect) (bytes : List Byte) (early : List Progress)
      (served : Served (takes transport) channel.sends (handler.chunksFrom channel.transferedSize)
        (channel.sends + calls) [] bytes)
      (work : Work effects bytes 0)
      (progress : progressOf effects = early ++ [.stop]) (unstopped : .stop ∉ early) :
      Body channel handler (channel.worked handler.getSize calls effects, .sent)
  | wouldBlock (calls : Nat) (effects : List Effect) (bytes rest : List Byte) (transfered offset : Nat)
      (early : List Progress) (last : Progress) (some_left : rest ≠ [])
      (inside : transfered ≤ handler.getSize)
      (answer : transport (channel.sends + calls) = .wouldBlock)
      (served : Served (takes transport) channel.sends (handler.chunksFrom channel.transferedSize)
        (channel.sends + calls) (rest :: handler.chunksFrom transfered) bytes)
      (work : Work effects bytes 0)
      (progress : progressOf effects = early ++ [last]) (unstopped : .stop ∉ early)
      (stopped : last = .stop ↔ transfered = handler.getSize) :
      Body channel handler
        ({ (channel.worked transfered calls effects).refused with ewouldblockBuffer := some rest },
          .wouldBlock offset)
  | failed (after : Channel) (failure : Failure transport channel after) :
      Body channel handler (after, .failed)

/-- A chunk sent before the loop belongs to its result. -/
theorem Body.after {transport : Nat → SendResult} {channel : Channel} {handler : BodyHandler}
    {result : Channel × SendOutcome} {transfered : Nat} {pieces : List (List Byte)} {chunk : List Byte}
    (served : Served (takes transport) channel.sends [chunk] (channel.sends + pieces.length) []
      pieces.flatten)
    (step : handler.chunksFrom channel.transferedSize = chunk :: handler.chunksFrom transfered)
    (body : Body transport
      (channel.worked transfered pieces.length (.sentChunk .continues :: pieces.map .accepted)) handler
      result) :
    Body transport channel handler result := by
  have first := served.append (handler.chunksFrom transfered)
  rw [List.nil_append, List.singleton_append, ← step] at first
  have begun : Work (.sentChunk .continues :: pieces.map .accepted) pieces.flatten 0 :=
    (Work.chunk .continues).append (Work.pieces pieces)
  have moved (calls : Nat) :
      (channel.worked transfered pieces.length (.sentChunk .continues :: pieces.map .accepted)).sends
          + calls = channel.sends + (pieces.length + calls) := Nat.add_assoc _ _ _
  have continued {effects : List Effect} {early : List Progress} {last : Progress}
      (progress : progressOf effects = early ++ [last]) :
      progressOf ((.sentChunk .continues :: pieces.map .accepted) ++ effects) =
        (.continues :: early) ++ [last] := by
    simp [progress]
  cases body with
  | sent calls effects bytes early later work progress unstopped =>
      rw [moved] at later
      rw [worked_worked]
      exact .sent _ _ _ _ (first.trans later) (begun.append work) (continued progress)
        (by simpa using unstopped)
  | wouldBlock calls effects bytes rest next offset early last some_left inside answer later work progress
      unstopped stopped =>
      rw [moved] at later answer
      rw [worked_worked]
      exact .wouldBlock _ _ _ rest next offset _ last some_left inside answer (first.trans later)
        (begun.append work) (continued progress) (by simpa using unstopped) stopped
  | failed after failure => exact .failed after failure

theorem sendBody_body (fuel : Nat) (channel : Channel) (handler : BodyHandler)
    (unblocked : channel.ewouldblockBuffer = none) (inside : channel.transferedSize ≤ handler.getSize)
    (enough : handler.getSize - channel.transferedSize < fuel) :
    Body transport channel handler (channel.sendBody transport handler fuel) := by
  induction fuel generalizing channel with
  | zero => omega
  | succ fuel ih =>
      rw [sendBody]
      simp only [BodyHandler.sendChunk]
      obtain finished | unfinished := Nat.eq_or_lt_of_le inside
      · have nothing : handler.chunkAt channel.transferedSize maxChunk = [] := by
          rw [finished, handler.chunkAt_end]
        have ended : Body transport channel handler _ := Body.sent 0
          [.sentChunk .stop] [] [] (by rw [finished, handler.chunksFrom_end]; exact .refl _ _)
          (Work.chunk .stop) (by simp) (by simp)
        simp only [nothing, List.length_nil, Nat.add_zero]
        simp only [finished, ↓reduceIte]
        exact ended
      · have bounds := handler.chunkAt_bounds channel.transferedSize unfinished
        have step := handler.chunksFrom_step channel.transferedSize unfinished
        obtain ⟨chunk, chunkEq⟩ : ∃ chunk, handler.chunkAt channel.transferedSize maxChunk = chunk := ⟨_, rfl⟩
        rw [chunkEq] at bounds step
        have nonempty : chunk ≠ [] := List.length_pos_iff.mp bounds.1
        obtain ⟨next, nextEq⟩ : ∃ next, channel.transferedSize + chunk.length = next := ⟨_, rfl⟩
        rw [nextEq] at bounds step
        obtain ⟨progress, progressEq⟩ :
            ∃ progress, (if next = handler.getSize then Progress.stop else .continues) = progress := ⟨_, rfl⟩
        have begun : Channel.emit { channel with transferedSize := next } (.sentChunk progress) =
            channel.worked next 0 [.sentChunk progress] := rfl
        simp only [chunkEq, nextEq, progressEq, begun, if_neg nonempty]
        have transmission := transmit_transmission transport
          (channel.worked next 0 [.sentChunk progress]) chunk nonempty unblocked
        generalize transmit transport (channel.worked next 0 [.sentChunk progress]) chunk = result
          at transmission
        cases transmission with
        | sent pieces served =>
            rw [worked_taking, Nat.zero_add]
            cases progress with
            | continues =>
                exact Body.after served step (ih _ unblocked bounds.2 (by change _ - next < _; omega))
            | stop =>
                have whole : next = handler.getSize := by
                  by_contra short
                  simp [short] at progressEq
                subst whole
                rw [handler.chunksFrom_end] at step
                exact .sent _ _ _ [] (by rw [step]; exact served)
                  ((Work.chunk .stop).append (Work.pieces pieces)) (by simp) (by simp)
        | wouldBlock pieces rest offset some_left answer served =>
            have kept := served.append (handler.chunksFrom next)
            rw [List.singleton_append, ← step] at kept
            have ended : Body transport channel handler _ :=
                Body.wouldBlock pieces.length (.sentChunk progress :: pieces.map .accepted)
              pieces.flatten rest next offset [] progress some_left bounds.2 answer kept
              ((Work.chunk progress).append (Work.pieces pieces)) (by simp) (by simp)
              (by by_cases whole : next = handler.getSize <;> simp [whole, ← progressEq])
            rw [worked_taking, Nat.zero_add]
            exact ended
        | failed after failure => exact .failed after failure

theorem appendBody_spec (handler : BodyHandler) (fuel : Nat) (channel : Channel) (buffer : List Byte)
    (inside : channel.transferedSize < handler.getSize)
    (fits : buffer.length + (handler.getSize - channel.transferedSize) ≤ maxChunk)
    (enough : handler.getSize - channel.transferedSize ≤ fuel) :
    ∃ effects early, appendBody handler fuel channel buffer =
        (channel.worked handler.getSize 0 effects,
          buffer ++ handler.content.drop channel.transferedSize) ∧
      Work effects [] 0 ∧ progressOf effects = early ++ [.stop] ∧ .stop ∉ early := by
  induction fuel generalizing channel buffer with
  | zero => omega
  | succ fuel ih =>
      have positive := handler.piece_pos channel.transferedSize (maxChunk - buffer.length) inside (by omega)
      have bounded := handler.piece_le channel.transferedSize (maxChunk - buffer.length)
      have joined := handler.chunkAt_append channel.transferedSize (maxChunk - buffer.length)
      rw [← handler.chunkAt_length] at positive bounded
      rw [appendBody]
      simp only [BodyHandler.sendChunk]
      obtain ⟨chunk, chunkEq⟩ :
        ∃ chunk, handler.chunkAt channel.transferedSize (maxChunk - buffer.length) = chunk := ⟨_, rfl⟩
      rw [chunkEq] at positive bounded joined
      have within : channel.transferedSize + chunk.length ≤ handler.getSize := by
        unfold BodyHandler.getSize at *
        omega
      simp only [chunkEq]
      obtain whole | part := Nat.eq_or_lt_of_le within
      · rw [whole, show handler.content.drop handler.getSize = [] by simp [BodyHandler.getSize],
          List.append_nil] at joined
        simp only [whole, ↓reduceIte, ← joined]
        exact ⟨[.sentChunk .stop], [], rfl, Work.chunk .stop, by simp, by simp⟩
      · simp only [if_neg (Nat.ne_of_lt part)]
        obtain ⟨effects, early, same, work, progress, unstopped⟩ := ih
          (Channel.emit { channel with transferedSize := channel.transferedSize + chunk.length }
            (.sentChunk .continues)) (buffer ++ chunk) part
          (by simp only [emit, List.length_append]; omega) (by simp only [emit]; omega)
        refine ⟨.sentChunk .continues :: effects, .continues :: early, ?_, ?_, ?_, ?_⟩
        · rw [same, List.append_assoc]
          simp only [emit, joined, worked, List.append_assoc, List.singleton_append]
        · exact (Work.chunk .continues).append work
        · simp [progress]
        · simpa using unstopped

end Channel

end BelleSip
