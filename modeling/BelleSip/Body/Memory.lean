import BelleSip.Body.Handler
import BelleSip.Foundation.Allocation

/-
This file models the memory body handler with its counters and its buffer, and proves that one handler receives what
another one sends.
-/

namespace BelleSip

open Foundation Foundation.Mime
open Allocation (sizeSub realloc copyTo)

/-- This is `belle_sip_memory_body_handler_t`, with the two counters of its base. -/
structure MemoryBodyHandler where
  expectedSize : Nat := 0
  transferedSize : Nat := 0
  buffer : Bytes := []
deriving DecidableEq, Repr

namespace MemoryBodyHandler

/-- This is `belle_sip_memory_body_handler_new_from_buffer`. -/
def newFromBuffer (buffer : Bytes) : MemoryBodyHandler := { expectedSize := buffer.length, buffer := buffer }

/-- This is `belle_sip_memory_body_handler_send_chunk`. It may not read behind `expected_size`. -/
def chunkSend (obj : MemoryBodyHandler) (offset size : Nat) : Checked Chunk :=
  let toSend := min size (sizeSub obj.expectedSize offset)
  if obj.expectedSize < offset + toSend then .error .fatal
  else .ok {
    size := toSend
    bytes := (obj.buffer.drop offset).take toSend
    code := if sizeSub obj.expectedSize offset = toSend then .belleSipStop else .belleSipContinue }

/-- This is `belle_sip_body_handler_send_chunk`. -/
def sendChunk (obj : MemoryBodyHandler) (size : Nat) : Checked (MemoryBodyHandler × Chunk) := do
  let size := if obj.expectedSize ≠ 0 then min size (sizeSub obj.expectedSize obj.transferedSize) else size
  let chunk ← obj.chunkSend obj.transferedSize size
  let transferedSize := obj.transferedSize + chunk.size
  return ({ obj with transferedSize := transferedSize },
    { chunk with code := returnedCode obj.expectedSize transferedSize chunk.code })

/-- The calls of `belle_sip_body_handler_send_chunk` with the given sizes. -/
def sendChunks : List Nat → MemoryBodyHandler → Checked (MemoryBodyHandler × List Chunk)
  | [], obj => .ok (obj, [])
  | size :: sizes, obj => do
      let (obj, chunk) ← obj.sendChunk size
      let (obj, chunks) ← sendChunks sizes obj
      return (obj, chunk :: chunks)

/-- This is `belle_sip_memory_body_handler_recv_chunk`. -/
def chunkRecv (fresh : Nat → UInt8) (obj : MemoryBodyHandler) (offset : Nat) (bytes : Bytes) :
    Checked MemoryBodyHandler := do
  let buffer ← copyTo (realloc fresh obj.buffer (offset + bytes.length + 1)) offset bytes
  let buffer ← copyTo buffer (offset + bytes.length) [0]
  return { obj with buffer := buffer }

/-- This is `belle_sip_body_handler_recv_chunk`. -/
def recvChunk (fresh : Nat → UInt8) (obj : MemoryBodyHandler) (bytes : Bytes) : Checked MemoryBodyHandler := do
  let obj ← obj.chunkRecv fresh obj.transferedSize bytes
  return { obj with transferedSize := obj.transferedSize + bytes.length }

def recvChunks (fresh : Nat → UInt8) : List Bytes → MemoryBodyHandler → Checked MemoryBodyHandler
  | [], obj => .ok obj
  | bytes :: pieces, obj => do recvChunks fresh pieces (← obj.recvChunk fresh bytes)

variable {obj : MemoryBodyHandler} {content : Bytes} {fresh : Nat → UInt8}

/-- The handler holds the bytes, and has given some of them. -/
structure Holds (obj : MemoryBodyHandler) (content : Bytes) (given : Nat) : Prop where
  held : obj.buffer = content
  expected : obj.expectedSize = content.length
  transfered : obj.transferedSize = given
  inside : given ≤ content.length

/-- The chunk of the given size at most that begins behind the bytes that have been given. -/
def nextChunk (content : Bytes) (given size : Nat) : Chunk where
  size := min size (content.length - given)
  bytes := (content.drop given).take size
  code := if content.length ≤ given + size then .belleSipStop else .belleSipContinue

theorem Holds.unique {other : MemoryBodyHandler} {given : Nat} (holds : obj.Holds content given)
    (others : other.Holds content given) : obj = other := by
  cases obj
  cases other
  rw [MemoryBodyHandler.mk.injEq]
  exact ⟨holds.expected.trans others.expected.symm, holds.transfered.trans others.transfered.symm,
    holds.held.trans others.held.symm⟩

/-- A call gives the next bytes as far as there are any, and it stops if there are no more. -/
theorem sendChunk_holds {given : Nat} (holds : obj.Holds content given) (size : Nat) :
    ∃ after, after.Holds content (min (given + size) content.length) ∧
      obj.sendChunk size = .ok (after, nextChunk content given size) := by
  obtain ⟨rfl, expected, rfl, inside⟩ := holds
  have left : sizeSub obj.expectedSize obj.transferedSize = obj.buffer.length - obj.transferedSize := by
    rw [expected, Allocation.sizeSub_le inside]
  -- the base clips the size first, and the handler clips it once more
  have clipped : min (if obj.expectedSize ≠ 0 then min size (sizeSub obj.expectedSize obj.transferedSize) else size)
      (sizeSub obj.expectedSize obj.transferedSize) = min size (obj.buffer.length - obj.transferedSize) := by
    rw [left]
    split <;> omega
  have taken : (obj.buffer.drop obj.transferedSize).take (min size (obj.buffer.length - obj.transferedSize)) =
      (obj.buffer.drop obj.transferedSize).take size := by
    rw [← List.length_drop, ← List.take_take, List.take_length]
  have code : returnedCode obj.expectedSize
      (obj.transferedSize + min size (obj.buffer.length - obj.transferedSize))
      (if obj.buffer.length - obj.transferedSize = min size (obj.buffer.length - obj.transferedSize) then
        SendCode.belleSipStop else .belleSipContinue) =
      if obj.buffer.length ≤ obj.transferedSize + size then .belleSipStop else .belleSipContinue := by
    rw [returnedCode, expected]
    by_cases last : obj.buffer.length ≤ obj.transferedSize + size
    · rw [if_pos last, if_pos (show _ = min _ _ by omega)]
      exact ite_self _
    · rw [if_neg last, if_neg (by omega), if_neg (by omega)]
  refine ⟨{ obj with
    transferedSize := obj.transferedSize + min size (obj.buffer.length - obj.transferedSize) },
    ⟨rfl, expected, by dsimp only; omega, by omega⟩, ?_⟩
  rw [sendChunk, chunkSend, clipped, left, if_neg (by omega), Checked.ok_bind]
  dsimp only
  rw [taken, code]
  rfl

/-- The handler has received the bytes; before the first chunk there is no buffer. -/
structure Received (obj : MemoryBodyHandler) (content : Bytes) : Prop where
  transfered : obj.transferedSize = content.length
  buffer : obj.buffer = content ++ [0] ∨ obj.buffer = [] ∧ content = []

theorem recvChunk_received (received : obj.Received content) (bytes : Bytes) :
    ∃ after, obj.recvChunk fresh bytes = .ok after ∧ after.transferedSize = (content ++ bytes).length ∧
      after.buffer = content ++ bytes ++ [0] := by
  obtain ⟨transfered, buffer⟩ := received
  have kept : obj.buffer.take content.length = content ∧ content.length ≤ obj.buffer.length := by
    rcases buffer with held | ⟨none, empty⟩
    · rw [held, List.length_append]
      exact ⟨List.take_left, Nat.le_add_right _ _⟩
    · rw [empty]
      exact ⟨rfl, Nat.zero_le _⟩
  have grown := @Allocation.length_realloc _ fresh obj.buffer (content.length + bytes.length + 1)
  have old := @Allocation.take_realloc _ fresh obj.buffer content.length (content.length + bytes.length + 1) kept.2
    (by omega)
  rw [kept.1] at old
  obtain ⟨first, copied, firstLength, written⟩ := @Allocation.copyTo_inside _
    (realloc fresh obj.buffer (content.length + bytes.length + 1)) bytes content.length (by omega)
  obtain ⟨second, ended, secondLength, terminated⟩ := @Allocation.copyTo_inside _ first [0]
    (content.length + bytes.length) (by rw [firstLength, grown]; rfl)
  rw [old] at written
  rw [written] at terminated
  refine ⟨{ obj with buffer := second, transferedSize := content.length + bytes.length }, ?_, ?_, ?_⟩
  · rw [recvChunk, chunkRecv, transfered, copied, Checked.ok_bind, ended]
    rfl
  · rw [List.length_append]
  · rw [← terminated]
    exact (List.take_of_length_le (by rw [secondLength, firstLength, grown]; rfl)).symm

/-- All calls but the last one go on, and the last one delivers the last byte and stops. -/
def Completes (chunks : List Chunk) (content : Bytes) : Prop :=
  ∃ before last, chunks = before ++ [last] ∧ (∀ chunk ∈ before, chunk.code = .belleSipContinue) ∧
    last.code = .belleSipStop ∧ last.bytes ≠ [] ∧ chunks.flatMap Chunk.bytes = content

theorem Completes.cons {chunk : Chunk} {chunks : List Chunk} (completes : Completes chunks content)
    (goesOn : chunk.code = .belleSipContinue) : Completes (chunk :: chunks) (chunk.bytes ++ content) := by
  obtain ⟨before, last, rfl, continues, stops, delivers, whole⟩ := completes
  refine ⟨chunk :: before, last, rfl, ?_, stops, delivers, ?_⟩
  · intro other among
    rcases List.mem_cons.mp among with rfl | among
    · exact goesOn
    · exact continues other among
  · rw [List.flatMap_cons, whole]

/-- The rest of the content is sent by positive sizes. -/
theorem sendChunks_completes {given : Nat} (holds : obj.Holds content given) (left : given < content.length)
    (sizes : Nat → Nat) (positive : ∀ call, 0 < sizes call) :
    ∃ calls after chunks, sendChunks ((List.range calls).map sizes) obj = .ok (after, chunks) ∧
      after.Holds content content.length ∧ Completes chunks (content.drop given) := by
  generalize rest : content.length - given = bytes
  induction bytes using Nat.strong_induction_on generalizing obj given sizes with
  | _ bytes ih =>
      have asked := positive 0
      obtain ⟨next, holdsNext, called⟩ := sendChunk_holds holds (sizes 0)
      by_cases last : content.length ≤ given + sizes 0
      · rw [Nat.min_eq_right last] at holdsNext
        refine ⟨1, next, [nextChunk content given (sizes 0)], ?_, holdsNext,
          [], nextChunk content given (sizes 0), rfl, by simp, if_pos last, ?_, ?_⟩
        · rw [List.range_one, List.map_singleton, sendChunks, called]
          rfl
        · apply List.ne_nil_of_length_pos
          rw [nextChunk, List.length_take, List.length_drop]
          omega
        · rw [List.flatMap_singleton]
          exact List.take_of_length_le (by rw [List.length_drop]; omega)
      · rw [Nat.min_eq_left (by omega)] at holdsNext
        obtain ⟨calls, after, chunks, sent, holdsAfter, completes⟩ :=
          ih (content.length - (given + sizes 0)) (by omega) holdsNext (by omega) (fun call => sizes (call + 1))
            (fun call => positive (call + 1)) rfl
        refine ⟨calls + 1, after, nextChunk content given (sizes 0) :: chunks, ?_, holdsAfter, ?_⟩
        · have shifted : (List.range (calls + 1)).map sizes =
              sizes 0 :: (List.range calls).map fun call => sizes (call + 1) := by
            rw [List.range_succ_eq_map, List.map_cons, List.map_map]
            rfl
          rw [shifted, sendChunks, called, Checked.ok_bind]
          dsimp only
          rw [sent]
          rfl
        · have goesOn : (nextChunk content given (sizes 0)).code = .belleSipContinue := if_neg last
          have whole := completes.cons goesOn
          rw [nextChunk, ← List.drop_drop, List.take_append_drop] at whole
          exact whole

/-- A call after the last byte gives nothing and stops. -/
theorem sendChunks_ended (ended : obj.Holds content content.length) (sizes : List Nat) :
    sendChunks sizes obj = .ok (obj, sizes.map fun _ => { size := 0, bytes := [], code := .belleSipStop }) := by
  induction sizes with
  | nil => rfl
  | cons size sizes ih =>
      obtain ⟨after, holds, called⟩ := sendChunk_holds ended size
      rw [Nat.min_eq_right (Nat.le_add_right _ _)] at holds
      rw [holds.unique ended, nextChunk, Nat.sub_self, Nat.min_zero, List.drop_length, List.take_nil,
        if_pos (Nat.le_add_right _ _)] at called
      rw [sendChunks, called, Checked.ok_bind]
      dsimp only
      rw [ih]
      rfl

theorem recvChunks_received (received : obj.Received content) (pieces : List Bytes) :
    ∃ after, recvChunks fresh pieces obj = .ok after ∧ after.Received (content ++ pieces.flatten) := by
  induction pieces generalizing obj content with
  | nil => exact ⟨obj, rfl, by rw [List.flatten_nil, List.append_nil]; exact received⟩
  | cons bytes pieces ih =>
      obtain ⟨next, called, transfered, buffer⟩ := @recvChunk_received _ _ fresh received bytes
      obtain ⟨after, all, receivedAll⟩ := ih ⟨transfered, .inl buffer⟩
      refine ⟨after, ?_, ?_⟩
      · rw [recvChunks, called, Checked.ok_bind, all]
      · rw [List.flatten_cons, ← List.append_assoc]
        exact receivedAll

/-- Whatever the sizes of the chunks are and wherever their bytes are cut again, the content arrives. -/
theorem memory_received (filled : content ≠ []) (sizes : Nat → Nat) (positive : ∀ call, 0 < sizes call) :
    ∃ calls sender chunks, sendChunks ((List.range calls).map sizes) (newFromBuffer content) = .ok (sender, chunks) ∧
      Completes chunks content ∧ sender.transferedSize = content.length ∧
      (∀ more, sendChunks more sender =
        .ok (sender, more.map fun _ => { size := 0, bytes := [], code := .belleSipStop })) ∧
      ∀ (fresh : Nat → UInt8) (pieces : List Bytes), pieces.flatten = chunks.flatMap Chunk.bytes →
        ∃ receiver, recvChunks fresh pieces {} = .ok receiver ∧ receiver.buffer = content ++ [0] ∧
          receiver.transferedSize = content.length := by
  obtain ⟨calls, sender, chunks, sent, holds, completes⟩ := @sendChunks_completes (newFromBuffer content) content 0
    ⟨rfl, rfl, rfl, Nat.zero_le _⟩ (List.length_pos_iff.mpr filled) sizes positive
  refine ⟨calls, sender, chunks, sent, completes, holds.transfered, sendChunks_ended holds, ?_⟩
  intro fresh pieces cut
  obtain ⟨receiver, received, transfered, buffer⟩ := @recvChunks_received {} [] fresh ⟨rfl, .inr ⟨rfl, rfl⟩⟩ pieces
  obtain ⟨before, last, shape, -, -, -, whole⟩ := completes
  rw [List.nil_append, cut, whole] at transfered buffer
  refine ⟨receiver, received, ?_, transfered⟩
  rcases buffer with written | ⟨none, empty⟩
  · exact written
  · exact absurd empty filled

theorem memory_received_bytewise :
    ∃ calls sender chunks, sendChunks ((List.range calls).map fun _ => 1) (newFromBuffer [97, 98]) =
        .ok (sender, chunks) ∧
      Completes chunks [97, 98] ∧ sender.transferedSize = [97, 98].length ∧
      (∀ more, sendChunks more sender =
        .ok (sender, more.map fun _ => { size := 0, bytes := [], code := .belleSipStop })) ∧
      ∀ (fresh : Nat → UInt8) (pieces : List Bytes), pieces.flatten = chunks.flatMap Chunk.bytes →
        ∃ receiver, recvChunks fresh pieces {} = .ok receiver ∧ receiver.buffer = [97, 98] ++ [0] ∧
          receiver.transferedSize = [97, 98].length :=
  memory_received (by decide) (fun _ => 1) (fun _ => by decide)

end MemoryBodyHandler

end BelleSip
