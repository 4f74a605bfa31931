import BelleSip.Body.HeaderBuffer

/-
This file defines the body handlers that give away a body in chunks.
-/

namespace BelleSip

open Foundation Foundation.Mime

/-- The codes that `belle_sip_body_handler_send_chunk` returns. -/
inductive SendCode where
  | belleSipContinue
  | belleSipStop
  | belleSipBufferOverflow
deriving DecidableEq, Repr

/-- What a call leaves behind: the value of `*size`, the bytes in the buffer and the code. -/
structure Chunk where
  size : Nat
  bytes : Bytes
  code : SendCode
deriving DecidableEq, Repr

/-- The entry `chunk_send` of a handler whose whole content is given, with what each handler keeps to: it gives
bytes while some are left, and it stops when none are left. A handler of unknown size has the expected size 0. -/
structure ChunkSend (content : Bytes) (expectedSize : Nat) where
  given : (offset size : Nat) → Nat
  code : (offset size : Nat) → SendCode
  given_le : ∀ offset size, given offset size ≤ min size (content.length - offset)
  progress : ∀ offset size, offset < content.length → 0 < size → 0 < given offset size
  ended : ∀ offset size, offset ≤ content.length → (0 < size ∨ expectedSize = 0) →
    code offset size ≠ .belleSipContinue → offset + given offset size = content.length
  ends : expectedSize = 0 → ∀ offset size, offset + given offset size = content.length →
    code offset size ≠ .belleSipContinue

/-- This is `belle_sip_memory_body_handler_send_chunk`. -/
def memorySendChunk (buffer : Bytes) : ChunkSend buffer buffer.length where
  given offset size := min size (buffer.length - offset)
  code offset size :=
    if buffer.length - offset = min size (buffer.length - offset) then .belleSipStop else .belleSipContinue
  given_le offset size := Nat.le_refl _
  progress offset size inside asked := by omega
  ended offset size inside asked stopped := by
    split at stopped
    · omega
    · exact absurd rfl stopped
  ends unknown offset size all := by
    rw [if_pos (by omega)]
    nofun

/-- This is `belle_sip_file_body_handler_send_chunk` on a file that can be read. -/
def fileSendChunk (file : Bytes) : ChunkSend file file.length where
  given offset size := min size (file.length - offset)
  code offset size :=
    if file.length - offset = min size (file.length - offset) ∨ min size (file.length - offset) = 0 then .belleSipStop
    else .belleSipContinue
  given_le offset size := Nat.le_refl _
  progress offset size inside asked := by omega
  ended offset size inside asked stopped := by
    split at stopped
    · omega
    · exact absurd rfl stopped
  ends unknown offset size all := by
    rw [if_pos (by omega)]
    nofun

/-- A header whose marshal function prints a string, which holds no terminator. -/
abbrev StringHeader := { header : PartHeader // (0 : UInt8) ∉ header.text }

/-- The parts of `belle_sip_body_handler_t` that stay while it gives its bytes. Only headers are printed into its
buffer. -/
structure PartBodyHandler where
  headers : List StringHeader := []
  headerStringBuffer : Option Bytes := none
  bare : headers = [] → headerStringBuffer = none
  content : Bytes
  expectedSize : Nat
  chunkSend : ChunkSend content expectedSize
  declared : expectedSize = content.length ∨ expectedSize = 0

/-- This is `belle_sip_memory_body_handler_new_copy_from_buffer`, with the headers that are added to the handler. -/
def memoryBodyHandlerNew (headers : List StringHeader) (buffer : Bytes) : PartBodyHandler where
  headers := headers
  bare _ := rfl
  content := buffer
  expectedSize := buffer.length
  chunkSend := memorySendChunk buffer
  declared := .inl rfl

/-- This is `belle_sip_file_body_handler_new`. -/
def fileBodyHandlerNew (headers : List StringHeader) (file : Bytes) : PartBodyHandler where
  headers := headers
  bare _ := rfl
  content := file
  expectedSize := file.length
  chunkSend := fileSendChunk file
  declared := .inl rfl

/-- This is `belle_sip_user_body_handler_new`; the application writes the callback. -/
def userBodyHandlerNew (headers : List StringHeader) (content : Bytes) (totalSize : Nat)
    (sendCb : ChunkSend content totalSize) (declared : totalSize = content.length ∨ totalSize = 0) :
    PartBodyHandler where
  headers := headers
  bare _ := rfl
  content := content
  expectedSize := totalSize
  chunkSend := sendCb
  declared := declared

/-- The size that `belle_sip_body_handler_send_chunk` asks its handler for. -/
def askedSize (expectedSize transferedSize size : Nat) : Nat :=
  if expectedSize ≠ 0 then min size (expectedSize - transferedSize) else size

/-- The code that `belle_sip_body_handler_send_chunk` returns after its handler has returned one. -/
def returnedCode (expectedSize transferedSize : Nat) (code : SendCode) : SendCode :=
  if expectedSize ≠ 0 ∧ transferedSize = expectedSize then .belleSipStop else code

/-- This is `belle_sip_body_handler_send_chunk` on a handler that has given some of its bytes. -/
def PartBodyHandler.sendChunk (part : PartBodyHandler) (transferedSize size : Nat) : Chunk :=
  let size := askedSize part.expectedSize transferedSize size
  let given := part.chunkSend.given transferedSize size
  { size := given
    bytes := (part.content.drop transferedSize).take given
    code := returnedCode part.expectedSize (transferedSize + given) (part.chunkSend.code transferedSize size) }

namespace PartBodyHandler

variable (part : PartBodyHandler)

theorem expectedSize_eq (known : part.expectedSize ≠ 0) : part.expectedSize = part.content.length := by
  rcases part.declared with declared | unknown
  · exact declared
  · exact absurd unknown known

theorem expectedSize_of_empty (empty : part.content = []) : part.expectedSize = 0 := by
  have declared := part.declared
  rw [empty, List.length_nil, or_self] at declared
  exact declared

/-- A call gives the next bytes of the content, at least one when it is asked for one and there is one left, and at
most those that it is asked for. It goes on as long as there is one left. -/
theorem sendChunk_spec {offset : Nat} (size : Nat) (inside : offset ≤ part.content.length)
    (asked : offset < part.content.length → part.expectedSize ≠ 0 → 0 < size) :
    ∃ given, (part.sendChunk offset size).size = given ∧ given ≤ size ∧ offset + given ≤ part.content.length ∧
      (part.sendChunk offset size).bytes = (part.content.drop offset).take given ∧
      (offset < part.content.length → 0 < size → 0 < given) ∧
      ((part.sendChunk offset size).code = .belleSipContinue ↔ offset + given < part.content.length) := by
  have bound := part.chunkSend.given_le offset (askedSize part.expectedSize offset size)
  have less : askedSize part.expectedSize offset size ≤ size := by
    rw [askedSize]
    split
    · exact Nat.min_le_left _ _
    · exact Nat.le_refl size
  have positive : offset < part.content.length → 0 < size → 0 < askedSize part.expectedSize offset size := by
    intro left asked
    rw [askedSize]
    split
    · next known =>
        rw [part.expectedSize_eq known]
        omega
    · exact asked
  refine ⟨part.chunkSend.given offset (askedSize part.expectedSize offset size), rfl, by omega, by omega, rfl, ?_, ?_⟩
  · intro left asked
    exact part.chunkSend.progress _ _ left (positive left asked)
  · have ended := part.chunkSend.ended offset (askedSize part.expectedSize offset size) inside
    have ends := part.chunkSend.ends
    simp only [sendChunk, returnedCode]
    split
    · next finished =>
        have known := part.expectedSize_eq finished.1
        simp only [reduceCtorEq, false_iff]
        omega
    · next unfinished =>
        constructor
        · intro goesOn
          by_cases known : part.expectedSize = 0
          · apply Nat.lt_of_le_of_ne (by omega)
            intro all
            exact ends known offset _ all goesOn
          · have same := part.expectedSize_eq known
            omega
        · intro left
          by_contra stopped
          have all := ended (by
            by_cases known : part.expectedSize = 0
            · exact .inr known
            · exact .inl (positive (by omega) (asked (by omega) known))) stopped
          omega

end PartBodyHandler

end BelleSip
