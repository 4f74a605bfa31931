import Mathlib.Data.List.Basic
import Mathlib.Tactic.Common

/-
This file defines the messages that a channel sends and the body handlers that supply their bodies.
-/

namespace BelleSip

abbrev Byte := UInt8

/-- The size of the buffer on the stack of `_send_message`. -/
def sendNetworkBufferSize : Nat := 16384

/-- One byte of the buffer is kept for a terminating null. -/
def maxChunk : Nat := sendNetworkBufferSize - 1

/-- The values `BELLE_SIP_CONTINUE` and `BELLE_SIP_STOP` of a body handler. -/
inductive Progress where
  | continues
  | stop
deriving DecidableEq, Repr

/-- The body handler of an outgoing message supplies `content` in pieces.

The method `chunk_send` at an offset with some room yields `piece offset room` bytes. -/
structure BodyHandler where
  content : List Byte
  piece : Nat → Nat → Nat
  piece_le : ∀ offset room, piece offset room ≤ min room (content.length - offset)
  piece_pos : ∀ offset room, offset < content.length → 0 < room → 0 < piece offset room

namespace BodyHandler

/-- The memory body handler yields all that fits. -/
def memory (content : List Byte) : BodyHandler where
  content := content
  piece offset room := min room (content.length - offset)
  piece_le _ _ := Nat.le_refl _
  piece_pos offset room inside roomy := by omega

def getSize (handler : BodyHandler) : Nat := handler.content.length

/-- The bytes that `belle_sip_body_handler_send_chunk` writes. -/
def chunkAt (handler : BodyHandler) (transfered room : Nat) : List Byte :=
  (handler.content.drop transfered).take (handler.piece transfered room)

/-- The chunk, the new transfered size, and the return value. -/
def sendChunk (handler : BodyHandler) (transfered room : Nat) : List Byte × Nat × Progress :=
  let chunk := handler.chunkAt transfered room
  let transfered := transfered + chunk.length
  (chunk, transfered, if transfered = handler.getSize then .stop else .continues)

theorem chunkAt_length (handler : BodyHandler) (transfered room : Nat) :
    (handler.chunkAt transfered room).length = handler.piece transfered room := by
  have bounded := handler.piece_le transfered room
  simp only [chunkAt, List.length_take, List.length_drop]
  omega

theorem chunkAt_append (handler : BodyHandler) (transfered room : Nat) :
    handler.chunkAt transfered room ++
        handler.content.drop (transfered + (handler.chunkAt transfered room).length) =
      handler.content.drop transfered := by
  rw [chunkAt_length, chunkAt, ← List.drop_drop, List.take_append_drop]

theorem chunkAt_end (handler : BodyHandler) (room : Nat) :
    handler.chunkAt handler.getSize room = [] := by
  simp [chunkAt, getSize]

end BodyHandler

/-- An outgoing message is its marshalled header section with its body handler.

The header section is the text that `belle_sip_object_marshal` writes after `on_sending` and
`check_content_length` have completed the headers. -/
structure Message where
  headers : List Byte
  headers_ne : headers ≠ []
  body : Option BodyHandler

namespace Message

def bodyBytes (message : Message) : List Byte :=
  match message.body with
  | none => []
  | some handler => handler.content

/-- The bytes that the peer has to receive. -/
def wire (message : Message) : List Byte := message.headers ++ message.bodyBytes

/-- The header section is marshalled into the buffer, and the size of the body is known. -/
def sendable (message : Message) : Prop :=
  message.headers.length < maxChunk ∧
    ∀ handler, message.body = some handler → handler.content ≠ []

/-- The body is sent after the header section, chunk by chunk. -/
def chunked (message : Message) : Bool :=
  match message.body with
  | none => false
  | some handler => decide (maxChunk - message.headers.length < handler.getSize)

end Message

end BelleSip
