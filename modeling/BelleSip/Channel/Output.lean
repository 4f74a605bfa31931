import BelleSip.Channel.State

/-
This file defines the output side of a channel: sending one message and draining the queue.
-/

namespace BelleSip

/-- The result of one call of the transport.

An accepted call takes `count + 1` bytes, or all bytes when there are fewer. -/
inductive SendResult where
  | accepted (count : Nat)
  | wouldBlock
  | closed
  | error
deriving DecidableEq, Repr

/-- The return value of `send_buffer`: a byte count, a would-block code, or another error. -/
inductive SendReturn where
  | bytes (count : Nat)
  | wouldBlock
  | failed
deriving DecidableEq, Repr

/-- The way a send loop ends. -/
inductive SendOutcome where
  | sent
  | wouldBlock (offset : Nat)
  | failed
  | fatal
deriving DecidableEq, Repr

namespace Channel

variable (transport : Nat → SendResult)

/-- This is `send_buffer`; the transport answers its calls in order. -/
def sendBuffer (channel : Channel) (buffer : List Byte) : Channel × SendReturn :=
  let called := { channel with sends := channel.sends + 1 }
  match transport channel.sends with
  | .accepted count =>
      (called.emit (.accepted (buffer.take (count + 1))), .bytes (min (count + 1) buffer.length))
  | .wouldBlock => (called, .wouldBlock)
  | .closed => (called, .bytes 0)
  | .error => (called.setState .error, .failed)

/-- The loop that sends a buffer from an offset until it ends, blocks, or fails. -/
def sendFrom : Nat → Channel → List Byte → Nat → Channel × SendOutcome
  | 0, channel, _, _ => (channel, .failed)
  | fuel + 1, channel, buffer, offset =>
      match channel.sendBuffer transport (buffer.drop offset) with
      | (channel, .bytes 0) => (channel, .failed)
      | (channel, .bytes (count + 1)) =>
          let offset := offset + (count + 1)
          if offset = buffer.length then (channel, .sent) else sendFrom fuel channel buffer offset
      | (channel, .wouldBlock) => (channel, .wouldBlock offset)
      | (channel, .failed) => (channel, .failed)

/-- This is `free_ewouldblock_buffer`. -/
def freeEwouldblockBuffer (channel : Channel) : Channel :=
  if channel.ewouldblockBuffer.isSome then
    { channel with ewouldblockBuffer := none, ewouldblockOffset := 0 }
  else channel

/-- This is `handle_ewouldblock`. -/
def handleEwouldblock (channel : Channel) (buffer : List Byte) : Channel :=
  { channel.freeEwouldblockBuffer with ewouldblockBuffer := some buffer }

/-- The first loop of `_send_message` sends what the last would-block left. -/
def flush (channel : Channel) : Channel × SendOutcome :=
  match channel.ewouldblockBuffer with
  | none => (channel, .sent)
  | some buffer =>
      match sendFrom transport (buffer.length + 1) channel buffer channel.ewouldblockOffset with
      | (channel, .sent) => (channel.freeEwouldblockBuffer, .sent)
      | (channel, .wouldBlock offset) =>
          ({ channel with ewouldblockOffset := offset }, .wouldBlock offset)
      | ended => ended

/-- A buffer is sent, and what a would-block leaves is kept. -/
def transmit (channel : Channel) (buffer : List Byte) : Channel × SendOutcome :=
  match sendFrom transport (buffer.length + 1) channel buffer 0 with
  | (channel, .wouldBlock offset) =>
      (channel.handleEwouldblock (buffer.drop offset), .wouldBlock offset)
  | ended => ended

/-- The body is appended to the header section while the handler continues. -/
def appendBody (handler : BodyHandler) : Nat → Channel → List Byte → Channel × List Byte
  | 0, channel, buffer => (channel, buffer)
  | fuel + 1, channel, buffer =>
      let (chunk, transfered, progress) :=
        handler.sendChunk channel.transferedSize (maxChunk - buffer.length)
      let channel := { channel with transferedSize := transfered }.emit (.sentChunk progress)
      match progress with
      | .continues => appendBody handler fuel channel (buffer ++ chunk)
      | .stop => (channel, buffer ++ chunk)

/-- The branch of `_send_message` for `OUTPUT_STREAM_SENDING_HEADERS`. -/
def sendHeaders (channel : Channel) (message : Message) : Channel × SendOutcome :=
  let channel := channel.emit (.onSending message)
  if maxChunk ≤ message.headers.length then (channel, .failed)
  else
    match message.body with
    | none => channel.transmit transport message.headers
    | some handler =>
        let begun := { channel with transferedSize := 0 }
        if handler.getSize = 0 then (channel.emit .fatal, .fatal)
        else if handler.getSize ≤ maxChunk - message.headers.length then
          let (channel, buffer) := appendBody handler handler.getSize begun message.headers
          channel.transmit transport buffer
        else { begun with outState := .sendingBody }.transmit transport message.headers

/-- The branch of `_send_message` for `OUTPUT_STREAM_SENDING_BODY`. -/
def sendBody (handler : BodyHandler) : Nat → Channel → Channel × SendOutcome
  | 0, channel => (channel, .failed)
  | fuel + 1, channel =>
      let (chunk, transfered, progress) := handler.sendChunk channel.transferedSize maxChunk
      let channel := { channel with transferedSize := transfered }.emit (.sentChunk progress)
      let (channel, outcome) :=
        if chunk = [] then (channel, .sent) else channel.transmit transport chunk
      match outcome, progress with
      | .sent, .continues => sendBody handler fuel channel
      | outcome, _ => (channel, outcome)

/-- The statements after the label `done` of `_send_message`. -/
def done (channel : Channel) (message : Message) : Channel :=
  { channel.freeEwouldblockBuffer with outState := .idle, curOutMessage := none }.emit
    (.released message)

/-- The two branches of `_send_message` after the pending bytes are sent. -/
def sendRest (channel : Channel) (message : Message) : Channel × SendOutcome :=
  let (channel, outcome) :=
    if channel.outState = .sendingHeaders then channel.sendHeaders transport message
    else (channel, .sent)
  match outcome, message.body with
  | .sent, some handler =>
      if channel.outState = .sendingBody then channel.sendBody transport handler (handler.getSize + 1)
      else (channel, .sent)
  | outcome, _ => (channel, outcome)

/-- A message is released unless it has to be resumed or the process has aborted. -/
def conclude (message : Message) : Channel × SendOutcome → Channel
  | (channel, .sent) | (channel, .failed) => channel.done message
  | (channel, .wouldBlock _) | (channel, .fatal) => channel

/-- This is `_send_message`. -/
def _sendMessage (channel : Channel) : Channel :=
  match channel.curOutMessage with
  | none => channel
  | some message =>
      match channel.flush transport with
      | (channel, .sent) => conclude message (channel.sendRest transport message)
      | ended => conclude message ended

/-- This is `send_message`. -/
def sendMessage (channel : Channel) (message : Message) : Channel :=
  _sendMessage transport
    { channel with curOutMessage := some message, outState := .sendingHeaders }

/-- The loop of `channel_process_queue`; a message is popped before the guard is tested. -/
def popOutgoing : Nat → Channel → Channel
  | 0, channel => channel
  | fuel + 1, channel =>
      match channel.outgoingMessages with
      | [] => channel
      | message :: rest =>
          let popped := { channel with outgoingMessages := rest }
          if popped.state = .ready ∧ popped.outState = .idle then
            popOutgoing fuel (popped.sendMessage transport message)
          else popped

/-- This is `channel_process_queue`. -/
def processQueue (channel : Channel) : Channel :=
  let channel := if channel.outState ≠ .idle then channel._sendMessage transport else channel
  popOutgoing transport channel.outgoingMessages.length channel

end Channel

end BelleSip
