import BelleSip.Foundation.Checked
import BelleSip.Foundation.Machine
import BelleSip.Sip.Uri
import Mathlib.Logic.Function.Basic

/-
This file defines the input stream of a channel: a buffer with two pointers, and the parser that works in it.
-/

namespace BelleSip

open Foundation

/-- This is `belle_sip_network_buffer_size`, the size of the buffer. -/
def networkBufferSize : Nat := 65535

/-- This is `input_stream_state_t`. -/
inductive InputStreamState where
  | waitingMessageStart
  | messageAquisition
  | bodyAquisition
deriving DecidableEq, Repr

/-- What the parser of the input stream calls: the three calls of `sscanf` that look for a start line,
`belle_sip_message_parse_raw` with the length that it stores, if it stores one, and what `check_body` asks about a
message. The grammar stores no length for a response that ends after its status line. -/
structure MessageParser (Message : Type) where
  startsMessage : CString → Bool
  parseRaw : CString → Option Message × Option Nat
  isSip : Message → Bool
  contentLength : Message → Option Int
  hasContentType : Message → Bool
  isChunked : Message → Bool
  empty : startsMessage [] = false
  parsed_le : ∀ text size, (parseRaw text).2 = some size → size ≤ text.length
  bare : ∀ text message, parseRaw text = (some message, none) →
    contentLength message = none ∧ hasContentType message = false

/-- This is `belle_sip_channel_input_stream_t`, whose pointers are positions in the buffer, with the bytes that the
body handler of the current message has received, the local variable `read_size` of `belle_sip_channel_parse_stream`
and the list `incoming_messages` of the channel. -/
structure InputStream (Message : Type) where
  state : InputStreamState := .waitingMessageStart
  buff : Nat → UInt8 := fun _ => 0
  readPtr : Nat := 0
  writePtr : Nat := 0
  msg : Option Message := none
  contentLength : Int := -1
  chunckedMode : Bool := false
  chunkSize : Int := 0
  chunkReadSize : Int := 0
  body : List UInt8 := []
  readSize : Nat := 0
  incomingMessages : List (Message × List UInt8) := []

/-- This is `strstr`: the position of the first mark in the text. -/
def strstr (mark : CString) : CString → Option Nat
  | [] => if mark = [] then some 0 else none
  | byte :: rest => if mark <+: byte :: rest then some 0 else (strstr mark rest).map (· + 1)

def lineEnd : CString := [13, 10]

def headerEnd : CString := [13, 10, 13, 10]

/-- The value of the leading hexadecimal digits. -/
def hexMagnitude (text : CString) : Nat :=
  (text.takeWhile fun byte => (hexDigit byte).isSome).foldl
    (fun value byte => 16 * value + ((hexDigit byte).getD 0).toNat) 0

/-- The text behind the optional prefix `0x` of a hexadecimal number. -/
def skipHexPrefix : CString → CString
  | zero :: letter :: digit :: rest =>
      if zero = 48 ∧ upperChar letter = 88 ∧ (hexDigit digit).isSome then digit :: rest
      else zero :: letter :: digit :: rest
  | text => text

/-- This is `strtol` in base 16, which saturates. -/
def strtol16 (text : CString) : Int :=
  match text.dropWhile isSpaceByte with
  | [] => 0
  | sign :: rest =>
      if sign = 45 then max (-(hexMagnitude (skipHexPrefix rest) : Int)) (-9223372036854775808)
      else if sign = 43 then min (hexMagnitude (skipHexPrefix rest) : Int) 9223372036854775807
      else min (hexMagnitude (skipHexPrefix (sign :: rest)) : Int) 9223372036854775807

/-- The value of an integer as a `size_t`. -/
def sizeT (value : Int) : Nat := (value % 18446744073709551616).toNat

namespace InputStream

variable {Message : Type}

def store (stream : InputStream Message) (position : Nat) (byte : UInt8) : InputStream Message :=
  { stream with buff := Function.update stream.buff position byte }

/-- The bytes at some positions. -/
def slice (stream : InputStream Message) (position size : Nat) : List UInt8 :=
  (List.range' position size).map stream.buff

/-- A scan of the buffer as a C string. It is a fault unless a terminator stands at the write pointer, in the buffer
and not before the scan begins. -/
def scan (stream : InputStream Message) (position : Nat) : Checked CString :=
  if position ≤ stream.writePtr ∧ stream.writePtr < networkBufferSize ∧ stream.buff stream.writePtr = 0 then
    .ok ((stream.slice position (stream.writePtr - position)).takeWhile (· ≠ 0))
  else .error .fatal

/-- This is `belle_sip_channel_input_stream_rewind`. -/
def rewind (stream : InputStream Message) : InputStream Message :=
  if stream.readPtr < stream.writePtr then
    let remaining := stream.writePtr - stream.readPtr
    { stream with
      buff := Function.update
        (fun position => if position < remaining then stream.buff (stream.readPtr + position) else stream.buff position)
        remaining 0
      readPtr := 0
      writePtr := remaining }
  else { stream with readPtr := 0, writePtr := 0 }

/-- This is `belle_sip_channel_input_stream_reset`. -/
def reset (stream : InputStream Message) : InputStream Message :=
  { stream.rewind with state := .waitingMessageStart, msg := none, chunckedMode := false, contentLength := -1 }

/-- This is `belle_sip_channel_input_stream_get_buff_length`. -/
def buffLength (stream : InputStream Message) : Int := networkBufferSize - stream.writePtr

/-- This is `belle_sip_channel_message_ready`. -/
def messageReady (stream : InputStream Message) : Checked (InputStream Message) := do
  let msg ← Checked.deref stream.msg
  return { stream with incomingMessages := stream.incomingMessages ++ [(msg, stream.body)] }.reset

/-- This is `feed_body`. It is a fault to feed bytes that have not been received. -/
def feedBody (stream : InputStream Message) (len : Nat) : Checked (InputStream Message) :=
  if stream.readPtr + len ≤ stream.writePtr then
    .ok { stream with
      body := stream.body ++ stream.slice stream.readPtr len
      readPtr := stream.readPtr + len }.rewind
  else .error .fatal

/-- This is `acquire_body_simple`, which returns whether to continue. -/
def acquireBodySimple (stream : InputStream Message) (endOfStream : Bool) : Checked (InputStream Message × Bool) := do
  let toRead := sizeT ((stream.writePtr : Int) - stream.readPtr)
  let cursize := stream.body.length
  let fed ←
    if cursize = 0 ∧ toRead = 0 then pure stream
    else stream.feedBody (min (sizeT (stream.contentLength - cursize)) toRead)
  if endOfStream ∨ sizeT stream.contentLength ≤ fed.body.length then return (← fed.messageReady, true)
  else return (fed, false)

/-- The loop that skips line ends before the size of a chunk; it returns where the line with the size ends. -/
def skipLineEnds : Nat → InputStream Message → Checked (InputStream Message × Option Nat)
  | 0, _ => .error .fatal
  | rounds + 1, stream => do
      let text ← stream.scan stream.readPtr
      if strstr lineEnd text = some 0 then skipLineEnds rounds { stream with readPtr := stream.readPtr + 2 }
      else return (stream, (strstr lineEnd text).map (stream.readPtr + ·))

/-- How the line with the size of a chunk is taken: the call returns, or the chunk is read. -/
inductive ChunkLine (Message : Type) where
  | returns (stream : InputStream Message) (goOn : Bool)
  | chunk (stream : InputStream Message)

/-- The part of `acquire_chuncked_body` that reads the size of the next chunk. -/
def acquireChunkLine (stream : InputStream Message) : Checked (ChunkLine Message) := do
  let skipped ← skipLineEnds (stream.writePtr - stream.readPtr + 1) stream
  let stream := skipped.1
  match skipped.2 with
  | none => return .returns stream false
  | some tmp =>
      let text ← stream.scan stream.readPtr
      let size := strtol16 text
      if 0 ≤ size ∧ size ≠ 9223372036854775807 then
        if size = 0 then
          let ended ← { stream with readPtr := min (tmp + 4) stream.writePtr }.messageReady
          return .returns ended true
        else
          return .chunk { stream with chunkSize := size.bmod UInt32.size, chunkReadSize := 0, readPtr := tmp + 2 }
      else return .returns stream.reset true

/-- The part of `acquire_chuncked_body` that reads bytes of a chunk. It returns whether the loop goes on: the chunk is
completed and more bytes have been received. -/
def acquireChunk (stream : InputStream Message) : Checked (InputStream Message × Bool) := do
  let readsize := min ((stream.writePtr : Int) - stream.readPtr) (stream.chunkSize - stream.chunkReadSize)
  let fed ← if 0 < readsize then stream.feedBody readsize.toNat else pure stream
  let chunkReadSize := if 0 < readsize then stream.chunkReadSize + readsize else stream.chunkReadSize
  if fed.chunkSize = chunkReadSize then
    return ({ fed with
      chunkReadSize := chunkReadSize
      contentLength := fed.contentLength + fed.chunkSize
      chunkSize := -1 }, fed.readPtr < fed.writePtr)
  else return ({ fed with chunkReadSize := chunkReadSize }, false)

/-- The loop of `acquire_chuncked_body`, which returns whether to continue. -/
def acquireChunckedBody : Nat → InputStream Message → Checked (InputStream Message × Bool)
  | 0, _ => .error .fatal
  | rounds + 1, stream => do
      let line ← if stream.chunkSize = -1 then stream.acquireChunkLine else pure (.chunk stream)
      match line with
      | .returns stream goOn => return (stream, goOn)
      | .chunk stream => do
          let acquired ← stream.acquireChunk
          if acquired.2 then acquireChunckedBody rounds acquired.1 else return acquired

/-- This is `acquire_body`. -/
def acquireBody (stream : InputStream Message) (endOfStream : Bool) : Checked (InputStream Message × Bool) :=
  if stream.chunckedMode then acquireChunckedBody (stream.writePtr - stream.readPtr + 2) stream
  else stream.acquireBodySimple endOfStream

variable (parser : MessageParser Message)

/-- The loop of `get_message_start_pos`. A terminator stands at the last position while a text is scanned. -/
def searchStart (stream : InputStream Message) (num : Nat) : List Nat → Checked (Option Nat)
  | [] => return none
  | position :: rest =>
      if stream.buff (stream.readPtr + position) ∈ [13, 10, 32, 9] then searchStart stream num rest
      else do
        let text ← (stream.store (stream.readPtr + num - 1) 0).scan (stream.readPtr + position)
        if parser.startsMessage text then return some position else searchStart stream num rest

/-- This is `get_message_start_pos` on the given number of bytes. -/
def getMessageStartPos (stream : InputStream Message) (num : Nat) : Checked (Option Nat) :=
  searchStart parser stream num (List.range (num - 12))

/-- At this position a start is searched: a line ends there, or the buffer is full. -/
def endsLine (stream : InputStream Message) (position : Nat) : Bool :=
  (stream.buff (stream.readPtr + position) = 13 && stream.buff (stream.readPtr + position + 1) = 10) ||
    stream.buffLength ≤ 1

/-- The loop that waits for a message start, which returns whether it has found one. After it has trashed the buffer
it goes on at the next position, since its `continue` is that of the inner loop. -/
def awaitStart (num : Nat) : List Nat → InputStream Message → Checked (InputStream Message × Bool)
  | [], stream => return (stream, false)
  | position :: rest, stream =>
      if stream.endsLine position then do
        match ← stream.getMessageStartPos parser num with
        | some offset =>
            return ({ stream with readPtr := stream.readPtr + offset, state := .messageAquisition }, true)
        | none => awaitStart num rest { stream with readPtr := stream.writePtr }.reset
      else awaitStart num rest stream

/-- This is `check_body`, which returns whether a body is expected. -/
def checkBody (stream : InputStream Message) (msg : Message) : InputStream Message × Bool :=
  let contentLength := (parser.contentLength msg).getD 0
  if parser.isSip msg then
    ({ stream with contentLength := contentLength, body := [] }, 0 < contentLength)
  else if parser.hasContentType msg then
    if parser.isChunked msg then
      ({ stream with chunckedMode := true, contentLength := 0, chunkSize := -1, chunkReadSize := 0, body := [] }, true)
    else ({ stream with contentLength := contentLength, body := [] }, true)
  else ({ stream with contentLength := contentLength, body := [] }, false)

/-- How the loop of the parser goes on: with its next round, with the body of the message, or not at all. -/
inductive Flow where
  | next
  | body
  | stop
deriving DecidableEq, Repr

/-- The part of the loop behind a message that has been parsed: its body is acquired, or it is ready. -/
def acquireParsed (stream : InputStream Message) (msg : Message) : Checked (InputStream Message × Flow) := do
  let checked := stream.checkBody parser msg
  if checked.2 then return ({ checked.1 with state := .bodyAquisition }, .body)
  else return (← checked.1.messageReady, .next)

/-- The part of the loop that acquires a message. -/
def acquireMessage (stream : InputStream Message) : Checked (InputStream Message × Flow) := do
  let text ← stream.scan stream.readPtr
  match strstr headerEnd text with
  | none => return (stream, .stop)
  | some position =>
      let bytesToParse := position + 4
      let parsed := parser.parseRaw (stream.slice stream.readPtr bytesToParse)
      let readSize := parsed.2.getD stream.readSize
      let advanced := { stream with msg := parsed.1, readSize := readSize, readPtr := stream.readPtr + readSize }
      let skipped := { advanced with readPtr := stream.readPtr + bytesToParse, state := .waitingMessageStart }
      match parsed.1 with
      | some msg => if 0 < readSize then advanced.acquireParsed parser msg else return (skipped, .next)
      | none => return (skipped, .next)

/-- The end of a round, which returns whether the loop goes on. -/
def endRound (acquired : InputStream Message × Flow) (endOfStream : Bool) : Checked (InputStream Message × Bool) :=
  match acquired.2 with
  | .next => return (acquired.1, true)
  | .stop => return (acquired.1, false)
  | .body => acquired.1.acquireBody endOfStream

/-- One round of the loop of `belle_sip_channel_parse_stream`, which returns whether the loop goes on. -/
def parseRound (stream : InputStream Message) (endOfStream : Bool) : Checked (InputStream Message × Bool) := do
  let num := stream.writePtr - stream.readPtr
  let started ←
    if stream.state = .waitingMessageStart then stream |> awaitStart parser num (List.range (num - 1))
    else pure (stream, true)
  if started.2 then do
    let acquired ←
      if started.1.state = .messageAquisition then started.1.acquireMessage parser else pure (started.1, .body)
    endRound acquired endOfStream
  else return (started.1, false)

end InputStream

/-- What `belle_sip_channel_recv` finds: bytes, of which it takes as many as it is asked for, or an error. -/
inductive RecvResult where
  | available (bytes : List UInt8)
  | error
deriving DecidableEq, Repr

/-- The callbacks on the input stream: data are read, or a running parser makes one more round. -/
inductive ReadEvent where
  | processReadData (result : RecvResult)
  | parseRound

/-- A channel that reads, and the argument `end_of_stream` of the parser while it runs. -/
structure Reading (Message : Type) where
  stream : InputStream Message := {}
  parsing : Option Bool := none

namespace Reading

variable {Message : Type} (parser : MessageParser Message)

/-- The start of `belle_sip_channel_process_read_data`, up to the call of the parser. It is a fault to ask for a
negative number of bytes. -/
def processReadData (reading : Reading Message) (result : RecvResult) : Checked (Reading Message) :=
  let stream := reading.stream
  if stream.buffLength - 1 < 0 then .error .fatal
  else
    match result with
    | .error => .ok reading
    | .available bytes =>
        let received := bytes.take (stream.buffLength - 1).toNat
        let num := received.length
        if 0 < num then
          let buff := fun position =>
            if stream.writePtr ≤ position ∧ position < stream.writePtr + num then
              received.getD (position - stream.writePtr) 0
            else stream.buff position
          .ok {
            stream := { stream with
              buff := Function.update buff (stream.writePtr + num) 0
              writePtr := stream.writePtr + num
              readSize := 0 }
            parsing := some false }
        else .ok { stream := { stream with readSize := 0 }, parsing := some true }

/-- One callback; data are read only when the parser does not run. -/
def step (reading : Checked (Reading Message)) (event : ReadEvent) : Checked (Reading Message) := do
  let reading ← reading
  match event, reading.parsing with
  | .processReadData result, none => reading.processReadData result
  | .parseRound, some endOfStream =>
      if reading.stream.readPtr < reading.stream.writePtr then do
        let (stream, goesOn) ← reading.stream.parseRound parser endOfStream
        return { stream := stream, parsing := if goesOn then some endOfStream else none }
      else return { reading with parsing := none }
  | _, _ => return reading

end Reading

end BelleSip
