import BelleSip.Channel.InputBounds

/-
This file proves which messages are delivered when the stream ends while their bodies are acquired.
-/

namespace BelleSip

open Foundation

namespace InputStream

variable {Message : Type} {stream : InputStream Message}

/-- The bytes that have been received and not read. -/
def unread (stream : InputStream Message) : List UInt8 :=
  stream.slice stream.readPtr (stream.writePtr - stream.readPtr)

@[simp] theorem unread_length (stream : InputStream Message) :
    stream.unread.length = stream.writePtr - stream.readPtr := slice_length _ _

theorem unread_eq_nil_iff : stream.unread = [] ↔ stream.writePtr ≤ stream.readPtr := by
  rw [← List.length_eq_zero_iff, unread_length]
  omega

theorem rewind_unread (stream : InputStream Message) : stream.rewind.unread = stream.unread := by
  rw [rewind]
  split
  next some =>
      simp only [unread, slice, Nat.sub_zero]
      apply List.ext_getElem
      · simp
      · intro position inside _
        have below : position < stream.writePtr - stream.readPtr := by simpa using inside
        simp [below, Nat.ne_of_lt below]
  next none =>
      have before : stream.writePtr ≤ stream.readPtr := Nat.le_of_not_lt none
      rw [unread_eq_nil_iff.mpr before]
      rfl

theorem slice_append (stream : InputStream Message) (position first second : Nat) :
    stream.slice position (first + second) = stream.slice position first ++ stream.slice (position + first) second := by
  simp only [slice, ← List.map_append]
  rw [← List.range'_append]
  simp

@[simp] theorem rewind_body (stream : InputStream Message) : stream.rewind.body = stream.body := by
  rw [rewind]
  split <;> rfl

@[simp] theorem rewind_incomingMessages (stream : InputStream Message) :
    stream.rewind.incomingMessages = stream.incomingMessages := by
  rw [rewind]
  split <;> rfl

@[simp] theorem rewind_contentLength (stream : InputStream Message) :
    stream.rewind.contentLength = stream.contentLength := by
  rw [rewind]
  split <;> rfl

@[simp] theorem rewind_chunckedMode (stream : InputStream Message) :
    stream.rewind.chunckedMode = stream.chunckedMode := by
  rw [rewind]
  split <;> rfl

/-- Bytes go from the buffer to the body. -/
structure Feeds (len : Nat) (before after : InputStream Message) : Prop where
  inBounds : after.InBounds
  state : after.state = before.state
  msg : after.msg = before.msg
  contentLength : after.contentLength = before.contentLength
  chunckedMode : after.chunckedMode = before.chunckedMode
  chunkSize : after.chunkSize = before.chunkSize
  incomingMessages : after.incomingMessages = before.incomingMessages
  body : after.body = before.body ++ before.unread.take len
  unread : after.unread = before.unread.drop len

theorem feedBody_feeds {len : Nat} (received : stream.readPtr + len ≤ stream.writePtr)
    (inside : stream.writePtr < networkBufferSize) : Checked.Returns (stream.feedBody len) (Feeds len stream) := by
  have split : stream.unread = stream.slice stream.readPtr len ++
      stream.slice (stream.readPtr + len) (stream.writePtr - (stream.readPtr + len)) := by
    rw [← slice_append, unread]
    congr 1
    omega
  have taken : (stream.slice stream.readPtr len).length = len := slice_length _ _
  rw [feedBody, if_pos received, Checked.returns_ok]
  exact {
    inBounds := rewind_inBounds inside
    state := rewind_state _
    msg := rewind_msg _
    contentLength := rewind_contentLength _
    chunckedMode := rewind_chunckedMode _
    chunkSize := rewind_chunkSize _
    incomingMessages := rewind_incomingMessages _
    body := by
      rw [rewind_body, split, List.take_left' taken]
    unread := by
      rw [rewind_unread, split, List.drop_left' taken]
      rfl }

/-- The message is ready with the bytes that its body has received. -/
structure Readies (message : Message) (before after : InputStream Message) : Prop where
  inBounds : after.InBounds
  state : after.state = .waitingMessageStart
  msg : after.msg = none
  incomingMessages : after.incomingMessages = before.incomingMessages ++ [(message, before.body)]
  unread : after.unread = before.unread

theorem messageReady_readies {message : Message} (inside : stream.writePtr < networkBufferSize)
    (holds : stream.msg = some message) : Checked.Returns stream.messageReady (Readies message stream) := by
  rw [messageReady, holds, Checked.deref_some, Checked.ok_bind, Checked.returns_pure]
  exact {
    inBounds := reset_inBounds inside
    state := rfl
    msg := rfl
    incomingMessages := rewind_incomingMessages _
    unread := rewind_unread _ }

theorem sizeT_sub {value : Int} {less : Nat} (le : less ≤ sizeT value) :
    sizeT (value - less) = sizeT value - less := by
  unfold sizeT at le ⊢
  omega

/-- What `acquire_body_simple` leaves before the end of the stream: the message with as many bytes as its length says,
or a body that has all the bytes and needs more. -/
inductive Acquires (message : Message) (stream : InputStream Message) : InputStream Message × Bool → Prop where
  | ready {after : InputStream Message} (inBounds : after.InBounds)
      (enough : sizeT stream.contentLength ≤ (stream.body ++ stream.unread).length) (gone : after.msg = none)
      (state : after.state = .waitingMessageStart)
      (incomingMessages : after.incomingMessages = stream.incomingMessages ++
        [(message, (stream.body ++ stream.unread).take (sizeT stream.contentLength))]) :
      Acquires message stream (after, true)
  | more {after : InputStream Message} {len : Nat} (feeds : Feeds len stream after) (read : after.unread = [])
      (body : after.body = stream.body ++ stream.unread)
      (short : (stream.body ++ stream.unread).length < sizeT stream.contentLength) :
      Acquires message stream (after, false)

theorem acquireBodySimple_acquires {message : Message} (inBounds : stream.InBounds) (holds : stream.msg = some message)
    (begun : stream.body.length ≤ sizeT stream.contentLength) :
    Checked.Returns (stream.acquireBodySimple false) (Acquires message stream) := by
  obtain ⟨ordered, inside, _⟩ := inBounds
  have size : networkBufferSize = 65535 := rfl
  have toRead : sizeT ((stream.writePtr : Int) - stream.readPtr) = stream.writePtr - stream.readPtr := by
    rw [sizeT_small (by omega) (by omega)]
    omega
  have finish : ∀ (len : Nat) (fed : InputStream Message), Feeds len stream fed →
      len = min (sizeT stream.contentLength - stream.body.length) stream.unread.length → Checked.Returns
      (if false = true ∨ sizeT stream.contentLength ≤ fed.body.length then
        fed.messageReady >>= fun ready => pure (ready, true) else pure (fed, false)) (Acquires message stream) := by
    intro len fed feeds isLen
    have fedLength : fed.body.length = stream.body.length + len := by
      rw [feeds.body, List.length_append, List.length_take]
      omega
    split
    next enough =>
        have reached : sizeT stream.contentLength ≤ fed.body.length := enough.resolve_left Bool.false_ne_true
        rw [Checked.returns_bind]
        have stillHolds : fed.msg = some message := feeds.msg.trans holds
        refine (messageReady_readies feeds.inBounds.inside stillHolds).mono fun ready readies => ?_
        refine Checked.returns_pure.mpr (.ready readies.inBounds ?_ readies.msg readies.state ?_)
        · rw [List.length_append]
          omega
        · have whole : fed.body = (stream.body ++ stream.unread).take (sizeT stream.contentLength) := by
            rw [feeds.body, List.take_append, List.take_of_length_le begun]
            congr 2
            omega
          rw [readies.incomingMessages, feeds.incomingMessages, whole]
    next waits =>
        have short : fed.body.length < sizeT stream.contentLength :=
          Nat.lt_of_not_le fun reached => waits (.inr reached)
        have all : len = stream.unread.length := by omega
        refine Checked.returns_pure.mpr (.more feeds ?_ ?_ ?_)
        · rw [feeds.unread, all, List.drop_length]
        · rw [feeds.body, all, List.take_length]
        · rw [List.length_append]
          omega
  simp only [acquireBodySimple, toRead]
  split
  next nothing =>
      rw [Checked.returns_bind, Checked.returns_pure]
      have none : stream.unread = [] := unread_eq_nil_iff.mpr (by omega)
      refine finish 0 stream ?_ (by rw [none]; simp)
      exact {
        inBounds := ⟨ordered, inside, fun some => by omega⟩
        state := rfl
        msg := rfl
        contentLength := rfl
        chunckedMode := rfl
        chunkSize := rfl
        incomingMessages := rfl
        body := by rw [none]; simp
        unread := by rw [none]; rfl }
  next some =>
      rw [Checked.returns_bind, sizeT_sub begun]
      refine (feedBody_feeds (by omega) inside).mono fun fed feeds => finish _ fed feeds ?_
      rw [unread_length]

/-- The list of messages to notify only grows. -/
def Extends (before after : InputStream Message) : Prop := before.incomingMessages <+: after.incomingMessages

theorem Extends.refl (stream : InputStream Message) : Extends stream stream := List.prefix_refl _

theorem Extends.trans {first second third : InputStream Message} (extends_ : Extends first second)
    (also : Extends second third) : Extends first third := List.IsPrefix.trans extends_ also

theorem extends_of_eq {before after : InputStream Message}
    (same : after.incomingMessages = before.incomingMessages) : Extends before after :=
  ⟨[], by rw [List.append_nil, same]⟩

theorem reset_extends (stream : InputStream Message) : Extends stream stream.reset :=
  extends_of_eq (rewind_incomingMessages stream)

theorem messageReady_extends (stream : InputStream Message) :
    Checked.OnReturn stream.messageReady (Extends stream) := by
  rw [messageReady, Checked.onReturn_bind, Checked.onReturn_deref]
  intro message _
  rw [Checked.onReturn_pure]
  have appended : Extends stream
      { stream with incomingMessages := stream.incomingMessages ++ [(message, stream.body)] } :=
    List.prefix_append _ _
  exact appended.trans (reset_extends _)

theorem feedBody_extends (stream : InputStream Message) (len : Nat) :
    Checked.OnReturn (stream.feedBody len) (Extends stream) := by
  rw [feedBody]
  split
  · exact extends_of_eq (rewind_incomingMessages _)
  · exact Checked.onReturn_error

theorem acquireBodySimple_extends (stream : InputStream Message) (endOfStream : Bool) :
    Checked.OnReturn (stream.acquireBodySimple endOfStream) fun result => Extends stream result.1 := by
  have finish : ∀ fed : InputStream Message, Extends stream fed → Checked.OnReturn
      (if endOfStream = true ∨ sizeT stream.contentLength ≤ fed.body.length then
        fed.messageReady >>= fun ready => pure (ready, true) else pure (fed, false)) fun result =>
      Extends stream result.1 := by
    intro fed extends_
    split
    · rw [Checked.onReturn_bind]
      exact (messageReady_extends fed).mono fun ready also => Checked.onReturn_pure.mpr (extends_.trans also)
    · exact Checked.onReturn_pure.mpr extends_
  simp only [acquireBodySimple]
  split
  · rw [Checked.onReturn_bind, Checked.onReturn_pure]
    exact finish stream (Extends.refl stream)
  · rw [Checked.onReturn_bind]
    exact (feedBody_extends stream _).mono finish

theorem skipLineEnds_extends (rounds : Nat) (stream : InputStream Message) :
    Checked.OnReturn (skipLineEnds rounds stream) fun result => Extends stream result.1 := by
  induction rounds generalizing stream with
  | zero => exact Checked.onReturn_error
  | succ rounds ih =>
      rw [skipLineEnds, Checked.onReturn_bind]
      cases stream.scan stream.readPtr with
      | error fault => exact Checked.onReturn_error
      | ok text =>
          rw [Checked.onReturn_ok]
          split
          · exact ih _
          · exact Checked.onReturn_pure.mpr (Extends.refl stream)

theorem acquireChunkLine_extends (stream : InputStream Message) :
    Checked.OnReturn stream.acquireChunkLine fun line =>
      match line with
      | .returns stopped _ => Extends stream stopped
      | .chunk next => Extends stream next := by
  rw [acquireChunkLine, Checked.onReturn_bind]
  refine (skipLineEnds_extends _ stream).mono ?_
  rintro ⟨skipped, found⟩ extends_
  cases found with
  | none => exact Checked.onReturn_pure.mpr extends_
  | some tmp =>
      simp only [Checked.onReturn_bind]
      cases skipped.scan skipped.readPtr with
      | error fault => exact Checked.onReturn_error
      | ok text =>
          rw [Checked.onReturn_ok]
          split
          · split
            · rw [Checked.onReturn_bind]
              exact (messageReady_extends _).mono fun ready also =>
                Checked.onReturn_pure.mpr (Extends.trans extends_ also)
            · exact Checked.onReturn_pure.mpr extends_
          · exact Checked.onReturn_pure.mpr (Extends.trans extends_ (reset_extends skipped))

theorem acquireChunk_extends (stream : InputStream Message) :
    Checked.OnReturn stream.acquireChunk fun acquired => Extends stream acquired.1 := by
  have finish : ∀ (fed : InputStream Message) (size : Int), Extends stream fed → Checked.OnReturn
      (if fed.chunkSize = size then
        pure ({ fed with chunkReadSize := size, contentLength := fed.contentLength + fed.chunkSize, chunkSize := -1 },
          decide (fed.readPtr < fed.writePtr))
      else pure ({ fed with chunkReadSize := size }, false)) fun acquired => Extends stream acquired.1 := by
    intro fed size extends_
    split <;> exact Checked.onReturn_pure.mpr extends_
  rw [acquireChunk]
  split
  · rw [Checked.onReturn_bind]
    exact (feedBody_extends stream _).mono fun fed extends_ => finish fed _ extends_
  · rw [Checked.onReturn_bind, Checked.onReturn_pure]
    exact finish stream _ (Extends.refl stream)

theorem acquireChunckedBody_extends (rounds : Nat) (stream : InputStream Message) :
    Checked.OnReturn (acquireChunckedBody rounds stream) fun result => Extends stream result.1 := by
  induction rounds generalizing stream with
  | zero => exact Checked.onReturn_error
  | succ rounds ih =>
      have take : ∀ next : InputStream Message, Extends stream next → Checked.OnReturn
          (next.acquireChunk >>= fun acquired =>
            if acquired.2 then acquireChunckedBody rounds acquired.1 else pure acquired) fun result =>
          Extends stream result.1 := by
        intro next extends_
        rw [Checked.onReturn_bind]
        refine (acquireChunk_extends next).mono fun acquired also => ?_
        split
        · exact (ih acquired.1).mono fun result more => extends_.trans (also.trans more)
        · exact Checked.onReturn_pure.mpr (extends_.trans also)
      rw [acquireChunckedBody]
      split
      · rw [Checked.onReturn_bind]
        refine (acquireChunkLine_extends stream).mono fun line extends_ => ?_
        cases line with
        | returns stopped goOn => exact Checked.onReturn_pure.mpr extends_
        | chunk next => exact take next extends_
      · rw [Checked.onReturn_bind, Checked.onReturn_pure]
        exact take stream (Extends.refl stream)

theorem acquireBody_extends (stream : InputStream Message) (endOfStream : Bool) :
    Checked.OnReturn (stream.acquireBody endOfStream) fun result => Extends stream result.1 := by
  rw [acquireBody]
  split
  · exact acquireChunckedBody_extends _ stream
  · exact acquireBodySimple_extends stream endOfStream

variable {parser : MessageParser Message}

theorem awaitStart_extends (num : Nat) (positions : List Nat) (stream : InputStream Message) :
    Checked.OnReturn (stream.awaitStart parser num positions) fun result => Extends stream result.1 := by
  induction positions generalizing stream with
  | nil => exact Checked.onReturn_pure.mpr (Extends.refl stream)
  | cons position rest ih =>
      rw [awaitStart]
      split
      · rw [Checked.onReturn_bind]
        cases stream.getMessageStartPos parser num with
        | error fault => exact Checked.onReturn_error
        | ok found =>
            rw [Checked.onReturn_ok]
            cases found with
            | some offset => exact Checked.onReturn_pure.mpr (Extends.refl stream)
            | none =>
                refine (ih _).mono fun result more => Extends.trans ?_ more
                exact reset_extends { stream with readPtr := stream.writePtr }
      · exact ih stream

@[simp] theorem checkBody_incomingMessages (msg : Message) :
    (stream.checkBody parser msg).1.incomingMessages = stream.incomingMessages := by
  simp only [checkBody]
  repeat' split
  all_goals rfl

theorem acquireParsed_extends (stream : InputStream Message) (msg : Message) :
    Checked.OnReturn (stream.acquireParsed parser msg) fun result => Extends stream result.1 := by
  have checked : Extends stream (stream.checkBody parser msg).1 := extends_of_eq (checkBody_incomingMessages msg)
  simp only [acquireParsed]
  split
  · exact Checked.onReturn_pure.mpr checked
  · rw [Checked.onReturn_bind]
    exact (messageReady_extends _).mono fun ready more => Checked.onReturn_pure.mpr (checked.trans more)

theorem acquireMessage_extends (stream : InputStream Message) :
    Checked.OnReturn (stream.acquireMessage parser) fun result => Extends stream result.1 := by
  rw [acquireMessage, Checked.onReturn_bind]
  cases stream.scan stream.readPtr with
  | error fault => exact Checked.onReturn_error
  | ok text =>
      rw [Checked.onReturn_ok]
      split
      · exact Checked.onReturn_pure.mpr (Extends.refl stream)
      · dsimp only
        split
        · split
          · exact (acquireParsed_extends _ _).mono fun result more => more
          · exact Checked.onReturn_pure.mpr (Extends.refl stream)
        · exact Checked.onReturn_pure.mpr (Extends.refl stream)

theorem endRound_extends (acquired : InputStream Message × Flow) (endOfStream : Bool) :
    Checked.OnReturn (endRound acquired endOfStream) fun result => Extends acquired.1 result.1 := by
  rw [endRound.eq_def]
  split
  · exact Checked.onReturn_pure.mpr (Extends.refl _)
  · exact Checked.onReturn_pure.mpr (Extends.refl _)
  · exact acquireBody_extends acquired.1 endOfStream

theorem parseRound_extends (stream : InputStream Message) (endOfStream : Bool) :
    Checked.OnReturn (stream.parseRound parser endOfStream) fun result => Extends stream result.1 := by
  have finish : ∀ started : InputStream Message × Bool, Extends stream started.1 → Checked.OnReturn
      (if started.2 then do
        let acquired ←
          if started.1.state = .messageAquisition then started.1.acquireMessage parser else pure (started.1, .body)
        endRound acquired endOfStream
      else pure (started.1, false)) fun result => Extends stream result.1 := by
    intro started extends_
    split
    · split
      · rw [Checked.onReturn_bind]
        refine (acquireMessage_extends started.1).mono fun acquired also => ?_
        exact (endRound_extends acquired endOfStream).mono fun result more => extends_.trans (also.trans more)
      · rw [Checked.onReturn_bind, Checked.onReturn_pure]
        exact (endRound_extends (started.1, .body) endOfStream).mono fun result more => extends_.trans more
    · exact Checked.onReturn_pure.mpr extends_
  simp only [parseRound]
  split
  · rw [Checked.onReturn_bind]
    exact (awaitStart_extends _ _ stream).mono finish
  · rw [Checked.onReturn_bind, Checked.onReturn_pure]
    exact finish (stream, true) (Extends.refl stream)

end InputStream

/-- A channel that acquires a body: the bytes received behind the headers, and whether the end of the stream has been
read. -/
structure Closing (Message : Type) where
  reading : Reading Message
  received : List UInt8
  ended : Bool := false

namespace Closing

variable {Message : Type} (parser : MessageParser Message)

/-- The state of the channel becomes `DISCONNECTED` when the parser returns at the end of the stream. -/
def Disconnected (closing : Closing Message) : Prop := closing.ended = true ∧ closing.reading.parsing = none

instance (closing : Closing Message) : Decidable closing.Disconnected := inferInstanceAs (Decidable (_ ∧ _))

/-- One callback; a disconnected channel has none. -/
def step (state : Checked (Closing Message)) (event : ReadEvent) : Checked (Closing Message) := do
  let closing ← state
  if closing.Disconnected then return closing
  else do
    let reading ← Reading.step parser (.ok closing.reading) event
    match event, closing.reading.parsing with
    | .processReadData (.available bytes), none =>
        let taken := bytes.take (closing.reading.stream.buffLength - 1).toNat
        return { reading := reading, received := closing.received ++ taken, ended := taken.isEmpty }
    | _, _ => return { closing with reading := reading }

/-- The channel after the round of the parser that has found the headers of a message with a body. -/
def start (acquired : InputStream Message) : Checked (Closing Message) := do
  let (stream, goesOn) ← acquired.acquireBody false
  return {
    reading := { stream := stream, parsing := if goesOn then some false else none }
    received := acquired.unread }

/-- The bytes that belong to the body of a message: all those that follow when it says no length. -/
def bodyOf (message : Message) (received : List UInt8) : List UInt8 :=
  match parser.contentLength message with
  | none => received
  | some length => received.take (sizeT length)

/-- The message is delivered once: at some time it is the one message more in the list of those to notify, and the
stream does not hold it any more. -/
def Delivered (message : Message) (prior : List (Message × List UInt8)) (begun : Checked (Closing Message))
    (events : List ReadEvent) (body : List UInt8) : Prop :=
  ∃ first rest closing, events = first ++ rest ∧ Machine.run (step parser) begun first = .ok closing ∧
    closing.reading.stream.incomingMessages = prior ++ [(message, body)] ∧ closing.reading.stream.msg = none

/-- The body is complete when as many bytes have been received as the message says, or none when it says no length. -/
def Complete (message : Message) (received : List UInt8) : Prop :=
  match parser.contentLength message with
  | none => received = []
  | some length => sizeT length ≤ received.length

/-- The body of the message is acquired, and all bytes that have been received are in it when the parser does not run.
-/
structure Acquiring (message : Message) (prior : List (Message × List UInt8)) (closing : Closing Message) : Prop where
  inBounds : closing.reading.stream.InBounds
  state : closing.reading.stream.state = .bodyAquisition
  holds : closing.reading.stream.msg = some message
  plain : closing.reading.stream.chunckedMode = false
  length : closing.reading.stream.contentLength = (parser.contentLength message).getD 0
  incomingMessages : closing.reading.stream.incomingMessages = prior
  received : closing.reading.stream.body ++ closing.reading.stream.unread = closing.received
  short : closing.reading.stream.body.length < sizeT closing.reading.stream.contentLength
  resting : closing.reading.parsing ≠ some false → closing.reading.stream.unread = []

/-- The message has just been delivered with the bytes of its body. -/
structure Ready (message : Message) (prior : List (Message × List UInt8)) (closing : Closing Message) : Prop where
  incomingMessages : closing.reading.stream.incomingMessages = prior ++
    [(message, closing.received.take (sizeT ((parser.contentLength message).getD 0)))]
  gone : closing.reading.stream.msg = none
  enough : sizeT ((parser.contentLength message).getD 0) ≤ closing.received.length

variable {parser} {message : Message} {prior : List (Message × List UInt8)} {closing : Closing Message}

/-- What the parser makes of the body, before the end of the stream. -/
theorem acquired_cases {stream : InputStream Message} {result : InputStream Message × Bool}
    (acquires : stream.Acquires message result) (state : stream.state = .bodyAquisition)
    (holds : stream.msg = some message) (plain : stream.chunckedMode = false)
    (length : stream.contentLength = (parser.contentLength message).getD 0) :
    Acquiring parser message stream.incomingMessages {
        reading := { stream := result.1, parsing := if result.2 then some false else none }
        received := stream.body ++ stream.unread } ∨
      Ready parser message stream.incomingMessages {
        reading := { stream := result.1, parsing := if result.2 then some false else none }
        received := stream.body ++ stream.unread } := by
  cases acquires with
  | ready inBounds enough gone waits incomingMessages =>
      right
      rw [length] at enough incomingMessages
      exact { incomingMessages := incomingMessages, gone := gone, enough := enough }
  | more feeds read body short =>
      left
      exact {
        inBounds := feeds.inBounds
        state := feeds.state.trans state
        holds := feeds.msg.trans holds
        plain := feeds.chunckedMode.trans plain
        length := feeds.contentLength.trans length
        incomingMessages := feeds.incomingMessages
        received := by
          rw [read, body, List.append_nil]
        short := by
          simp only [body, feeds.contentLength]
          exact short
        resting := fun _ => read }

/-- The bytes that are written behind the last one are unread with those before. -/
theorem written_unread {stream : InputStream Message} (ordered : stream.readPtr ≤ stream.writePtr) (bytes : List UInt8)
    (terminator : UInt8) :
    InputStream.unread { stream with
      buff := Function.update (fun position =>
        if stream.writePtr ≤ position ∧ position < stream.writePtr + bytes.length then
          bytes.getD (position - stream.writePtr) 0
        else stream.buff position) (stream.writePtr + bytes.length) terminator
      writePtr := stream.writePtr + bytes.length
      readSize := 0 } = stream.unread ++ bytes := by
  apply List.ext_getElem
  · simp only [InputStream.unread_length, List.length_append]
    omega
  · intro position inside insideToo
    simp only [InputStream.unread_length] at inside
    have apart : stream.readPtr + position ≠ stream.writePtr + bytes.length := by omega
    simp only [InputStream.unread, InputStream.slice, List.getElem_map, List.getElem_range', Nat.one_mul,
      Function.update_of_ne apart, List.getElem_append, List.length_map, List.length_range']
    by_cases before : position < stream.writePtr - stream.readPtr
    · have early : ¬stream.writePtr ≤ stream.readPtr + position := by omega
      simp [before, early]
    · have late : stream.writePtr ≤ stream.readPtr + position := by omega
      have same : stream.readPtr + position - stream.writePtr =
          position - (stream.writePtr - stream.readPtr) := by omega
      have within : position - (stream.writePtr - stream.readPtr) < bytes.length := by omega
      have below : stream.readPtr + position < stream.writePtr + bytes.length := by omega
      simp [before, late, below, same, within]

theorem Acquiring.read (acquiring : Acquiring parser message prior closing) (rests : closing.reading.parsing = none)
    (result : RecvResult) :
    Checked.OnReturn (step parser (.ok closing) (.processReadData result)) (Acquiring parser message prior) := by
  have read := acquiring.resting (by simp [rests])
  have inside := acquiring.inBounds.inside
  have length : closing.reading.stream.buffLength = networkBufferSize - closing.reading.stream.writePtr := rfl
  simp only [step, Checked.ok_bind, Reading.step, rests, Reading.processReadData]
  split
  · exact acquiring
  · rw [if_neg (by omega)]
    cases result with
    | error => exact { acquiring with }
    | available bytes =>
        simp only
        have fits := List.length_take_le (closing.reading.stream.buffLength - 1).toNat bytes
        generalize bytes.take (closing.reading.stream.buffLength - 1).toNat = taken at fits ⊢
        split
        next some =>
            have whole := written_unread acquiring.inBounds.ordered taken 0
            rw [read, List.nil_append] at whole
            have before := acquiring.received
            rw [read, List.append_nil] at before
            exact {
              inBounds := by
                constructor
                · simp only
                  have ordered := acquiring.inBounds.ordered
                  omega
                · simp only
                  omega
                · intro _
                  simp
              state := acquiring.state
              holds := acquiring.holds
              plain := acquiring.plain
              length := acquiring.length
              incomingMessages := acquiring.incomingMessages
              received := congrArg₂ (· ++ ·) before whole
              short := acquiring.short
              resting := fun other => absurd rfl other }
        next none =>
            have empty : taken = [] := List.eq_nil_of_length_eq_zero (Nat.eq_zero_of_not_pos none)
            exact { acquiring with
              inBounds := { acquiring.inBounds with }
              received := by
                simp only [empty, List.append_nil]
                exact acquiring.received
              resting := fun _ => read }

/-- A round of the parser while a body is acquired. -/
theorem parseRound_body {stream : InputStream Message} (state : stream.state = .bodyAquisition)
    (plain : stream.chunckedMode = false) (endOfStream : Bool) :
    stream.parseRound parser endOfStream = stream.acquireBodySimple endOfStream := by
  simp [InputStream.parseRound, state, InputStream.endRound, InputStream.acquireBody, plain]

theorem Acquiring.parse (acquiring : Acquiring parser message prior closing) :
    Checked.OnReturn (step parser (.ok closing) .parseRound) fun after =>
      Acquiring parser message prior after ∨ Ready parser message prior after := by
  simp only [step, Checked.ok_bind, Reading.step]
  split
  · exact .inl acquiring
  · cases runs : closing.reading.parsing with
    | none => exact .inl { acquiring with }
    | some endOfStream =>
        simp only
        split
        next some =>
            have unread : closing.reading.stream.unread ≠ [] := by
              rw [Ne, InputStream.unread_eq_nil_iff]
              omega
            have early : endOfStream = false := by
              by_contra atEnd
              exact unread (acquiring.resting (by simp [runs, atEnd]))
            have acquires := InputStream.acquireBodySimple_acquires acquiring.inBounds acquiring.holds
              (Nat.le_of_lt acquiring.short)
            obtain ⟨⟨stream, goesOn⟩, isAcquired, acquires⟩ := acquires
            have cases_ := acquired_cases acquires acquiring.state acquiring.holds acquiring.plain acquiring.length
            have same : closing.reading.stream.parseRound parser false = .ok (stream, goesOn) :=
              (parseRound_body acquiring.state acquiring.plain false).trans isAcquired
            rw [early, same]
            rw [acquiring.incomingMessages] at cases_
            rw [acquiring.received] at cases_
            rcases cases_ with still | ready
            · exact .inl { still with }
            · exact .inr { ready with }
        next none =>
            have read : closing.reading.stream.unread = [] :=
              InputStream.unread_eq_nil_iff.mpr (Nat.le_of_not_lt none)
            exact .inl { acquiring with resting := fun _ => read }

/-- Messages to notify and received bytes are only added. -/
structure Grows (before after : Closing Message) : Prop where
  incomingMessages : before.reading.stream.incomingMessages <+: after.reading.stream.incomingMessages
  received : before.received <+: after.received

theorem Grows.refl (closing : Closing Message) : Grows closing closing where
  incomingMessages := List.prefix_refl _
  received := List.prefix_refl _

theorem Grows.trans {first second third : Closing Message} (grows : Grows first second) (more : Grows second third) :
    Grows first third where
  incomingMessages := grows.incomingMessages.trans more.incomingMessages
  received := grows.received.trans more.received

theorem processReadData_incomingMessages (reading : Reading Message) (result : RecvResult) :
    Checked.OnReturn (reading.processReadData result) fun after =>
      after.stream.incomingMessages = reading.stream.incomingMessages := by
  simp only [Reading.processReadData]
  split
  · exact Checked.onReturn_error
  · cases result with
    | error => rfl
    | available bytes =>
        simp only
        split <;> rfl

theorem step_grows (closing : Closing Message) (event : ReadEvent) :
    Checked.OnReturn (step parser (.ok closing) event) (Grows closing) := by
  simp only [step, Checked.ok_bind, Reading.step]
  split
  · exact Grows.refl closing
  · cases event with
    | processReadData result =>
        cases closing.reading.parsing with
        | some endOfStream => cases result <;> exact { Grows.refl closing with }
        | none =>
            simp only [Checked.onReturn_bind]
            refine (processReadData_incomingMessages closing.reading result).mono fun reading same => ?_
            have kept : closing.reading.stream.incomingMessages <+: reading.stream.incomingMessages :=
              ⟨[], by rw [List.append_nil, same]⟩
            cases result with
            | error => exact { incomingMessages := kept, received := List.prefix_refl _ }
            | available bytes => exact { incomingMessages := kept, received := List.prefix_append _ _ }
    | parseRound =>
        cases closing.reading.parsing with
        | none => exact { Grows.refl closing with }
        | some endOfStream =>
            simp only
            split
            · simp only [Checked.onReturn_bind]
              refine (InputStream.parseRound_extends closing.reading.stream endOfStream).mono ?_
              rintro ⟨stream, goesOn⟩ extends_
              exact { incomingMessages := extends_, received := List.prefix_refl _ }
            · exact { Grows.refl closing with }

theorem run_grows (closing : Closing Message) (events : List ReadEvent) :
    Checked.OnReturn (Machine.run (step parser) (.ok closing) events) (Grows closing) := by
  have preserved : ∀ (state : Checked (Closing Message)) (event : ReadEvent),
      Checked.OnReturn state (Grows closing) → Checked.OnReturn (step parser state event) (Grows closing) := by
    intro state event grows
    cases state with
    | error fault => exact Checked.onReturn_error
    | ok middle => exact (step_grows middle event).mono fun after more => Grows.trans grows more
  have start : Checked.OnReturn (.ok closing) (Grows closing) := Grows.refl closing
  exact Machine.run_preserves preserved start events

theorem grows_of_run {begun : Checked (Closing Message)} {at_ : Closing Message} {first rest : List ReadEvent}
    (reached : Machine.run (step parser) begun first = .ok at_)
    (ran : Machine.run (step parser) begun (first ++ rest) = .ok closing) : Grows at_ closing := by
  have grown : Checked.OnReturn (Machine.run (step parser) (.ok at_) rest) (Grows at_) := run_grows at_ rest
  rw [← reached, ← Machine.run_append, ran] at grown
  exact grown

theorem run_error (fault : Fault) (events : List ReadEvent) :
    Machine.run (step parser) (.error fault : Checked (Closing Message)) events = .error fault := by
  induction events with
  | nil => rfl
  | cons event rest ih => exact ih

/-- In a run the body is still acquired, or the message has been delivered at some time. -/
theorem Acquiring.run (acquiring : Acquiring parser message prior closing) (events : List ReadEvent) :
    Checked.OnReturn (Machine.run (step parser) (.ok closing) events) (Acquiring parser message prior) ∨
      ∃ first rest at_, events = first ++ rest ∧ Machine.run (step parser) (.ok closing) first = .ok at_ ∧
        Ready parser message prior at_ := by
  induction events generalizing closing with
  | nil => exact .inl acquiring
  | cons event rest ih =>
      have stepped : Checked.OnReturn (step parser (.ok closing) event) fun after =>
          Acquiring parser message prior after ∨ Ready parser message prior after := by
        cases event with
        | parseRound => exact acquiring.parse
        | processReadData result =>
            cases runs : closing.reading.parsing with
            | none => exact (acquiring.read runs result).mono fun _ still => .inl still
            | some endOfStream =>
                simp only [step, Checked.ok_bind, Reading.step, runs]
                split
                · exact .inl acquiring
                · cases result <;> exact .inl { acquiring with }
      rw [Machine.run_cons]
      cases after : step parser (.ok closing) event with
      | error fault =>
          rw [run_error]
          exact .inl Checked.onReturn_error
      | ok next =>
          rcases stepped.elim after with still | ready
          · refine (ih still).imp_right ?_
            rintro ⟨first, later, at_, isSplit, ran, ready⟩
            refine ⟨event :: first, later, at_, by rw [isSplit, List.cons_append], ?_, ready⟩
            rw [Machine.run_cons, after, ran]
          · refine .inr ⟨[event], rest, next, rfl, ?_, ready⟩
            rw [Machine.run_cons, after, Machine.run_nil]

end Closing

/-- The headers of a message with a body that is not chunked have been read. -/
structure InputStream.AwaitsBody {Message : Type} (parser : MessageParser Message) (message : Message)
    (acquired : InputStream Message) : Prop where
  scannable : acquired.Scannable
  state : acquired.state = .bodyAquisition
  holds : acquired.msg = some message
  length : acquired.contentLength = (parser.contentLength message).getD 0
  body : acquired.body = []

namespace Closing

variable {Message : Type} {parser : MessageParser Message} {message : Message} {closing : Closing Message}
  {stream acquired : InputStream Message}

/-- What `check_body` prepares for a body that is not chunked. -/
theorem checkBody_plain (msg : Message) (plain : (stream.checkBody parser msg).1.chunckedMode = false) :
    (stream.checkBody parser msg).1.contentLength = (parser.contentLength msg).getD 0 ∧
      (stream.checkBody parser msg).1.body = [] := by
  unfold InputStream.checkBody at plain ⊢
  dsimp only at plain ⊢
  split
  · exact ⟨rfl, rfl⟩
  next noSip =>
      rw [if_neg noSip] at plain
      split
      next typed =>
          rw [if_pos typed] at plain
          split
          next chunked =>
              rw [if_pos chunked] at plain
              cases plain
          next => exact ⟨rfl, rfl⟩
      next => exact ⟨rfl, rfl⟩

/-- What is known of a message whose body is awaited. -/
theorem acquireMessage_body (stream : InputStream Message) :
    Checked.OnReturn (stream.acquireMessage parser) fun result => result.2 = .body →
      result.1.incomingMessages = stream.incomingMessages ∧
        (result.1.chunckedMode = false → result.1.msg = some message → result.1.state = .bodyAquisition ∧
          result.1.contentLength = (parser.contentLength message).getD 0 ∧ result.1.body = []) := by
  rw [InputStream.acquireMessage, Checked.onReturn_bind]
  cases stream.scan stream.readPtr with
  | error fault => exact Checked.onReturn_error
  | ok text =>
      rw [Checked.onReturn_ok]
      split
      · exact Checked.onReturn_pure.mpr fun impossible => by cases impossible
      · dsimp only
        generalize parser.parseRaw _ = result
        obtain ⟨parsedMessage, size⟩ := result
        cases parsedMessage with
        | none => exact Checked.onReturn_pure.mpr fun impossible => by cases impossible
        | some msg =>
            simp only
            split
            · simp only [InputStream.acquireParsed]
              split
              · refine Checked.onReturn_pure.mpr fun _ => ⟨InputStream.checkBody_incomingMessages msg, ?_⟩
                intro plain holds
                have same : some msg = some message := by
                  rw [← holds]
                  simp
                cases same
                obtain ⟨length, body⟩ := checkBody_plain message plain
                exact ⟨rfl, length, body⟩
              · rw [Checked.onReturn_bind]
                refine (InputStream.messageReady_extends _).mono fun ready _ => ?_
                exact Checked.onReturn_pure.mpr fun impossible => by cases impossible
            · exact Checked.onReturn_pure.mpr fun impossible => by cases impossible

theorem acquireMessage_awaitsBody (scannable : stream.Scannable) (acquires : stream.state = .messageAquisition)
    (parsed : stream.acquireMessage parser = .ok (acquired, .body)) (holds : acquired.msg = some message)
    (plain : acquired.chunckedMode = false) :
    acquired.AwaitsBody parser message ∧ acquired.incomingMessages = stream.incomingMessages := by
  have kept : Checked.Returns (stream.acquireMessage parser) InputStream.Acquired :=
    InputStream.acquireMessage_returns scannable acquires
  obtain ⟨result, isResult, known⟩ := kept
  rw [parsed] at isResult
  cases isResult
  rw [InputStream.Acquired, if_pos rfl] at known
  obtain ⟨incomingMessages, prepared⟩ := (acquireMessage_body stream).elim parsed rfl
  obtain ⟨state, length, body⟩ := prepared plain holds
  exact ⟨{ scannable := known.1, state := state, holds := holds, length := length, body := body }, incomingMessages⟩

/-- The channel after the headers of the message. -/
theorem start_cases (awaits : acquired.AwaitsBody parser message) (plain : acquired.chunckedMode = false) :
    ∃ begun, start acquired = .ok begun ∧ (Acquiring parser message acquired.incomingMessages begun ∨
      Ready parser message acquired.incomingMessages begun) := by
  have begins : acquired.body.length ≤ sizeT acquired.contentLength := by
    rw [awaits.body]
    exact Nat.zero_le _
  obtain ⟨result, isAcquired, acquires⟩ :=
    InputStream.acquireBodySimple_acquires awaits.scannable.inBounds awaits.holds begins
  have cases_ := acquired_cases acquires awaits.state awaits.holds plain awaits.length
  rw [awaits.body, List.nil_append] at cases_
  refine ⟨_, ?_, cases_⟩
  simp only [start, InputStream.acquireBody, plain, Bool.false_eq_true, if_false, isAcquired, Checked.ok_bind]
  rfl

/-- A message that is not in the list at the end has not been delivered. -/
theorem not_delivered {begun : Checked (Closing Message)} {events : List ReadEvent}
    {prior : List (Message × List UInt8)} (ran : Machine.run (step parser) begun events = .ok closing)
    (none : closing.reading.stream.incomingMessages = prior) (body : List UInt8) :
    ¬Delivered parser message prior begun events body := by
  rintro ⟨first, rest, at_, isSplit, reached, incomingMessages, _⟩
  rw [isSplit] at ran
  have longer := (grows_of_run reached ran).incomingMessages.length_le
  rw [incomingMessages, none, List.length_append, List.length_singleton] at longer
  omega

theorem Acquiring.not_complete {prior : List (Message × List UInt8)}
    (acquiring : Acquiring parser message prior closing) (disconnected : closing.Disconnected) :
    ¬Complete parser message closing.received := by
  have read : closing.reading.stream.unread = [] := acquiring.resting (by simp [disconnected.2])
  have whole := acquiring.received
  rw [read, List.append_nil] at whole
  have short := acquiring.short
  rw [whole, acquiring.length] at short
  unfold Complete
  cases length : parser.contentLength message with
  | none =>
      rw [length] at short
      exact absurd short (Nat.not_lt_zero _)
  | some length =>
      rw [length] at short
      exact Nat.not_le_of_lt short

/-- At the end of the stream, the message has been delivered once with its body exactly when the body is complete. -/
theorem end_of_stream_delivered_iff (scannable : stream.Scannable) (acquires : stream.state = .messageAquisition)
    (parsed : stream.acquireMessage parser = .ok (acquired, .body)) (holds : acquired.msg = some message)
    (plain : acquired.chunckedMode = false) {events : List ReadEvent}
    (ran : Machine.run (step parser) (start acquired) events = .ok closing) (disconnected : closing.Disconnected) :
    Delivered parser message stream.incomingMessages (start acquired) events
        (bodyOf parser message closing.received) ↔
      Complete parser message closing.received := by
  obtain ⟨awaits, prior⟩ := acquireMessage_awaitsBody scannable acquires parsed holds plain
  obtain ⟨begun, isBegun, cases_⟩ := start_cases awaits plain
  rw [prior] at cases_
  rw [isBegun] at ran ⊢
  have undelivered_or : Acquiring parser message stream.incomingMessages closing ∨
      ∃ first rest at_, events = first ++ rest ∧ Machine.run (step parser) (.ok begun) first = .ok at_ ∧
        Ready parser message stream.incomingMessages at_ := by
    rcases cases_ with acquiring | ready
    · refine (acquiring.run events).imp_left fun still => ?_
      rw [ran] at still
      exact still
    · exact .inr ⟨[], events, begun, rfl, rfl, ready⟩
  rcases undelivered_or with still | ⟨first, rest, at_, isSplit, reached, ready⟩
  · exact iff_of_false (not_delivered ran still.incomingMessages _) (still.not_complete disconnected)
  · rw [isSplit] at ran
    have grown := grows_of_run reached ran
    have enough : sizeT ((parser.contentLength message).getD 0) ≤ closing.received.length :=
      Nat.le_trans ready.enough grown.received.length_le
    have taken : at_.received.take (sizeT ((parser.contentLength message).getD 0)) =
        closing.received.take (sizeT ((parser.contentLength message).getD 0)) := by
      obtain ⟨more, isMore⟩ := grown.received
      rw [← isMore, List.take_append_of_le_length ready.enough]
    have once := ready.incomingMessages
    rw [taken] at once
    constructor
    · rintro ⟨first', rest', other, isSplit', reached', incomingMessages, _⟩
      rw [← isSplit, isSplit'] at ran
      have grown' := grows_of_run reached' ran
      have same : closing.received.take (sizeT ((parser.contentLength message).getD 0)) =
          bodyOf parser message closing.received := by
        have first_ := grown.incomingMessages
        have second := grown'.incomingMessages
        rw [once] at first_
        rw [incomingMessages] at second
        have equal := List.prefix_of_prefix_length_le first_ second (by simp)
        have whole := equal.eq_of_length (by simp)
        simpa using whole
      unfold Complete bodyOf at *
      cases length : parser.contentLength message with
      | none =>
          rw [length] at same
          exact same.symm
      | some length_ =>
          rw [length] at enough
          exact enough
    · intro complete
      refine ⟨first, rest, at_, isSplit, reached, ?_, ready.gone⟩
      rw [once]
      unfold Complete bodyOf at *
      cases length : parser.contentLength message with
      | none =>
          rw [length] at complete
          rw [complete]
          rfl
      | some length_ => rfl

theorem wholeText_le (text : CString) (size : Nat) (parsed : (some (), some text.length).2 = some size) :
    size ≤ text.length :=
  Nat.le_of_eq (Option.some.inj parsed).symm

theorem wholeText_some (text : CString) (message : Unit) (parsed : (some (), some text.length) = (some message, none)) :
    some (2 : Int) = none ∧ true = false :=
  absurd (congrArg Prod.snd parsed) (Option.some_ne_none _)

/-- A parser for messages whose bodies have two bytes. -/
def pairParser : MessageParser Unit where
  startsMessage _ := false
  parseRaw text := (some (), some text.length)
  isSip _ := true
  contentLength _ := some 2
  hasContentType _ := true
  isChunked _ := false
  empty := rfl
  parsed_le := wholeText_le
  bare := wholeText_some

/-- A stream with the end of some headers and the first byte of the body. -/
def headersAndByte : InputStream Unit where
  state := .messageAquisition
  buff position := [13, 10, 13, 10, 97].getD position 0
  writePtr := 5

theorem headersAndByte_scannable : headersAndByte.Scannable where
  ordered := by decide
  inside := by decide
  terminated := rfl

theorem delivered_pair :
    ∃ acquired closing, headersAndByte.acquireMessage pairParser = .ok (acquired, .body) ∧
      Machine.run (step pairParser) (start acquired)
        [.processReadData (.available [98]), .parseRound, .parseRound, .processReadData (.available []),
          .parseRound] = .ok closing ∧
      (Delivered pairParser () [] (start acquired)
          [.processReadData (.available [98]), .parseRound, .parseRound, .processReadData (.available []),
            .parseRound] (bodyOf pairParser () closing.received) ↔ Complete pairParser () closing.received) :=
  ⟨_, _, rfl, rfl, end_of_stream_delivered_iff headersAndByte_scannable rfl rfl rfl rfl rfl ⟨rfl, rfl⟩⟩

/-- A message whose stream ends after one byte of its body is never delivered. -/
theorem not_delivered_byte :
    ∃ acquired closing, headersAndByte.acquireMessage pairParser = .ok (acquired, .body) ∧
      Machine.run (step pairParser) (start acquired) [.processReadData (.available []), .parseRound] = .ok closing ∧
      closing.Disconnected ∧
      ∀ body, ¬Delivered pairParser () [] (start acquired) [.processReadData (.available []), .parseRound] body :=
  ⟨_, _, rfl, rfl, ⟨rfl, rfl⟩, not_delivered rfl rfl⟩

end Closing

end BelleSip
