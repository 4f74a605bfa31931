import BelleSip.Channel.ChunckedText

/-
This file proves what the loops over a chunked body make of the bytes that have been received.
-/

namespace BelleSip.ChunckedBody

open Foundation InputStream

/-- What follows the chunks: the zero chunk with the final line end, or a line that is not the size of a chunk. -/
inductive Ending where
  | last (line : SizeLine) (zero : line.size = 0)
  | improper (line : Line) (improper : line.Improper)

namespace Ending

def line : Ending → Line
  | last line _ => line.toLine
  | improper line _ => line

/-- What follows the line end of the line. -/
def behind : Ending → CString
  | last _ _ => lineEnd
  | improper _ _ => []

def text (ending : Ending) : List UInt8 := ending.line.bytes ++ lineEnd ++ ending.behind

/-- The zero chunk is not cut off from the final line end, and an improper line begins with a number that is negative or
too large for a `long`. -/
def Fits (ending : Ending) (received size : Nat) : Prop :=
  match ending with
  | last _ _ => received + 2 < size ∨ size ≤ received
  | improper line _ => strtol16 line.bytes < 0 ∨ strtol16 line.bytes = 9223372036854775807

instance (ending : Ending) (received size : Nat) : Decidable (ending.Fits received size) :=
  match ending with
  | last _ _ => inferInstanceAs (Decidable (_ ∨ _))
  | improper _ _ => inferInstanceAs (Decidable (_ ∨ _))

end Ending

def chunksText (chunks : List Chunk) : List UInt8 := chunks.flatMap Chunk.text

/-- The text of a body. -/
def text (chunks : List Chunk) (ending : Ending) : List UInt8 := chunksText chunks ++ ending.text

def content (chunks : List Chunk) : List UInt8 := chunks.flatMap Chunk.data

/-- The line end that is left of a chunk. -/
def separator (ahead : Bool) : CString := if ahead then lineEnd else []

/-- Where the parser is: before the line of the next chunk, or in the data of a chunk. -/
inductive Position where
  | line (ahead : Bool) (chunks : List Chunk)
  | data (left : List UInt8) (chunks : List Chunk)

namespace Position

/-- What has not been read of the text. -/
def text (ending : Ending) : Position → List UInt8
  | line ahead chunks => separator ahead ++ ChunckedBody.text chunks ending
  | data left chunks => left ++ lineEnd ++ ChunckedBody.text chunks ending

def content : Position → List UInt8
  | line _ chunks => ChunckedBody.content chunks
  | data left chunks => left ++ ChunckedBody.content chunks

def nextLine (ending : Ending) : List Chunk → Line
  | [] => ending.line
  | chunk :: _ => chunk.line.toLine

/-- What follows the next line and its line end. -/
def behind (ending : Ending) : List Chunk → List UInt8
  | [] => ending.behind
  | chunk :: rest => chunk.data ++ lineEnd ++ ChunckedBody.text rest ending

theorem text_line (ending : Ending) (ahead : Bool) (chunks : List Chunk) :
    text ending (line ahead chunks) =
      separator ahead ++ (nextLine ending chunks).bytes ++ lineEnd ++ behind ending chunks := by
  cases chunks with
  | nil => simp [text, ChunckedBody.text, chunksText, Ending.text, nextLine, behind]
  | cons chunk rest =>
      simp [text, ChunckedBody.text, chunksText, Chunk.text, nextLine, behind, SizeLine.toLine]

theorem text_le (ending : Ending) (position : Position) : ending.text.length ≤ (position.text ending).length := by
  cases position <;> simp only [text, ChunckedBody.text, List.length_append] <;> omega

variable {Message : Type}

/-- The sizes of the stream are those of the position. -/
def At (stream : InputStream Message) : Position → Prop
  | line _ _ => stream.chunkSize = -1
  | data left _ => left ≠ [] ∧ stream.chunkSize ≠ -1 ∧ stream.chunkSize - stream.chunkReadSize = left.length

/-- More bytes are needed. -/
def Rests (ending : Ending) (stream : InputStream Message) : Position → Prop
  | line ahead chunks =>
      stream.unread.length < (separator ahead).length + (nextLine ending chunks).bytes.length + 2
  | data _ _ => stream.unread = []

end Position

section

variable {Message : Type} {stream : InputStream Message}

/-- Bytes are read that do not belong to the body. -/
def skip (stream : InputStream Message) (len : Nat) : InputStream Message :=
  { stream with readPtr := stream.readPtr + len }

theorem unread_skip {len : Nat} (inside : len ≤ stream.unread.length) :
    (skip stream len).unread = stream.unread.drop len := by
  rw [unread_length] at inside
  have split : stream.unread = stream.slice stream.readPtr len ++
      stream.slice (stream.readPtr + len) (stream.writePtr - (stream.readPtr + len)) := by
    rw [← slice_append, unread]
    congr 1
    omega
  rw [split, List.drop_left' (slice_length _ _)]
  rfl

theorem scan_unread (scannable : stream.Scannable) :
    stream.scan stream.readPtr = .ok (stream.unread.takeWhile (· ≠ 0)) := by
  rw [scan, if_pos ⟨scannable.ordered, scannable.inside, scannable.terminated⟩]
  rfl

theorem scannable_skip (scannable : stream.Scannable) {len : Nat} (inside : len ≤ stream.unread.length) :
    (skip stream len).Scannable := by
  rw [unread_length] at inside
  have ordered := scannable.ordered
  refine ⟨?_, scannable.inside, scannable.terminated⟩
  show stream.readPtr + len ≤ stream.writePtr
  omega

theorem skipLineEnds_none (scannable : stream.Scannable)
    (none : strstr lineEnd (stream.unread.takeWhile (· ≠ 0)) = none) (rounds : Nat) :
    skipLineEnds (rounds + 1) stream = .ok (stream, Option.none) := by
  rw [skipLineEnds, scan_unread scannable, Checked.ok_bind, none, if_neg (by simp)]
  rfl

theorem skipLineEnds_some (scannable : stream.Scannable) {offset : Nat}
    (found : strstr lineEnd (stream.unread.takeWhile (· ≠ 0)) = some offset) (later : offset ≠ 0) (rounds : Nat) :
    skipLineEnds (rounds + 1) stream = .ok (stream, some (stream.readPtr + offset)) := by
  rw [skipLineEnds, scan_unread scannable, Checked.ok_bind, found, if_neg (by simpa using later)]
  rfl

theorem skipLineEnds_zero (scannable : stream.Scannable)
    (found : strstr lineEnd (stream.unread.takeWhile (· ≠ 0)) = some 0) (rounds : Nat) :
    skipLineEnds (rounds + 1) stream = skipLineEnds rounds (skip stream 2) := by
  rw [skipLineEnds, scan_unread scannable, Checked.ok_bind, found, if_pos rfl]
  rfl

/-- A text without a terminator is scanned to its end. -/
theorem takeWhile_text {first : CString} (unterminated : 0 ∉ first) (rest : CString) :
    (first ++ rest).takeWhile (· ≠ 0) = first ++ rest.takeWhile (· ≠ 0) := by
  apply List.takeWhile_append_of_pos
  intro byte among
  have differs : byte ≠ 0 := fun zero => unterminated (zero ▸ among)
  simpa using differs

theorem lineEnd_unterminated : (0 : UInt8) ∉ lineEnd := by decide

theorem separator_length (ahead : Bool) : (separator ahead).length = if ahead then 2 else 0 := by
  cases ahead <;> rfl

/-- The line that has been received as a whole is found. -/
theorem skipLineEnds_line (scannable : stream.Scannable) (line : Line) {rest : CString}
    (whole : stream.unread = line.bytes ++ lineEnd ++ rest) (rounds : Nat) :
    skipLineEnds (rounds + 1) stream = .ok (stream, some (stream.readPtr + line.bytes.length)) := by
  apply skipLineEnds_some scannable
  · rw [whole, List.append_assoc, takeWhile_text line.unterminated, takeWhile_text lineEnd_unterminated,
      ← List.append_assoc, strstr_line line.unbroken]
  · have nonempty := List.length_pos_iff.mpr line.nonempty
    omega

theorem skipLineEnds_found (scannable : stream.Scannable) (line : Line) {ahead : Bool} {rest : CString}
    (whole : stream.unread = separator ahead ++ line.bytes ++ lineEnd ++ rest) {rounds : Nat}
    (enough : stream.unread.length < rounds) :
    skipLineEnds rounds stream = .ok (skip stream (separator ahead).length,
      some (stream.readPtr + (separator ahead).length + line.bytes.length)) := by
  obtain ⟨rounds, rfl⟩ : ∃ fewer, rounds = fewer + 1 := ⟨rounds - 1, by omega⟩
  cases ahead with
  | false => exact skipLineEnds_line scannable line whole rounds
  | true =>
      have here : strstr lineEnd (stream.unread.takeWhile (· ≠ 0)) = some 0 := by
        rw [whole, List.append_assoc, List.append_assoc, separator, if_pos rfl, takeWhile_text lineEnd_unterminated]
        exact strstr_line strstr_nil _
      have long : 2 ≤ stream.unread.length := by
        have two : lineEnd.length = 2 := rfl
        rw [whole]
        simp only [List.length_append]
        omega
      obtain ⟨rounds, rfl⟩ : ∃ fewer, rounds = fewer + 1 := ⟨rounds - 1, by omega⟩
      rw [skipLineEnds_zero scannable here]
      apply skipLineEnds_line (scannable_skip scannable long) line
      rw [unread_skip long, whole]
      rfl

theorem prefix_split {first second rest : List UInt8} (begins : first <+: second ++ rest)
    (long : second.length ≤ first.length) : ∃ more, first = second ++ more ∧ more <+: rest := by
  obtain ⟨more, rfl⟩ := List.prefix_of_prefix_length_le (List.prefix_append second rest) begins long
  exact ⟨more, rfl, (List.prefix_append_right_inj second).mp begins⟩

/-- Where the line has not been received as a whole, at most the line end before it is skipped. -/
theorem skipLineEnds_short (scannable : stream.Scannable) (line : Line) {ahead : Bool} {rest : CString}
    (begins : stream.unread <+: separator ahead ++ line.bytes ++ lineEnd ++ rest)
    (short : stream.unread.length < (separator ahead).length + line.bytes.length + 2) {rounds : Nat}
    (enough : stream.unread.length < rounds) :
    ∃ len, skipLineEnds rounds stream = .ok (skip stream len, none) ∧
      (len = 0 ∨ len = (separator ahead).length) ∧ len ≤ stream.unread.length := by
  have waits : ∀ {stream : InputStream Message}, stream.Scannable → stream.unread <+: line.bytes ++ lineEnd ++ rest →
      stream.unread.length < line.bytes.length + 2 →
        ∀ rounds, skipLineEnds (rounds + 1) stream = .ok (stream, none) := by
    intro stream scannable begins short rounds
    apply skipLineEnds_none scannable
    have cut := (List.takeWhile_prefix (· ≠ 0) (l := stream.unread))
    refine strstr_short line.unbroken rest (cut.trans begins) ?_
    exact Nat.lt_of_le_of_lt cut.length_le short
  obtain ⟨rounds, rfl⟩ : ∃ fewer, rounds = fewer + 1 := ⟨rounds - 1, by omega⟩
  cases ahead with
  | false => exact ⟨0, waits scannable begins (by simpa [separator] using short) _, .inl rfl, Nat.zero_le _⟩
  | true =>
      by_cases two : (separator true).length ≤ stream.unread.length
      · rw [List.append_assoc, List.append_assoc] at begins
        obtain ⟨more, same, begins⟩ := prefix_split begins two
        rw [← List.append_assoc] at begins
        have here : strstr lineEnd (stream.unread.takeWhile (· ≠ 0)) = some 0 := by
          rw [same, separator, if_pos rfl, takeWhile_text lineEnd_unterminated]
          exact strstr_line strstr_nil _
        have left : stream.unread.drop 2 = more := by
          rw [same]
          rfl
        have received : 2 ≤ stream.unread.length := two
        obtain ⟨rounds, rfl⟩ : ∃ fewer, rounds = fewer + 1 := ⟨rounds - 1, by omega⟩
        refine ⟨2, ?_, .inr rfl, received⟩
        rw [skipLineEnds_zero scannable here]
        apply waits (scannable_skip scannable received)
        · rw [unread_skip received, left]
          exact begins
        · rw [unread_skip received, List.length_drop]
          rw [separator_length, if_pos rfl] at short
          omega
      · refine ⟨0, ?_, .inl rfl, Nat.zero_le _⟩
        apply skipLineEnds_none scannable
        rw [separator_length, if_pos rfl] at two
        cases found : strstr lineEnd (stream.unread.takeWhile (· ≠ 0)) with
        | none => rfl
        | some position =>
            have inside := strstr_inside found
            have cut := (List.takeWhile_prefix (· ≠ 0) (l := stream.unread)).length_le
            have long : lineEnd.length = 2 := rfl
            omega

/-- The parser of a chunked body is at a position of its text, and what it has not read is next. -/
structure Takes (message : Message) (ending : Ending) (tail : List UInt8) (position : Position)
    (stream : InputStream Message) : Prop where
  inBounds : stream.InBounds
  state : stream.state = .bodyAquisition
  holds : stream.msg = some message
  chunked : stream.chunckedMode = true
  stands : position.At stream
  comes : stream.unread <+: position.text ending ++ tail

/-- Bytes of the text are read, and the data among them belong to the body. -/
structure Advances (ending : Ending) (first second : Position) (before after : InputStream Message) : Prop where
  read : ∃ taken, before.unread = taken ++ after.unread ∧ first.text ending = taken ++ second.text ending
  content : after.body ++ second.content = before.body ++ first.content
  incomingMessages : after.incomingMessages = before.incomingMessages

theorem Advances.trans {ending : Ending} {first second third : Position} {before between after : InputStream Message}
    (advances : Advances ending first second before between) (more : Advances ending second third between after) :
    Advances ending first third before after := by
  obtain ⟨taken, unread, text⟩ := advances.read
  obtain ⟨takenToo, unreadToo, textToo⟩ := more.read
  refine ⟨⟨taken ++ takenToo, ?_, ?_⟩, more.content.trans advances.content,
    more.incomingMessages.trans advances.incomingMessages⟩
  · rw [unread, unreadToo, List.append_assoc]
  · rw [text, textToo, List.append_assoc]

/-- What is next stays next. -/
theorem Advances.comes {ending : Ending} {first second : Position} {before after : InputStream Message}
    {tail : List UInt8} (advances : Advances ending first second before after)
    (comes : before.unread <+: first.text ending ++ tail) : after.unread <+: second.text ending ++ tail := by
  obtain ⟨taken, unread, text⟩ := advances.read
  rw [unread, text, List.append_assoc] at comes
  exact (List.prefix_append_right_inj taken).mp comes

theorem Advances.fits {ending : Ending} {first second : Position} {before after : InputStream Message}
    (advances : Advances ending first second before after)
    (fits : ending.Fits before.unread.length (first.text ending).length) :
    ending.Fits after.unread.length (second.text ending).length := by
  obtain ⟨taken, unread, text⟩ := advances.read
  cases ending with
  | last line zero =>
      rw [unread, text, List.length_append, List.length_append] at fits
      rcases fits with short | whole
      · exact .inl (by omega)
      · exact .inr (by omega)
  | improper line improper => exact fits

/-- How the loop over a chunked body ends: more bytes are needed; or the zero chunk completes the message with the bytes
of its body, and what stands behind the text is left; or a line that is no size is left, and no message is ready. -/
inductive Outcome (message : Message) (ending : Ending) (position : Position) (stream : InputStream Message) :
    InputStream Message × Bool → Prop where
  | more {after : InputStream Message} {next : Position} (advances : Advances ending position next stream after)
      (inBounds : after.InBounds) (state : after.state = .bodyAquisition) (holds : after.msg = some message)
      (chunked : after.chunckedMode = true) (stands : next.At after) (rests : next.Rests ending after) :
      Outcome message ending position stream (after, false)
  | last {after : InputStream Message} (line : SizeLine) (zero : line.size = 0) (ends : ending = .last line zero)
      (inBounds : after.InBounds)
      (state : after.state = .waitingMessageStart) (gone : after.msg = none)
      (incomingMessages : after.incomingMessages =
        stream.incomingMessages ++ [(message, stream.body ++ position.content)])
      (whole : (position.text ending).length ≤ stream.unread.length)
      (left : after.unread = stream.unread.drop (position.text ending).length) :
      Outcome message ending position stream (after, true)
  | rejected {after : InputStream Message} (line : Line) (improper : line.Improper)
      (ends : ending = .improper line improper) (inBounds : after.InBounds)
      (state : after.state = .waitingMessageStart) (gone : after.msg = none)
      (incomingMessages : after.incomingMessages = stream.incomingMessages)
      (whole : (position.text ending).length ≤ stream.unread.length)
      (left : after.unread = stream.unread.drop ((position.text ending).length - ending.text.length)) :
      Outcome message ending position stream (after, true)

/-- What the loop makes of the rest. -/
theorem Outcome.advance {message : Message} {ending : Ending} {first second : Position}
    {before after : InputStream Message} {result : InputStream Message × Bool}
    (advances : Advances ending first second before after) (outcome : Outcome message ending second after result) :
    Outcome message ending first before result := by
  obtain ⟨taken, unread, text⟩ := advances.read
  cases outcome with
  | more more inBounds state holds chunked stands rests =>
      exact .more (advances.trans more) inBounds state holds chunked stands rests
  | last line zero ends inBounds state gone incomingMessages whole left =>
      refine .last line zero ends inBounds state gone ?_ ?_ ?_
      · rw [incomingMessages, advances.content, advances.incomingMessages]
      · rw [unread, text, List.length_append, List.length_append]
        omega
      · rw [left, unread, text, List.length_append, ← List.drop_drop, List.drop_left]
  | rejected line improper ends inBounds state gone incomingMessages whole left =>
      refine .rejected line improper ends inBounds state gone ?_ ?_ ?_
      · rw [incomingMessages, advances.incomingMessages]
      · rw [unread, text, List.length_append, List.length_append]
        omega
      · have enough := second.text_le ending
        rw [left, unread, text, List.length_append, Nat.add_sub_assoc enough, ← List.drop_drop, List.drop_left]

variable {message : Message} {ending : Ending} {tail : List UInt8} {ahead : Bool} {chunks : List Chunk}

/-- The next line is not completely received. -/
theorem acquireChunkLine_short (takes : Takes message ending tail (.line ahead chunks) stream)
    (scannable : stream.Scannable) (rests : (Position.line ahead chunks).Rests ending stream) :
    Checked.Returns stream.acquireChunkLine fun line =>
      ∃ after, line = .returns after false ∧ Outcome message ending (.line ahead chunks) stream (after, false) := by
  have comes := takes.comes
  rw [Position.text_line, List.append_assoc] at comes
  obtain ⟨len, found, skipped, inside⟩ := skipLineEnds_short scannable _ comes rests
    (show stream.unread.length < stream.writePtr - stream.readPtr + 1 by rw [unread_length]; omega)
  have read := unread_skip inside
  rw [acquireChunkLine, found, Checked.ok_bind, Checked.returns_pure]
  refine ⟨_, rfl, ?_⟩
  have advanced := scannable_skip scannable inside
  rcases skipped with rfl | rfl
  · have advances : Advances ending (.line ahead chunks) (.line ahead chunks) stream (skip stream 0) :=
      ⟨⟨[], by rw [read]; rfl, rfl⟩, rfl, rfl⟩
    refine .more advances advanced.inBounds takes.state takes.holds takes.chunked takes.stands ?_
    show (skip stream 0).unread.length < _
    rw [read]
    exact rests
  · rw [List.append_assoc, List.append_assoc] at comes
    obtain ⟨more, same, -⟩ := prefix_split comes inside
    have advances : Advances ending (.line ahead chunks) (.line false chunks) stream
        (skip stream (separator ahead).length) := by
      refine ⟨⟨separator ahead, ?_, rfl⟩, rfl, rfl⟩
      rw [read, same, List.drop_left]
    refine .more advances advanced.inBounds takes.state takes.holds takes.chunked takes.stands ?_
    have short : stream.unread.length <
      (separator ahead).length + (Position.nextLine ending chunks).bytes.length + 2 := rests
    show (skip stream (separator ahead).length).unread.length < _
    rw [read, List.length_drop, separator_length false, if_neg (by decide)]
    omega

/-- The next line with its line end has been received, and it is read as a number. -/
theorem acquireChunkLine_found (scannable : stream.Scannable) {rest : List UInt8}
    (number : HasNumber (Position.nextLine ending chunks).bytes)
    (whole : stream.unread = separator ahead ++ (Position.nextLine ending chunks).bytes ++ lineEnd ++ rest) :
    stream.acquireChunkLine =
      (let skipped := skip stream (separator ahead).length
      let tmp := skipped.readPtr + (Position.nextLine ending chunks).bytes.length
      let size := strtol16 (Position.nextLine ending chunks).bytes
      if 0 ≤ size ∧ size ≠ 9223372036854775807 then
        if size = 0 then
          { skipped with readPtr := min (tmp + 4) skipped.writePtr }.messageReady >>= fun ended =>
            .ok (.returns ended true)
        else
          .ok (.chunk { skipped with
            chunkSize := size.bmod UInt32.size, chunkReadSize := 0, readPtr := tmp + 2 })
      else .ok (.returns skipped.reset true)) := by
  have inside : (separator ahead).length ≤ stream.unread.length := by
    rw [whole]
    simp only [List.length_append]
    omega
  have advanced := scannable_skip scannable inside
  have found := skipLineEnds_found scannable (Position.nextLine ending chunks) whole
    (show stream.unread.length < stream.writePtr - stream.readPtr + 1 by rw [unread_length]; omega)
  have read := unread_skip inside
  have scanned := scan_unread advanced
  have text : (stream.unread.drop (separator ahead).length).takeWhile (· ≠ 0) =
      (Position.nextLine ending chunks).bytes ++ 13 :: 10 :: rest.takeWhile (· ≠ 0) := by
    rw [whole, List.append_assoc, List.append_assoc, List.drop_left, takeWhile_text (Line.unterminated _),
      takeWhile_text lineEnd_unterminated]
    rfl
  rw [acquireChunkLine, found, Checked.ok_bind]
  dsimp only
  rw [scanned, Checked.ok_bind, read, text, strtol16_line number]
  rfl

/-- What a line is taken for: a chunk begins, or the call returns. -/
def Taken (message : Message) (ending : Ending) (ahead : Bool) (chunks : List Chunk) (stream : InputStream Message) :
    ChunkLine Message → Prop
  | .returns after goOn => Outcome message ending (.line ahead chunks) stream (after, goOn)
  | .chunk next => ∃ (chunk : Chunk) (rest : List Chunk),
      Advances ending (.line ahead chunks) (.data chunk.data rest) stream next ∧
      next.Scannable ∧ next.state = .bodyAquisition ∧ next.msg = some message ∧ next.chunckedMode = true ∧
      (Position.data chunk.data rest).At next ∧ next.unread.length < stream.unread.length

theorem acquireChunkLine_chunk {chunk : Chunk}
    (takes : Takes message ending tail (.line ahead (chunk :: chunks)) stream) (scannable : stream.Scannable)
    {rest : List UInt8} (whole : stream.unread = separator ahead ++ chunk.line.bytes ++ lineEnd ++ rest) :
    Checked.Returns stream.acquireChunkLine (Taken message ending ahead (chunk :: chunks) stream) := by
  have fits := chunk.fits
  have nonempty := List.length_pos_iff.mpr chunk.nonempty
  have size : strtol16 (Position.nextLine ending (chunk :: chunks)).bytes = chunk.data.length :=
    chunk.strtol16_line
  have inside : (separator ahead).length + chunk.line.bytes.length + 2 ≤ stream.unread.length := by
    have two : lineEnd.length = 2 := rfl
    rw [whole]
    simp only [List.length_append]
    omega
  rw [@acquireChunkLine_found _ _ ending ahead (chunk :: chunks) scannable rest chunk.line.hasNumber whole, size]
  dsimp only
  rw [if_pos (by omega), if_neg (by omega), Checked.returns_ok]
  have truncated : (chunk.data.length : Int).bmod UInt32.size = chunk.data.length := by
    show (chunk.data.length : Int).bmod 4294967296 = _
    rw [Int.bmod_def]
    omega
  have read := unread_skip inside
  have left : stream.unread.drop ((separator ahead).length + chunk.line.bytes.length + 2) = rest := by
    have taken : (separator ahead ++ chunk.line.bytes ++ lineEnd).length =
        (separator ahead).length + chunk.line.bytes.length + 2 := by
      rw [List.length_append, List.length_append]
      rfl
    rw [whole, ← taken, List.drop_left]
  have position : (skip stream (separator ahead).length).readPtr +
      (Position.nextLine ending (chunk :: chunks)).bytes.length + 2 =
        stream.readPtr + ((separator ahead).length + chunk.line.bytes.length + 2) := by
    show stream.readPtr + (separator ahead).length + chunk.line.bytes.length + 2 = _
    omega
  have advanced := scannable_skip scannable inside
  rw [position, truncated]
  rw [left] at read
  refine ⟨chunk, chunks, ⟨⟨separator ahead ++ chunk.line.bytes ++ lineEnd, ?_, ?_⟩, rfl, rfl⟩,
    ⟨advanced.ordered, advanced.inside, advanced.terminated⟩, takes.state, takes.holds, takes.chunked,
    ⟨chunk.nonempty, ?_, ?_⟩, ?_⟩
  · exact whole.trans (congrArg (_ ++ ·) read.symm)
  · exact Position.text_line ending ahead (chunk :: chunks)
  · show (chunk.data.length : Int) ≠ -1
    omega
  · exact Int.sub_zero _
  · refine (congrArg List.length read).trans_lt ?_
    rw [whole]
    simp only [List.length_append]
    have two : lineEnd.length = 2 := rfl
    omega

/-- The zero chunk with the final line end completes the message. -/
theorem acquireChunkLine_last {line : SizeLine} {zero : line.size = 0}
    (takes : Takes message (.last line zero) tail (.line ahead []) stream) (scannable : stream.Scannable)
    {rest : List UInt8} (whole : stream.unread = separator ahead ++ line.bytes ++ lineEnd ++ rest)
    (received : (Position.text (.last line zero) (.line ahead [])).length ≤ stream.unread.length) :
    Checked.Returns stream.acquireChunkLine (Taken message (.last line zero) ahead [] stream) := by
  have size : strtol16 (Position.nextLine (.last line zero) []).bytes = 0 := by
    show strtol16 line.bytes = 0
    rw [line.strtol16_bytes, zero]
    rfl
  have length : (Position.text (.last line zero) (.line ahead [])).length =
      (separator ahead).length + line.bytes.length + 4 := by
    rw [Position.text_line]
    simp only [List.length_append]
    show _ + line.bytes.length + 2 + 2 = _
    omega
  have position : min ((skip stream (separator ahead).length).readPtr +
      (Position.nextLine (.last line zero) []).bytes.length + 4)
          (skip stream (separator ahead).length).writePtr =
        stream.readPtr + ((separator ahead).length + line.bytes.length + 4) := by
    show min (stream.readPtr + (separator ahead).length + line.bytes.length + 4) stream.writePtr = _
    rw [length, unread_length] at received
    omega
  rw [@acquireChunkLine_found _ _ (.last line zero) ahead [] scannable rest line.hasNumber whole, size]
  dsimp only
  rw [if_pos (by decide), if_pos rfl, position]
  have read := unread_skip received
  rw [length] at read
  rw [Checked.returns_bind]
  have present : (skip stream ((separator ahead).length + line.bytes.length + 4)).msg = some message := takes.holds
  have ready : Checked.Returns (skip stream ((separator ahead).length + line.bytes.length + 4)).messageReady
      (Readies message (skip stream ((separator ahead).length + line.bytes.length + 4))) :=
    messageReady_readies scannable.inside present
  refine ready.mono fun ended readies => ?_
  rw [Checked.returns_ok]
  refine .last line zero rfl readies.inBounds readies.state readies.msg ?_ received ?_
  · rw [readies.incomingMessages]
    show _ ++ [(message, stream.body)] = _ ++ [(message, stream.body ++ content [])]
    rw [content, List.flatMap_nil, List.append_nil]
    rfl
  · rw [readies.unread, read, length]

/-- A line with a number that is negative or too large for a `long` is rejected. -/
theorem acquireChunkLine_rejected {line : Line} {improper : line.Improper} (scannable : stream.Scannable)
    {rest : List UInt8} (whole : stream.unread = separator ahead ++ line.bytes ++ lineEnd ++ rest)
    (fits : (Ending.improper line improper).Fits 0 0) :
    Checked.Returns stream.acquireChunkLine (Taken message (.improper line improper) ahead [] stream) := by
  have bounded : strtol16 line.bytes < 0 ∨ strtol16 line.bytes = 9223372036854775807 := fits
  have number : HasNumber line.bytes := hasNumber_of_strtol16 (by omega)
  have rejected : ¬(0 ≤ strtol16 (Position.nextLine (.improper line improper) []).bytes ∧
      strtol16 (Position.nextLine (.improper line improper) []).bytes ≠ 9223372036854775807) := by
    show ¬(0 ≤ strtol16 line.bytes ∧ strtol16 line.bytes ≠ 9223372036854775807)
    omega
  have inside : (separator ahead).length ≤ stream.unread.length := by
    rw [whole]
    simp only [List.length_append]
    omega
  have length : (Position.text (.improper line improper) (.line ahead [])).length =
      (separator ahead).length + (Ending.improper line improper).text.length := by
    simp only [Position.text, ChunckedBody.text, chunksText, List.flatMap_nil, List.nil_append, List.length_append]
  rw [@acquireChunkLine_found _ _ (.improper line improper) ahead [] scannable rest number whole]
  dsimp only
  rw [if_neg rejected, Checked.returns_ok]
  refine .rejected line improper rfl (reset_inBounds scannable.inside) rfl rfl (rewind_incomingMessages _) ?_ ?_
  · rw [length, Ending.text, whole]
    simp only [Ending.line, Ending.behind, List.length_append, List.length_nil]
    omega
  · rw [length, Nat.add_sub_cancel]
    show (skip stream (separator ahead).length).rewind.unread = _
    rw [rewind_unread, unread_skip inside]

theorem acquireChunkLine_taken (takes : Takes message ending tail (.line ahead chunks) stream)
    (scannable : stream.Scannable)
    (fits : ending.Fits stream.unread.length (Position.text ending (.line ahead chunks)).length) :
    Checked.Returns stream.acquireChunkLine (Taken message ending ahead chunks stream) := by
  by_cases rests : (Position.line ahead chunks).Rests ending stream
  · refine (acquireChunkLine_short takes scannable rests).mono ?_
    rintro _ ⟨after, rfl, outcome⟩
    exact outcome
  · have long : (separator ahead).length + (Position.nextLine ending chunks).bytes.length + 2 ≤
        stream.unread.length := Nat.le_of_not_lt rests
    have comes := takes.comes
    rw [Position.text_line, List.append_assoc] at comes
    obtain ⟨rest, whole, -⟩ := prefix_split comes (by
      rw [List.length_append, List.length_append]
      exact long)
    cases chunks with
    | cons chunk chunks => exact acquireChunkLine_chunk takes scannable whole
    | nil =>
        cases ending with
        | last line zero =>
            refine acquireChunkLine_last takes scannable whole (fits.resolve_left ?_)
            rw [Position.text_line, whole]
            simp only [Position.nextLine, Position.behind, Ending.line, Ending.behind, List.length_append]
            have two : lineEnd.length = 2 := rfl
            omega
        | improper line improper => exact acquireChunkLine_rejected scannable whole fits

variable {left : List UInt8}

/-- What the parser makes of the data of a chunk: more bytes are needed, or the loop goes on behind the chunk. -/
def Read (message : Message) (ending : Ending) (tail left : List UInt8) (chunks : List Chunk)
    (stream : InputStream Message) (acquired : InputStream Message × Bool) : Prop :=
  ∃ next, Advances ending (.data left chunks) next stream acquired.1 ∧ Takes message ending tail next acquired.1 ∧
    (acquired.2 = true → next = .line true chunks ∧ acquired.1.Scannable) ∧
    (acquired.2 = false → next.Rests ending acquired.1)

/-- The whole rest of the chunk has been received. -/
theorem read_whole {fed : InputStream Message} {size : Int}
    (takes : Takes message ending tail (.data left chunks) stream) (inside : left.length ≤ stream.unread.length)
    (feeds : Feeds left.length stream fed) :
    Read message ending tail left chunks stream ({ fed with
      chunkReadSize := size, contentLength := fed.contentLength + fed.chunkSize, chunkSize := -1 },
      decide (fed.readPtr < fed.writePtr)) := by
  have comes := takes.comes
  rw [Position.text, List.append_assoc, List.append_assoc] at comes
  obtain ⟨more, same, -⟩ := prefix_split comes inside
  have unread : fed.unread = more := by
    rw [feeds.unread, same, List.drop_left]
  have body : fed.body = stream.body ++ left := by
    rw [feeds.body, same, List.take_left]
  have advances : Advances ending (.data left chunks) (.line true chunks) stream { fed with
      chunkReadSize := size, contentLength := fed.contentLength + fed.chunkSize, chunkSize := -1 } := by
    refine ⟨⟨left, ?_, ?_⟩, ?_, feeds.incomingMessages⟩
    · rw [same]
      exact congrArg (left ++ ·) unread.symm
    · exact List.append_assoc left lineEnd _
    · show fed.body ++ content chunks = stream.body ++ (left ++ content chunks)
      rw [body, List.append_assoc]
  refine ⟨.line true chunks, advances, ?_, ?_, ?_⟩
  · exact ⟨{ feeds.inBounds with }, feeds.state.trans takes.state, feeds.msg.trans takes.holds,
      feeds.chunckedMode.trans takes.chunked, rfl, advances.comes takes.comes⟩
  · intro goesOn
    have unread := of_decide_eq_true goesOn
    exact ⟨rfl, feeds.inBounds.ordered, feeds.inBounds.inside, feeds.inBounds.terminated unread⟩
  · intro stops
    have empty : fed.unread = [] := unread_eq_nil_iff.mpr (Nat.le_of_not_lt (of_decide_eq_false stops))
    show fed.unread.length < _
    rw [empty]
    exact Nat.succ_pos _

/-- A part of the rest of the chunk has been received. -/
theorem read_part {fed : InputStream Message} {size : Int}
    (takes : Takes message ending tail (.data left chunks) stream) (short : stream.unread.length < left.length)
    (feeds : Feeds stream.unread.length stream fed) (sizes : size = stream.chunkReadSize + stream.unread.length) :
    Read message ending tail left chunks stream ({ fed with chunkReadSize := size }, false) := by
  have comes := takes.comes
  rw [Position.text, List.append_assoc, List.append_assoc] at comes
  obtain ⟨more, rfl⟩ := List.prefix_of_prefix_length_le comes (List.prefix_append left _) (Nat.le_of_lt short)
  have unread : fed.unread = [] := by
    rw [feeds.unread, List.drop_length]
  have body : fed.body = stream.body ++ stream.unread := by
    rw [feeds.body, List.take_length]
  have advances : Advances ending (.data (stream.unread ++ more) chunks) (.data more chunks) stream
      { fed with chunkReadSize := size } := by
    refine ⟨⟨stream.unread, ?_, ?_⟩, ?_, feeds.incomingMessages⟩
    · show stream.unread = stream.unread ++ fed.unread
      rw [unread, List.append_nil]
    · rw [Position.text, List.append_assoc, List.append_assoc, Position.text, List.append_assoc]
    · show fed.body ++ (more ++ content chunks) = stream.body ++ (stream.unread ++ more ++ content chunks)
      rw [body, List.append_assoc, List.append_assoc]
  obtain ⟨nonempty, reads, rest⟩ := takes.stands
  rw [List.length_append] at short rest
  refine ⟨.data more chunks, advances, ?_, fun goesOn => absurd goesOn Bool.false_ne_true, fun _ => unread⟩
  refine ⟨{ feeds.inBounds with }, feeds.state.trans takes.state, feeds.msg.trans takes.holds,
    feeds.chunckedMode.trans takes.chunked, ⟨?_, ?_, ?_⟩, advances.comes takes.comes⟩
  · rintro rfl
    simp at short
  · show fed.chunkSize ≠ -1
    rw [feeds.chunkSize]
    exact reads
  · show fed.chunkSize - size = more.length
    rw [feeds.chunkSize, sizes]
    omega

theorem acquireChunk_read (takes : Takes message ending tail (.data left chunks) stream) :
    Checked.Returns stream.acquireChunk (Read message ending tail left chunks stream) := by
  obtain ⟨nonempty, reads, rest⟩ := takes.stands
  have positive := List.length_pos_iff.mpr nonempty
  have available := unread_length stream
  have ordered := takes.inBounds.ordered
  by_cases whole : left.length ≤ stream.unread.length
  · have size : min ((stream.writePtr : Int) - stream.readPtr) (stream.chunkSize - stream.chunkReadSize) =
        left.length := by omega
    rw [acquireChunk]
    simp only [size]
    rw [if_pos (by omega), if_pos (by omega), Checked.returns_bind, Int.toNat_natCast]
    refine (feedBody_feeds (by omega) takes.inBounds.inside).mono fun fed feeds => ?_
    have complete : fed.chunkSize = stream.chunkReadSize + left.length := by
      rw [feeds.chunkSize]
      omega
    rw [if_pos complete, Checked.returns_pure]
    exact read_whole takes whole feeds
  · have size : min ((stream.writePtr : Int) - stream.readPtr) (stream.chunkSize - stream.chunkReadSize) =
        stream.unread.length := by omega
    rw [acquireChunk]
    simp only [size]
    by_cases none : stream.unread.length = 0
    · have fed : Feeds stream.unread.length stream stream := by
        have empty : stream.unread = [] := List.eq_nil_of_length_eq_zero none
        rw [none]
        exact ⟨takes.inBounds, rfl, rfl, rfl, rfl, rfl, rfl, (List.append_nil _).symm, rfl⟩
      rw [if_neg (by omega), if_neg (by omega), pure_bind, if_neg (by omega), Checked.returns_pure]
      exact read_part takes (by omega) fed (by omega)
    · rw [if_pos (by omega), if_pos (by omega), Checked.returns_bind, Int.toNat_natCast]
      refine (feedBody_feeds (by omega) takes.inBounds.inside).mono fun fed feeds => ?_
      have more : ¬fed.chunkSize = stream.chunkReadSize + stream.unread.length := by
        rw [feeds.chunkSize]
        omega
      rw [if_neg more, Checked.returns_pure]
      exact read_part takes (by omega) feeds rfl

/-- The loop over a chunked body. -/
theorem acquireChunckedBody_outcome (rounds : Nat) {position : Position}
    (takes : Takes message ending tail position stream) (scannable : stream.Scannable)
    (fits : ending.Fits stream.unread.length (position.text ending).length)
    (enough : stream.unread.length + (if stream.chunkSize = -1 then 0 else 1) < rounds) :
    Checked.Returns (acquireChunckedBody rounds stream) (Outcome message ending position stream) := by
  induction rounds generalizing stream position with
  | zero => omega
  | succ rounds ih =>
      have readData : ∀ {left : List UInt8} {chunks : List Chunk} {stream : InputStream Message},
          Takes message ending tail (.data left chunks) stream →
          ending.Fits stream.unread.length (Position.text ending (.data left chunks)).length →
          stream.unread.length < rounds →
          Checked.Returns (stream.acquireChunk >>= fun acquired =>
            if acquired.2 then acquireChunckedBody rounds acquired.1 else pure acquired)
            (Outcome message ending (.data left chunks) stream) := by
        intro left chunks stream takes fits fewer
        rw [Checked.returns_bind]
        refine (acquireChunk_read takes).mono ?_
        rintro ⟨acquired, goesOn⟩ ⟨next, advances, takesNext, again, stops⟩
        dsimp only at advances takesNext again stops ⊢
        cases goesOn with
        | true =>
            obtain ⟨rfl, scannable⟩ := again rfl
            obtain ⟨taken, unread, -⟩ := advances.read
            rw [if_pos rfl]
            refine (ih takesNext scannable (advances.fits fits) ?_).mono fun _ outcome => outcome.advance advances
            have waits : acquired.chunkSize = -1 := takesNext.stands
            rw [if_pos waits]
            rw [unread, List.length_append] at fewer
            omega
        | false =>
            rw [if_neg (by decide), Checked.returns_pure]
            exact .more advances takesNext.inBounds takesNext.state takesNext.holds takesNext.chunked takesNext.stands
              (stops rfl)
      rw [acquireChunckedBody]
      cases position with
      | data left chunks =>
          have reads : stream.chunkSize ≠ -1 := takes.stands.2.1
          rw [if_neg reads] at enough ⊢
          rw [pure_bind]
          exact readData takes fits (by omega)
      | line ahead chunks =>
          have waits : stream.chunkSize = -1 := takes.stands
          rw [if_pos waits] at enough ⊢
          rw [Checked.returns_bind]
          refine (acquireChunkLine_taken takes scannable fits).mono fun line taken => ?_
          cases line with
          | returns after goOn => exact Checked.returns_pure.mpr taken
          | chunk next =>
              obtain ⟨chunk, rest, advances, scannable, state, holds, chunked, stands, fewer⟩ := taken
              have takesNext : Takes message ending tail (.data chunk.data rest) next :=
                ⟨scannable.inBounds, state, holds, chunked, stands, advances.comes takes.comes⟩
              refine (readData takesNext (advances.fits fits) (by omega)).mono fun _ outcome => ?_
              exact outcome.advance advances

end

end BelleSip.ChunckedBody
