import BelleSip.Channel.Reception

/-
This file proves when the messages that a channel reads do not depend on the pieces in which their bytes arrive.
-/

namespace BelleSip

open Foundation

namespace InputStream

variable {Message : Type} {parser : MessageParser Message} {stream : InputStream Message} {arrival : Arrival Message}

/-- What the input stream has read of the messages that are pending. -/
inductive Reads (pending : List (Arrival Message)) (held : List UInt8) (stream : InputStream Message) : Prop where
  | waiting (state : stream.state = .waitingMessageStart) (read : stream.readPtr = 0) (unread : stream.unread = held)
  | acquiring {arrival : Arrival Message} {rest : List (Arrival Message)} (first : pending = arrival :: rest)
      (state : stream.state = .messageAquisition) (written : stream.writePtr = held.length)
      (begun : arrival.start < held.length) (unread : stream.unread = held.drop arrival.start)
  | body {arrival : Arrival Message} {rest : List (Arrival Message)} (first : pending = arrival :: rest)
      (state : stream.state = .bodyAquisition) (holds : stream.msg = some arrival.message)
      (length : stream.contentLength = arrival.body.length) (short : stream.body.length < arrival.body.length)
      (written : stream.body = [] → stream.writePtr = held.length)
      (bytes : held = arrival.front ++ arrival.header ++ (stream.body ++ stream.unread))

/-- The parser rests between two pieces. -/
structure Rests (reception : Reception Message) (stream : InputStream Message) : Prop where
  inBounds : stream.InBounds
  plain : stream.chunckedMode = false
  reads : Reads reception.pending reception.held stream
  settled : Reassembly.Partial Arrival.text reception.pending reception.held
  room : stream.writePtr + reception.room = networkBufferSize - 1

/-- What a round does: it delivers the first message, or it leaves the parser at rest. -/
inductive Rounded (pending : List (Arrival Message)) (held : List UInt8) (before : InputStream Message) :
    InputStream Message × Bool → Prop where
  | delivers {arrival : Arrival Message} {rest : List (Arrival Message)} {more : List UInt8}
      {after : InputStream Message} (first : pending = arrival :: rest) (whole : held = arrival.text ++ more)
      (inBounds : after.InBounds) (plain : after.chunckedMode = false) (state : after.state = .waitingMessageStart)
      (read : after.readPtr = 0) (unread : after.unread = more) (fewer : more.length < before.unread.length)
      (incomingMessages : after.incomingMessages = before.incomingMessages ++ [arrival.delivered]) :
      Rounded pending held before (after, true)
  | rests {arrival : Arrival Message} {rest : List (Arrival Message)} {after : InputStream Message}
      (first : pending = arrival :: rest) (short : held.length < arrival.text.length)
      (rests : Rests (Reception.dropFront { pending := pending, held := held }) after)
      (incomingMessages : after.incomingMessages = before.incomingMessages) :
      Rounded pending held before (after, false)

theorem parseRound_waiting (state : stream.state = .waitingMessageStart) :
    stream.parseRound parser false =
      stream.awaitStart parser (stream.writePtr - stream.readPtr)
          (List.range (stream.writePtr - stream.readPtr - 1)) >>=
        fun started => if started.2 then do
          let acquired ←
            if started.1.state = .messageAquisition then started.1.acquireMessage parser else pure (started.1, .body)
          endRound acquired false
        else return (started.1, false) := by
  simp only [parseRound, state, if_true]

theorem parseRound_acquiring (state : stream.state = .messageAquisition) :
    stream.parseRound parser false = stream.acquireMessage parser >>= fun acquired => endRound acquired false := by
  simp only [parseRound, state, reduceCtorEq, if_false, if_true, pure_bind]

theorem parseRound_body (state : stream.state = .bodyAquisition) :
    stream.parseRound parser false = stream.acquireBody false := by
  simp only [parseRound, state, reduceCtorEq, if_false, if_true, pure_bind, endRound]

end InputStream

namespace Arrival

variable {Message : Type} {arrival : Arrival Message} {rest : List (Arrival Message)} {held tail : List UInt8}

theorem text_length : arrival.text.length = arrival.bodyStart + arrival.body.length := by
  simp only [text, bodyStart, List.length_append]

theorem front_lt (arrival : Arrival Message) : arrival.front.length < arrival.bodyStart := by
  simp only [bodyStart, header, List.length_append, List.length_cons]
  omega

theorem text_withFront (arrival : Arrival Message) (front : List UInt8) :
    { arrival with front := front }.text = front ++ arrival.header ++ arrival.body := rfl

theorem text_pos (arrival : Arrival Message) : 0 < arrival.text.length := by
  have behind := arrival.front_lt
  rw [text_length]
  omega

/-- The message that reads the bytes behind the header section is in the text of the arrivals. -/
theorem split_header (begins : held <+: (arrival :: rest).flatMap text) (whole : arrival.bodyStart ≤ held.length) :
    ∃ tail, held = arrival.front ++ arrival.header ++ tail ∧ tail <+: arrival.body ++ rest.flatMap text := by
  rw [List.flatMap_cons, text, List.append_assoc (arrival.front ++ arrival.header)] at begins
  obtain ⟨tail, rfl⟩ := List.prefix_of_prefix_length_le (List.prefix_append _ _) begins (by
    rw [List.length_append]
    exact whole)
  exact ⟨tail, rfl, (List.prefix_append_right_inj _).mp begins⟩

end Arrival

namespace InputStream

variable {Message : Type} {parser : MessageParser Message} {stream : InputStream Message} {arrival : Arrival Message}
  {rest : List (Arrival Message)} {held : List UInt8}

/-- No line ends are dropped once bytes of the message have been received. -/
theorem dropFront_begun (begun : arrival.front.length < held.length) :
    Reception.dropFront { pending := arrival :: rest, held := held } =
      { pending := arrival :: rest, held := held } := by
  simp only [Reception.dropFront]
  rw [if_neg]
  rintro ⟨before, _⟩
  exact Nat.not_le_of_lt begun before

/-- The bytes behind the header section are read in their round. -/
theorem BodyRead.rounded {before : InputStream Message} {bytes : List UInt8} {written : Nat}
    {result : InputStream Message × Bool} (begins : held <+: (arrival :: rest).flatMap Arrival.text)
    (split : held = arrival.front ++ arrival.header ++ bytes)
    (fewer : bytes.length < before.unread.length + arrival.body.length)
    (isWritten : bytes = [] → written = held.length)
    (read : BodyRead arrival.message arrival.body.length bytes before.incomingMessages written result) :
    Rounded (arrival :: rest) held before result := by
  have heldLength : held.length = arrival.bodyStart + bytes.length := by
    rw [split, Arrival.bodyStart, List.length_append, List.length_append]
  have onward : bytes <+: arrival.body ++ rest.flatMap Arrival.text := by
    rw [split, List.flatMap_cons, Arrival.text, List.append_assoc (arrival.front ++ arrival.header)] at begins
    exact (List.prefix_append_right_inj _).mp begins
  cases read with
  | ready enough inBounds state read plain unread incomingMessages =>
      obtain ⟨more, rfl⟩ := List.prefix_of_prefix_length_le (List.prefix_append _ _) onward enough
      rw [List.drop_left] at unread
      rw [List.take_left] at incomingMessages
      refine .delivers rfl ?_ inBounds plain state read unread ?_ incomingMessages
      · rw [split, Arrival.text, List.append_assoc (arrival.front ++ arrival.header)]
      · rw [List.length_append] at fewer
        omega
  | more short inBounds state holds length plain read body isWritten' incomingMessages =>
      have begun : arrival.front.length < held.length := by
        have behind := arrival.front_lt
        omega
      have textLength := arrival.text_length
      refine .rests rfl (by omega) ?_ incomingMessages
      rw [dropFront_begun begun]
      refine ⟨inBounds, plain, ?_, ⟨begins, ?_⟩, ?_⟩
      · refine .body rfl state holds length (by rw [body]; exact short) ?_ ?_
        · intro empty
          rw [body] at empty
          rw [isWritten', if_pos empty, isWritten empty]
        · rw [split, body, read, List.append_nil]
      · rintro first same
        cases same
        rw [textLength]
        simp only
        omega
      · simp only [Reception.room, isWritten']
        by_cases empty : bytes = []
        · have inside := inBounds.inside
          rw [isWritten', if_pos empty, isWritten empty] at inside
          rw [if_pos empty, isWritten empty, if_pos (by rw [heldLength, empty]; simp)]
          omega
        · have some_ := List.length_pos_of_ne_nil empty
          rw [if_neg empty, if_neg (by omega), Nat.zero_add]

/-- A round in which the start of a message has been found. -/
theorem acquiring_rounded (wellFormed : arrival.WellFormed parser) (inBounds : stream.InBounds)
    (plain : stream.chunckedMode = false) (begins : held <+: (arrival :: rest).flatMap Arrival.text)
    (state : stream.state = .messageAquisition) (written : stream.writePtr = held.length)
    (begun : arrival.start < held.length) (unread : stream.unread = held.drop arrival.start) :
    Checked.Returns (stream.acquireMessage parser >>= fun acquired => endRound acquired false)
      (Rounded (arrival :: rest) held stream) := by
  have some_ : 0 < stream.unread.length := by
    rw [unread, List.length_drop]
    omega
  have scannable : stream.Scannable := inBounds.scannable (by rw [unread_length] at some_; omega)
  have shownLength := wellFormed.shown_length
  have inHeader := wellFormed.header_long
  have isStart : arrival.start = arrival.front.length + arrival.line.offset := rfl
  have isBodyStart : arrival.bodyStart = arrival.front.length + arrival.header.length := rfl
  rcases Nat.lt_or_ge held.length arrival.bodyStart with short | whole
  · have textLength := arrival.text_length
    obtain ⟨more, isMore⟩ := Reassembly.prefix_short begins (by omega)
    have begins' : stream.unread <+: arrival.shown := by
      have inHeader' : held <+: arrival.front ++ arrival.header := by
        refine List.prefix_of_prefix_length_le ⟨more, isMore⟩ (List.prefix_append _ _) ?_
        rw [List.length_append]
        omega
      obtain ⟨left, isLeft⟩ := inHeader'
      refine ⟨left, ?_⟩
      rw [Arrival.shown, unread, ← List.drop_append_of_le_length (Nat.le_of_lt begun), isLeft, isStart,
        ← List.drop_drop, List.drop_left]
    have shorter : stream.unread.length < arrival.shown.length := by
      rw [unread, List.length_drop]
      omega
    rw [acquireMessage_waits wellFormed scannable begins' shorter]
    refine Checked.returns_ok.mpr (.rests rfl (by omega) ?_ rfl)
    rw [dropFront_begun (by omega)]
    refine ⟨inBounds, plain, .acquiring rfl state written begun unread, ⟨begins, ?_⟩, ?_⟩
    · rintro first same
      cases same
      exact Nat.lt_of_lt_of_le short (by omega)
    · have inside := inBounds.inside
      simp only [Reception.room]
      rw [if_pos (Nat.le_of_lt short), written]
      omega
  · obtain ⟨tail, isSplit, onward⟩ := Arrival.split_header begins whole
    have parts : stream.unread = arrival.shown ++ tail := by
      rw [unread, isSplit, List.append_assoc, isStart, ← List.drop_drop, List.drop_left,
        List.drop_append_of_le_length (by omega)]
      rfl
    rw [acquireMessage_parses wellFormed scannable parts]
    have left : stream.unread.length = arrival.shown.length + tail.length := by rw [parts, List.length_append]
    rw [unread_length] at left
    have inside := inBounds.inside
    have ordered := inBounds.ordered
    have moved : ({ stream with
        msg := some arrival.message
        readSize := arrival.shown.length
        readPtr := stream.readPtr + arrival.shown.length } : InputStream Message).unread = tail := by
      have shownInside : arrival.shown.length ≤ stream.unread.length := by
        rw [unread_length]
        omega
      have taken := stream.slice_advanced shownInside
      rw [parts, List.drop_left] at taken
      exact taken
    refine Checked.Returns.mono (acquireParsed_reads wellFormed ?_ rfl plain) ?_
    · exact ⟨by simp only; omega, inside, fun _ => scannable.terminated⟩
    · intro result read
      rw [moved] at read
      exact read.rounded begins isSplit (by rw [unread_length]; omega) fun _ => written

/-- A header section that has been received has the end of its start line in it. -/
theorem searched_of_whole (whole : arrival.bodyStart ≤ held.length)
    (begins : held <+: (arrival :: rest).flatMap Arrival.text) : Searched held := by
  obtain ⟨tail, isSplit, _⟩ := Arrival.split_header begins whole
  have isText : held = (arrival.front ++ arrival.line.text) ++ 13 :: 10 :: (arrival.fields ++ tail) := by
    simp [isSplit, Arrival.header]
  rw [isText]
  refine .inl ⟨(arrival.front ++ arrival.line.text).length, ?_, ?_, ?_⟩
  · simp only [List.length_append, List.length_cons]
    omega
  · rw [List.getD_eq_getElem?_getD, List.getElem?_append_right (Nat.le_refl _), Nat.sub_self]
    rfl
  · rw [List.getD_eq_getElem?_getD, List.getElem?_append_right (Nat.le_add_right _ 1), Nat.add_sub_cancel_left]
    rfl

/-- The start of a message is found when enough of it has been received. -/
theorem messageStart_enough (wellFormed : arrival.WellFormed parser)
    (begins : held <+: (arrival :: rest).flatMap Arrival.text)
    (enough : arrival.front.length + arrival.line.needed ≤ held.length) : messageStart held = some arrival.start := by
  have isText : (arrival :: rest).flatMap Arrival.text = arrival.front ++
      (arrival.line.text ++ 13 :: (10 :: (arrival.fields ++ (arrival.body ++ rest.flatMap Arrival.text)))) := by
    simp [Arrival.text, Arrival.header]
  rw [isText] at begins
  obtain ⟨bytes, rfl⟩ := List.prefix_of_prefix_length_le (List.prefix_append _ _) begins (by omega)
  rw [List.length_append] at enough
  exact messageStart_needed wellFormed.front wellFormed.line ((List.prefix_append_right_inj _).mp begins) (by omega)

/-- Enough of a message has been received when its header section has. -/
theorem enough_of_whole (wellFormed : arrival.WellFormed parser) (whole : arrival.bodyStart ≤ held.length) :
    arrival.front.length + arrival.line.needed ≤ held.length := by
  have needed := wellFormed.line.needed_le
  have header : arrival.line.text.length + 2 ≤ arrival.header.length := by
    simp only [Arrival.header, List.length_append, List.length_cons]
    omega
  have isBodyStart : arrival.bodyStart = arrival.front.length + arrival.header.length := rfl
  omega

/-- In line ends alone no message starts, and after they are trashed nothing is scanned. -/
theorem messageStart_blank (blank : ∀ byte ∈ held, byte = 13 ∨ byte = 10) : messageStart held = none := by
  rw [messageStart, List.find?_range_eq_none]
  intro position inside
  have within : position < held.length := by omega
  have isBlank := isLineEnd_blank (blank held[position] (List.getElem_mem within))
  rw [startsAt, List.getD_eq_getElem?_getD, List.getElem?_eq_getElem within, Option.getD_some,
    decide_eq_false (not_not_intro isBlank)]
  rfl

theorem not_scansTrash (read : stream.readPtr = 0) (blank : ∀ byte ∈ stream.unread, byte = 13 ∨ byte = 10) :
    ¬stream.ScansTrash (stream.writePtr - stream.readPtr) := by
  rintro ⟨position, inside, visible, _⟩
  have unreadThere : position < stream.writePtr - stream.readPtr := by omega
  have within : position < stream.unread.length := by
    rw [unread_length]
    exact unreadThere
  have isByte := unread_getD unreadThere
  rw [List.getD_eq_getElem?_getD, List.getElem?_eq_getElem within, Option.getD_some, read, Nat.zero_add] at isByte
  rw [← isByte] at visible
  exact visible (isLineEnd_blank (blank _ (List.getElem_mem within)))

theorem Rounded.of_moved {pending : List (Arrival Message)} {before moved : InputStream Message}
    {result : InputStream Message × Bool} (rounded : Rounded pending held moved result)
    (fewer : moved.unread.length ≤ before.unread.length)
    (same : moved.incomingMessages = before.incomingMessages) : Rounded pending held before result := by
  cases rounded with
  | delivers first whole inBounds plain state read unread less incomingMessages =>
      rw [same] at incomingMessages
      exact .delivers first whole inBounds plain state read unread (Nat.lt_of_lt_of_le less fewer) incomingMessages
  | rests first short rests incomingMessages => exact .rests first short rests (incomingMessages.trans same)

/-- A round in which the parser waits for the start of a message. -/
theorem waiting_rounded (scans : parser.startsMessage = startsMessage) (wellFormed : arrival.WellFormed parser)
    (inBounds : stream.InBounds) (plain : stream.chunckedMode = false)
    (begins : held <+: (arrival :: rest).flatMap Arrival.text) (state : stream.state = .waitingMessageStart)
    (read : stream.readPtr = 0) (unread : stream.unread = held) (some_ : stream.readPtr < stream.writePtr)
    (recognised : held.length < arrival.text.length → arrival.front.length < held.length → Searched held →
      arrival.front.length + arrival.line.needed ≤ held.length) :
    Checked.Returns (stream.parseRound parser false) (Rounded (arrival :: rest) held stream) := by
  have scannable := inBounds.scannable some_
  have written : stream.writePtr = held.length := by
    rw [← unread, unread_length, read, Nat.sub_zero]
  have textLength := arrival.text_length
  have behind := arrival.front_lt
  have searching := getMessageStartPos_eq scans scannable
  rw [unread] at searching
  rw [parseRound_waiting state]
  by_cases searched : Searched held
  · have ends := (searched_iff read).mp (by rw [unread]; exact searched)
    rcases Nat.lt_or_ge arrival.front.length held.length with begun | inFront
    · have enough : arrival.front.length + arrival.line.needed ≤ held.length := by
        rcases Nat.lt_or_ge held.length arrival.bodyStart with short | whole
        · exact recognised (by omega) begun searched
        · exact enough_of_whole wellFormed whole
      have found := messageStart_enough wellFormed begins enough
      rw [found] at searching
      rw [awaitStart_finds searching _ ends, Checked.ok_bind]
      simp only [if_true]
      have inside : arrival.start < held.length := by
        have among := (List.find?_range_eq_some.mp found).2.1
        rw [List.mem_range] at among
        omega
      refine Checked.Returns.mono (acquiring_rounded wellFormed ?_ plain begins rfl written inside ?_) ?_
      · exact ⟨by simp only; omega, inBounds.inside, fun _ => scannable.terminated⟩
      · rw [← unread]
        exact stream.slice_advanced (by rw [unread]; omega)
      · refine fun result rounded => rounded.of_moved ?_ rfl
        simp only [unread_length]
        omega
    · obtain ⟨more, isFront⟩ := List.prefix_of_prefix_length_le (Reassembly.prefix_short begins (by omega))
        (List.IsPrefix.trans (List.prefix_append _ _) (List.prefix_append _ _)) inFront
      have blank : ∀ byte ∈ held, byte = 13 ∨ byte = 10 := fun byte among =>
        wellFormed.front byte (isFront ▸ List.mem_append_left more among)
      rw [messageStart_blank blank] at searching
      have unscanned := stream.not_scansTrash read (by rw [unread]; exact blank)
      obtain ⟨⟨trashed, goesOn⟩, returned, isTrashed, rfl⟩ := awaitStart_trashes searching unscanned _ ends
      obtain ⟨incomingMessages, trashedPlain⟩ := (awaitStart_keeps _ _ plain).elim returned
      rw [returned, Checked.ok_bind]
      refine Checked.returns_ok.mpr (.rests rfl (by omega) ?_ incomingMessages)
      simp only [Reception.dropFront]
      rw [if_pos ⟨inFront, searched⟩]
      have nothing : trashed.unread = [] := unread_eq_nil_iff.mpr (by rw [isTrashed.read, isTrashed.written])
      refine ⟨isTrashed.inBounds, trashedPlain, .waiting isTrashed.waits isTrashed.read nothing,
        ⟨List.nil_prefix, ?_⟩, ?_⟩
      · rintro first same
        cases same
        exact Arrival.text_pos _
      · rw [isTrashed.written]
        simp [Reception.room]
  · have skips : ∀ position ∈ List.range (stream.writePtr - stream.readPtr - 1), stream.endsLine position = false := by
      intro position among
      rw [Bool.eq_false_iff]
      intro ends
      exact searched (unread ▸ (searched_iff read).mpr ⟨position, among, ends⟩)
    have short : held.length < arrival.bodyStart := Nat.lt_of_not_le fun whole =>
      searched (searched_of_whole whole begins)
    rw [awaitStart_skips _ _ skips, Checked.ok_bind]
    refine Checked.returns_ok.mpr (.rests rfl (by omega) ?_ rfl)
    simp only [Reception.dropFront]
    rw [if_neg fun both => searched both.2]
    refine ⟨inBounds, plain, .waiting state read unread, ⟨begins, ?_⟩, ?_⟩
    · rintro first same
      cases same
      rw [textLength]
      exact Nat.lt_of_lt_of_le short (Nat.le_add_right _ _)
    · have inside := inBounds.inside
      simp only [Reception.room]
      rw [if_pos (Nat.le_of_lt short), written]
      omega

/-- A round of the parser over bytes that have not been read. -/
theorem parseRound_rounded {pending : List (Arrival Message)} (scans : parser.startsMessage = startsMessage)
    (wellFormed : ∀ arrival ∈ pending, arrival.WellFormed parser) (inBounds : stream.InBounds)
    (plain : stream.chunckedMode = false) (begins : held <+: pending.flatMap Arrival.text)
    (reads : Reads pending held stream) (some_ : stream.readPtr < stream.writePtr)
    (recognised : ∀ arrival ∈ pending.head?, held.length < arrival.text.length →
      arrival.front.length < held.length → Searched held →
      arrival.front.length + arrival.line.needed ≤ held.length) :
    Checked.Returns (stream.parseRound parser false) (Rounded pending held stream) := by
  cases reads with
  | waiting state read unread =>
      cases pending with
      | nil =>
          have nothing : held = [] := List.prefix_nil.mp begins
          rw [nothing, unread_eq_nil_iff] at unread
          omega
      | cons arrival rest =>
          exact waiting_rounded scans (wellFormed arrival List.mem_cons_self) inBounds plain begins state read unread
            some_ (recognised arrival rfl)
  | acquiring first state written begun unread =>
      subst first
      rw [parseRound_acquiring state]
      exact acquiring_rounded (wellFormed _ List.mem_cons_self) inBounds plain begins state written begun unread
  | body first state holds length short written bytes =>
      subst first
      have small := (wellFormed _ List.mem_cons_self).small
      rw [parseRound_body state, acquireBody, plain]
      refine Checked.Returns.mono (acquireBodySimple_reads inBounds state holds length plain small short) ?_
      refine fun result read => read.rounded begins bytes ?_ ?_
      · rw [List.length_append]
        omega
      · intro empty
        exact written (List.append_eq_nil_iff.mp empty).1

end InputStream

namespace Reception

variable {Message : Type} {parser : MessageParser Message} {reception : Reception Message}

theorem not_searched_nil : ¬Searched [] := by
  decide

/-- The parser rests at the messages that are not complete. -/
def settled (pending : List (Arrival Message)) (held : List UInt8) : Reception Message :=
  { pending := (Reassembly.settle Arrival.text pending held).1,
    held := (Reassembly.settle Arrival.text pending held).2 }

theorem dropFront_settled_nil (pending : List (Arrival Message)) :
    (settled pending []).dropFront = { pending := pending } := by
  cases pending with
  | nil => rfl
  | cons arrival rest =>
      have short : ([] : List UInt8).length < arrival.text.length := arrival.text_pos
      rw [settled, Reassembly.settle_short short]
      simp only [dropFront]
      rw [if_neg fun both => not_searched_nil both.2]

theorem room_nil (pending : List (Arrival Message)) :
    room { pending := pending } = networkBufferSize - 1 := by
  cases pending with
  | nil => rfl
  | cons arrival rest => simp [room]

theorem map_dropFront (reception : Reception Message) :
    reception.dropFront.pending.map Arrival.delivered = reception.pending.map Arrival.delivered := by
  obtain ⟨pending, held⟩ := reception
  cases pending with
  | nil => rfl
  | cons arrival rest =>
      simp only [dropFront]
      split <;> rfl

end Reception

namespace InputStream

variable {Message : Type} {parser : MessageParser Message} {stream : InputStream Message}
  {pending : List (Arrival Message)} {held : List UInt8}

/-- What a call leaves, and all the messages that are to be delivered. -/
structure Parsed (reception : Reception Message) (before : List (Message × List UInt8)) (stream : InputStream Message) :
    Prop where
  rests : Rests reception stream
  accounts : stream.incomingMessages ++ reception.pending.map Arrival.delivered = before

/-- The parser goes through all bytes that have been received. -/
theorem parseStream_parsed (scans : parser.startsMessage = startsMessage) (rounds : Nat)
    (wellFormed : ∀ arrival ∈ pending, arrival.WellFormed parser) (inBounds : stream.InBounds)
    (plain : stream.chunckedMode = false) (begins : held <+: pending.flatMap Arrival.text)
    (reads : Reads pending held stream) (some_ : stream.readPtr < stream.writePtr ∨ stream.state = .waitingMessageStart)
    (enough : stream.unread.length < rounds)
    (recognised : ∀ arrival ∈ (Reception.settled pending held).pending.head?,
      arrival.front.length < (Reception.settled pending held).held.length →
      Searched (Reception.settled pending held).held →
      arrival.front.length + arrival.line.needed ≤ (Reception.settled pending held).held.length) :
    Checked.Returns (parseStream parser rounds stream false)
      (Parsed (Reception.settled pending held).dropFront
        (stream.incomingMessages ++ pending.map Arrival.delivered)) := by
  induction rounds generalizing pending held stream with
  | zero => omega
  | succ rounds ih =>
      rw [parseStream]
      by_cases unread : stream.readPtr < stream.writePtr
      · rw [if_pos unread]
        have recognisedFirst : ∀ arrival ∈ pending.head?, held.length < arrival.text.length →
            arrival.front.length < held.length → Searched held →
            arrival.front.length + arrival.line.needed ≤ held.length := by
          intro arrival among short
          cases pending with
          | nil => cases among
          | cons first rest =>
              cases among
              simp only [Reception.settled, Reassembly.settle_short short] at recognised
              exact recognised _ rfl
        obtain ⟨⟨after, goesOn⟩, returned, rounded⟩ :=
          parseRound_rounded scans wellFormed inBounds plain begins reads unread recognisedFirst
        rw [returned, Checked.ok_bind]
        cases rounded with
        | delivers first whole afterInBounds afterPlain state read afterUnread fewer incomingMessages =>
            rename_i arrival rest more
            subst first whole
            have settles : Reception.settled (arrival :: rest) (arrival.text ++ more) =
                Reception.settled rest more := by
              rw [Reception.settled, Reassembly.settle_whole (by simp), List.drop_left]
              rfl
            rw [settles] at recognised ⊢
            have onward : more <+: rest.flatMap Arrival.text := by
              rw [List.flatMap_cons] at begins
              exact (List.prefix_append_right_inj _).mp begins
            have less : after.unread.length < rounds := by
              rw [afterUnread]
              omega
            refine Checked.Returns.mono (ih (fun other among => wellFormed other (List.mem_cons_of_mem _ among))
              afterInBounds afterPlain onward (.waiting state read afterUnread) (.inr state) less recognised) ?_
            intro final parsed
            refine ⟨parsed.rests, ?_⟩
            rw [parsed.accounts, incomingMessages, List.map_cons, List.append_assoc]
            rfl
        | rests first short rests incomingMessages =>
            subst first
            refine Checked.returns_pure.mpr ⟨?_, ?_⟩
            · rw [Reception.settled, Reassembly.settle_short short]
              exact rests
            · rw [Reception.map_dropFront, Reception.settled, Reassembly.settle_short short, incomingMessages]
      · rw [if_neg unread]
        have state := some_.resolve_left unread
        have read : stream.readPtr = 0 ∧ stream.unread = held := by
          cases reads with
          | waiting _ read unread => exact ⟨read, unread⟩
          | acquiring _ other => rw [state] at other; cases other
          | body _ other => rw [state] at other; cases other
        have nothing : held = [] := by rw [← read.2, unread_eq_nil_iff]; omega
        subst nothing
        have settles : (Reception.settled pending []).dropFront = { pending := pending } :=
          Reception.dropFront_settled_nil pending
        refine Checked.returns_pure.mpr ⟨?_, ?_⟩
        · rw [settles]
          refine ⟨inBounds, plain, .waiting state read.1 read.2, ⟨List.nil_prefix, ?_⟩, ?_⟩
          · exact fun arrival _ => arrival.text_pos
          · have written : stream.writePtr = 0 := by omega
            rw [written, Reception.room_nil, Nat.zero_add]
        · rw [settles]

/-- The stream with a piece in its buffer. -/
def append (stream : InputStream Message) (piece : List UInt8) : InputStream Message :=
  { stream with
    buff := Function.update
      (fun position =>
        if stream.writePtr ≤ position ∧ position < stream.writePtr + piece.length then
          piece.getD (position - stream.writePtr) 0
        else stream.buff position)
      (stream.writePtr + piece.length) 0
    writePtr := stream.writePtr + piece.length
    readSize := 0 }

theorem append_unread {piece : List UInt8} (ordered : stream.readPtr ≤ stream.writePtr) :
    (stream.append piece).unread = stream.unread ++ piece := by
  have before : (stream.append piece).slice stream.readPtr (stream.writePtr - stream.readPtr) = stream.unread := by
    refine List.map_congr_left fun position among => ?_
    have inside := List.mem_range'_1.mp among
    have other : position ≠ stream.writePtr + piece.length := by omega
    simp only [append, Function.update_of_ne other]
    rw [if_neg (by omega)]
  have behind : (stream.append piece).slice stream.writePtr piece.length = piece := by
    apply List.ext_getElem (slice_length _ _)
    intro index below within
    have other : stream.writePtr + index ≠ stream.writePtr + piece.length := by omega
    simp only [slice, append, List.getElem_map, List.getElem_range', Nat.one_mul, Function.update_of_ne other]
    rw [if_pos (by omega), Nat.add_sub_cancel_left, List.getD_eq_getElem?_getD, List.getElem?_eq_getElem within,
      Option.getD_some]
  have size : (stream.append piece).writePtr - (stream.append piece).readPtr =
      stream.writePtr - stream.readPtr + piece.length := by
    simp only [append]
    omega
  have reaches : stream.readPtr + (stream.writePtr - stream.readPtr) = stream.writePtr := by omega
  rw [unread, size, slice_append]
  change (stream.append piece).slice stream.readPtr _ ++ (stream.append piece).slice (stream.readPtr + _) _ = _
  rw [reaches, before, behind]

theorem append_inBounds {piece : List UInt8} (inBounds : stream.InBounds)
    (inside : stream.writePtr + piece.length < networkBufferSize) : (stream.append piece).InBounds where
  ordered := Nat.le_trans inBounds.ordered (Nat.le_add_right _ _)
  inside := inside
  terminated _ := by simp [append]

/-- A piece that fits is stored as a whole before the stream is parsed. -/
theorem receive_eq {piece : List UInt8} (some_ : piece ≠ [])
    (fits : stream.writePtr + piece.length < networkBufferSize) :
    stream.receive parser piece =
      parseStream parser (stream.writePtr + piece.length + 1) (stream.append piece) false := by
  have length : stream.buffLength = networkBufferSize - stream.writePtr := rfl
  have positive := List.length_pos_of_ne_nil some_
  have all : piece.take (stream.buffLength - 1).toNat = piece := List.take_of_length_le (by omega)
  simp only [receive, Reading.processReadData]
  rw [if_neg (by omega)]
  simp only [all, positive, if_true, Checked.ok_bind]
  rfl

/-- What has been read with one more piece. -/
theorem Reads.append {piece : List UInt8} (reads : Reads pending held stream)
    (ordered : stream.readPtr ≤ stream.writePtr) :
    Reads pending (held ++ piece) (stream.append piece) := by
  cases reads with
  | waiting state read unread => exact .waiting state read (by rw [append_unread ordered, unread])
  | acquiring first state written begun unread =>
      refine .acquiring first state ?_ ?_ ?_
      · rw [List.length_append, ← written]
        rfl
      · rw [List.length_append]
        omega
      · rw [append_unread ordered, unread, List.drop_append_of_le_length (Nat.le_of_lt begun)]
  | body first state holds length short written bytes =>
      refine .body first state holds length short ?_ ?_
      · intro empty
        rw [List.length_append, ← written empty]
        rfl
      · rw [append_unread ordered, bytes]
        simp [InputStream.append]

/-- A piece that fits is parsed. -/
theorem receive_parsed {reception : Reception Message} {piece : List UInt8}
    (scans : parser.startsMessage = startsMessage)
    (wellFormed : ∀ arrival ∈ reception.pending, arrival.WellFormed parser) (rests : Rests reception stream)
    (begins : reception.held ++ piece <+: reception.pending.flatMap Arrival.text) (fits : reception.Fits piece)
    (recognised : reception.Recognised piece) :
    Checked.Returns (stream.receive parser piece)
      (Parsed (reception.receive piece) (stream.incomingMessages ++ reception.pending.map Arrival.delivered)) := by
  have size : networkBufferSize = 65535 := rfl
  have room := rests.room
  have inside : stream.writePtr + piece.length < networkBufferSize := by
    have atMost := fits.2
    omega
  have positive := List.length_pos_of_ne_nil fits.1
  have ordered := rests.inBounds.ordered
  have written : (stream.append piece).writePtr = stream.writePtr + piece.length := rfl
  have read : (stream.append piece).readPtr = stream.readPtr := rfl
  rw [receive_eq fits.1 inside]
  refine parseStream_parsed scans _ wellFormed (append_inBounds rests.inBounds inside) rests.plain begins
    (rests.reads.append ordered) (.inl ?_) ?_ recognised
  · omega
  · rw [unread_length]
    omega

end InputStream

namespace Reception

variable {Message : Type} {parser : MessageParser Message} {reception : Reception Message} {piece later : List UInt8}

theorem dropFront_wellFormed (wellFormed : ∀ arrival ∈ reception.pending, arrival.WellFormed parser) :
    ∀ arrival ∈ reception.dropFront.pending, arrival.WellFormed parser := by
  obtain ⟨pending, held⟩ := reception
  cases pending with
  | nil => exact wellFormed
  | cons first rest =>
      simp only [dropFront]
      split
      · intro arrival among
        rcases List.mem_cons.mp among with rfl | later
        · have whole := wellFormed first List.mem_cons_self
          exact { whole with front := fun byte inFront => whole.front byte (List.mem_of_mem_drop inFront) }
        · exact wellFormed arrival (List.mem_cons_of_mem first later)
      · exact wellFormed

theorem receive_wellFormed (wellFormed : ∀ arrival ∈ reception.pending, arrival.WellFormed parser) :
    ∀ arrival ∈ (reception.receive piece).pending, arrival.WellFormed parser :=
  dropFront_wellFormed fun arrival among => wellFormed arrival (Reassembly.mem_of_settled among)

/-- The line ends that are dropped are those in front of the first message. -/
theorem dropFront_text (begins : reception.held ++ later = reception.pending.flatMap Arrival.text) :
    reception.dropFront.held ++ later = reception.dropFront.pending.flatMap Arrival.text := by
  obtain ⟨pending, held⟩ := reception
  cases pending with
  | nil => exact begins
  | cons first rest =>
      simp only [dropFront]
      split
      next drops =>
        have inFront : held <+: first.front := by
          refine List.prefix_of_prefix_length_le ⟨later, begins⟩ ?_ drops.1
          rw [List.flatMap_cons, Arrival.text, List.append_assoc, List.append_assoc]
          exact List.prefix_append _ _
        obtain ⟨more, isFront⟩ := inFront
        have left : first.front.drop held.length = more := by rw [← isFront, List.drop_left]
        simp only at begins
        rw [List.flatMap_cons, Arrival.text, ← isFront] at begins
        simp only [List.append_assoc] at begins
        rw [List.append_cancel_left begins, left, List.flatMap_cons, Arrival.text_withFront]
        simp
      next => exact begins

theorem receive_text (begins : reception.held ++ (piece ++ later) = reception.pending.flatMap Arrival.text) :
    (reception.receive piece).held ++ later = (reception.receive piece).pending.flatMap Arrival.text := by
  apply dropFront_text
  have received : reception.held ++ piece <+: reception.pending.flatMap Arrival.text :=
    ⟨later, by rw [List.append_assoc, begins]⟩
  obtain ⟨_, left, isHeld, isText⟩ := Reassembly.settle_partial received
  have whole : left ++ ((reception.complete piece).held ++ later) =
      left ++ (reception.complete piece).pending.flatMap Arrival.text := by
    calc left ++ ((reception.complete piece).held ++ later)
        = left ++ (reception.complete piece).held ++ later := (List.append_assoc _ _ _).symm
      _ = reception.held ++ piece ++ later := congrArg (· ++ later) isHeld.symm
      _ = reception.pending.flatMap Arrival.text := by rw [List.append_assoc, begins]
      _ = left ++ (reception.complete piece).pending.flatMap Arrival.text := isText
  exact List.append_cancel_left whole

theorem run_text (pieces : List (List UInt8))
    (begins : reception.held ++ pieces.flatten = reception.pending.flatMap Arrival.text) :
    (Machine.run receive reception pieces).held =
      (Machine.run receive reception pieces).pending.flatMap Arrival.text := by
  induction pieces generalizing reception with
  | nil => simpa using begins
  | cons piece later ih => exact ih (receive_text (by simpa using begins))

end Reception

namespace InputStream

variable {Message : Type} {parser : MessageParser Message}

theorem initial_rests {pending : List (Arrival Message)} :
    Rests { pending := pending } ({} : InputStream Message) where
  inBounds := Reading.initial_sound.inBounds
  plain := rfl
  reads := .waiting rfl rfl rfl
  settled := ⟨List.nil_prefix, fun arrival _ => arrival.text_pos⟩
  room := by rw [Reception.room_nil, Nat.zero_add]

theorem receiveAll_parsed (scans : parser.startsMessage = startsMessage) (pieces : List (List UInt8))
    {reception : Reception Message} {stream : InputStream Message}
    (wellFormed : ∀ arrival ∈ reception.pending, arrival.WellFormed parser) (rests : Rests reception stream)
    (begins : reception.held ++ pieces.flatten = reception.pending.flatMap Arrival.text)
    (fits : Machine.Along Reception.receive Reception.Fits reception pieces)
    (recognised : Machine.Along Reception.receive Reception.Recognised reception pieces) :
    Checked.Returns (stream.receiveAll parser pieces)
      (Parsed (Machine.run Reception.receive reception pieces)
        (stream.incomingMessages ++ reception.pending.map Arrival.delivered)) := by
  induction pieces generalizing reception stream with
  | nil => exact Checked.returns_ok.mpr ⟨rests, rfl⟩
  | cons piece later ih =>
      rw [List.flatten_cons] at begins
      have received : reception.held ++ piece <+: reception.pending.flatMap Arrival.text :=
        ⟨later.flatten, by rw [List.append_assoc, begins]⟩
      obtain ⟨next, returned, parsed⟩ := receive_parsed scans wellFormed rests received fits.1 recognised.1
      have onward := ih (Reception.receive_wellFormed wellFormed) parsed.rests (Reception.receive_text begins) fits.2
        recognised.2
      rw [receiveAll, Machine.run_cons, Checked.ok_bind, returned, Machine.run_cons]
      rw [parsed.accounts] at onward
      exact onward

/-- When the whole stream has been received, all messages are in the list. -/
theorem receiveAll_delivers (scans : parser.startsMessage = startsMessage) {arrivals : List (Arrival Message)}
    (wellFormed : ∀ arrival ∈ arrivals, arrival.WellFormed parser) {pieces : List (List UInt8)}
    (cut : pieces.flatten = arrivals.flatMap Arrival.text)
    (fits : Machine.Along Reception.receive Reception.Fits { pending := arrivals } pieces)
    (recognised : Machine.Along Reception.receive Reception.Recognised { pending := arrivals } pieces) :
    Checked.Returns (receiveAll parser {} pieces) fun stream =>
      stream.incomingMessages = arrivals.map Arrival.delivered := by
  have begins : ([] : List UInt8) ++ pieces.flatten = arrivals.flatMap Arrival.text := cut
  refine (receiveAll_parsed scans pieces wellFormed initial_rests begins fits recognised).mono fun stream parsed => ?_
  have none := parsed.rests.settled.ended (Reception.run_text pieces begins)
  have accounts := parsed.accounts
  rw [none, List.map_nil, List.append_nil] at accounts
  exact accounts

/-- Where every piece that ends in a message is recognised, the messages are those that each message leads to alone,
whatever the pieces are in which the stream is cut. -/
theorem receiveAll_pieces (scans : parser.startsMessage = startsMessage) (arrivals : List (Arrival Message))
    (wellFormed : ∀ arrival ∈ arrivals, arrival.WellFormed parser) (pieces : List (List UInt8))
    (cut : pieces.flatten = arrivals.flatMap Arrival.text)
    (fits : Machine.Along Reception.receive Reception.Fits { pending := arrivals } pieces)
    (recognised : Machine.Along Reception.receive Reception.Recognised { pending := arrivals } pieces) :
    (Checked.Returns (receiveAll parser {} pieces) fun stream =>
        stream.incomingMessages = arrivals.map Arrival.delivered) ∧
      ∀ arrival ∈ arrivals, (arrival.header ++ arrival.body).length < networkBufferSize →
        Checked.Returns (receiveAll parser {} [arrival.header ++ arrival.body]) fun stream =>
          stream.incomingMessages = [arrival.delivered] := by
  refine ⟨receiveAll_delivers scans wellFormed cut fits recognised, ?_⟩
  intro arrival among short
  have whole := wellFormed arrival among
  have isText : { arrival with front := [] }.text = arrival.header ++ arrival.body := rfl
  have alone : ∀ other ∈ [{ arrival with front := [] }], other.WellFormed parser := by
    intro other isOther
    rw [List.mem_singleton.mp isOther]
    exact { whole with front := nofun }
  have completes : Reassembly.settle Arrival.text [{ arrival with front := [] }] (arrival.header ++ arrival.body) =
      ([], []) := by
    rw [← isText, Reassembly.settle_whole (Nat.le_refl _), List.drop_length]
    rfl
  have some_ : arrival.header ++ arrival.body ≠ [] := by
    intro none
    have positive := Arrival.text_pos { arrival with front := [] }
    rw [isText, none] at positive
    exact absurd positive (Nat.lt_irrefl 0)
  refine receiveAll_delivers scans alone ?_ ⟨⟨some_, ?_⟩, trivial⟩ ⟨?_, trivial⟩
  · simp [isText]
  · rw [Reception.room_nil]
    omega
  · intro first isFirst
    simp [Reception.complete, completes] at isFirst

end InputStream

/-! Two messages, and a parser that takes a header section as it is. -/

/-- The bytes of a text. -/
def octets (text : String) : CString := text.toList.map fun character => UInt8.ofNat character.toNat

/-- The number at the beginning of a text. -/
def leadingNumber (text : CString) : Nat :=
  (text.takeWhile isDigitByte).foldl (fun value digit => 10 * value + (digit.toNat - 48)) 0

theorem section_size (text : CString) (size : Nat) (parsed : (some text, some text.length).2 = some size) :
    size ≤ text.length :=
  Nat.le_of_eq (Option.some.inj parsed).symm

/-- A parser whose messages are the texts of their header sections. -/
def sectionParser : MessageParser CString where
  startsMessage := startsMessage
  parseRaw text := (some text, some text.length)
  isSip _ := true
  contentLength text :=
    (strstr (octets "Content-Length: ") text).map fun position => leadingNumber (text.drop (position + 16))
  hasContentType _ := false
  isChunked _ := false
  empty := rfl
  parsed_le := section_size
  bare _ _ parsed := absurd (congrArg Prod.snd parsed) (Option.some_ne_none _)

/-- A request behind a keep-alive. -/
def optionsRequest : Arrival CString where
  front := [13, 10]
  line := .request (octets "OPTIONS") (octets "sip") (octets "a@b")
  fields := octets "Content-Length: 2\r\n\r\n"
  body := octets "hi"
  message := octets "OPTIONS sip:a@b SIP/2.0\r\nContent-Length: 2\r\n\r\n"

/-- A response behind a keep-alive. -/
def okResponse : Arrival CString where
  front := [13, 10, 13, 10]
  line := .status (octets "200") (octets "OK")
  fields := octets "Content-Length: 0\r\n\r\n"
  message := octets "SIP/2.0 200 OK\r\nContent-Length: 0\r\n\r\n"

theorem optionsRequest_wellFormed : optionsRequest.WellFormed sectionParser where
  front := by decide +kernel
  line := ⟨by decide +kernel, by decide +kernel, by decide +kernel, by decide +kernel⟩
  noNul := by decide +kernel
  ends := by decide +kernel
  parsed := by decide +kernel
  sip := rfl
  length := by decide +kernel
  small := by decide +kernel

theorem okResponse_wellFormed : okResponse.WellFormed sectionParser where
  front := by decide +kernel
  line := ⟨by decide +kernel, by decide +kernel, by decide +kernel⟩
  noNul := by decide +kernel
  ends := by decide +kernel
  parsed := by decide +kernel
  sip := rfl
  length := by decide +kernel
  small := by decide +kernel

/-- The bytes of both messages, cut in a keep-alive, in a header section, in a body and in a start line. -/
def twoPieces : List (List UInt8) :=
  [octets "\r", octets "\nOPTIONS sip:a@b SIP/2.0\r\nConte", octets "nt-Length: 2\r\n\r\nh",
    octets "i\r\n\r\nSIP/2.0 200 O", octets "K\r\nContent-Length: 0\r\n\r\n"]

theorem two_wellFormed : ∀ arrival ∈ [optionsRequest, okResponse], arrival.WellFormed sectionParser := by
  intro arrival among
  rcases List.mem_cons.mp among with rfl | last
  · exact optionsRequest_wellFormed
  · rw [List.mem_singleton.mp last]
    exact okResponse_wellFormed

theorem receiveAll_pieces_two :
    (Checked.Returns (InputStream.receiveAll sectionParser {} twoPieces) fun stream =>
        stream.incomingMessages = [optionsRequest.delivered, okResponse.delivered]) ∧
      ∀ arrival ∈ [optionsRequest, okResponse], (arrival.header ++ arrival.body).length < networkBufferSize →
        Checked.Returns (InputStream.receiveAll sectionParser {} [arrival.header ++ arrival.body]) fun stream =>
          stream.incomingMessages = [arrival.delivered] :=
  InputStream.receiveAll_pieces rfl [optionsRequest, okResponse] two_wellFormed twoPieces (by decide +kernel)
    (by decide +kernel) (by decide +kernel)

/-- A piece that ends in the method behind a keep-alive is trashed; the rest of the message is read as one of its
own. -/
theorem method_trashed :
    optionsRequest.WellFormed sectionParser ∧
      [octets "\r\nOPT", optionsRequest.text.drop 5].flatten = [optionsRequest].flatMap Arrival.text ∧
      Machine.Along Reception.receive Reception.Fits { pending := [optionsRequest] }
        [octets "\r\nOPT", optionsRequest.text.drop 5] ∧
      (InputStream.receiveAll sectionParser {} [octets "\r\nOPT", optionsRequest.text.drop 5]).map
          InputStream.incomingMessages =
        .ok [(octets "IONS sip:a@b SIP/2.0\r\nContent-Length: 2\r\n\r\n", octets "hi")] ∧
      ¬Checked.Returns (InputStream.receiveAll sectionParser {} [octets "\r\nOPT", optionsRequest.text.drop 5])
        fun stream => stream.incomingMessages = [optionsRequest.delivered] := by
  have read : (InputStream.receiveAll sectionParser {} [octets "\r\nOPT", optionsRequest.text.drop 5]).map
      InputStream.incomingMessages =
        .ok [(octets "IONS sip:a@b SIP/2.0\r\nContent-Length: 2\r\n\r\n", octets "hi")] := by
    decide +kernel
  refine ⟨optionsRequest_wellFormed, by decide +kernel, by decide +kernel, read, ?_⟩
  rintro ⟨stream, returned, same⟩
  rw [returned] at read
  have other : [optionsRequest.delivered] =
      [(octets "IONS sip:a@b SIP/2.0\r\nContent-Length: 2\r\n\r\n", octets "hi")] := by
    rw [← same]
    exact Except.ok.inj read
  exact absurd other (by decide +kernel)

end BelleSip
