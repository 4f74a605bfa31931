import BelleSip.Channel.ChunckedText
import BelleSip.Channel.StartLine
import BelleSip.Foundation.Reassembly

/-
This file defines how a channel receives messages in pieces, and proves what the steps of a round do with their bytes.
-/

namespace BelleSip

open Foundation

/-- A message on its way: the line ends in front of it, its start line, the rest of its header section, its body, and
what the parser makes of the header section. -/
structure Arrival (Message : Type) where
  front : List UInt8 := []
  line : StartLine
  fields : CString
  body : List UInt8 := []
  message : Message
deriving DecidableEq

namespace Arrival

variable {Message : Type}

def header (arrival : Arrival Message) : CString := arrival.line.text ++ 13 :: 10 :: arrival.fields

def text (arrival : Arrival Message) : List UInt8 := arrival.front ++ arrival.header ++ arrival.body

/-- The position at which the code sees the message start. -/
def start (arrival : Arrival Message) : Nat := arrival.front.length + arrival.line.offset

/-- The position at which the body begins. -/
def bodyStart (arrival : Arrival Message) : Nat := arrival.front.length + arrival.header.length

/-- The part of the header section that the code sees. -/
def shown (arrival : Arrival Message) : CString := arrival.header.drop arrival.line.offset

/-- The element of `incoming_messages` with its body. -/
def delivered (arrival : Arrival Message) : Message × List UInt8 := (arrival.message, arrival.body)

/-- The message is one of SIP, whose header section ends at its first empty line and is parsed as a whole, and whose
body has the length that the message tells. -/
structure WellFormed (parser : MessageParser Message) (arrival : Arrival Message) : Prop where
  front : ∀ byte ∈ arrival.front, byte = 13 ∨ byte = 10
  line : arrival.line.WellFormed
  noNul : ∀ byte ∈ arrival.fields, byte ≠ 0
  ends : strstr headerEnd arrival.header = some (arrival.header.length - 4)
  parsed : parser.parseRaw arrival.shown = (some arrival.message, some arrival.shown.length)
  sip : parser.isSip arrival.message = true
  length : (parser.contentLength arrival.message).getD 0 = arrival.body.length
  small : arrival.body.length < 2147483648

end Arrival

/-- A line ends at this position of the bytes. -/
def EndsLine (text : List UInt8) (position : Nat) : Prop :=
  text.getD position 0 = 13 ∧ text.getD (position + 1) 0 = 10

instance (text : List UInt8) (position : Nat) : Decidable (EndsLine text position) :=
  inferInstanceAs (Decidable (_ ∧ _))

/-- The code searches a message start in the unread bytes: a line ends in them, or they fill the buffer. -/
def Searched (text : List UInt8) : Prop :=
  (∃ position < text.length - 1, EndsLine text position) ∨ networkBufferSize ≤ text.length + 1

instance (text : List UInt8) : Decidable (Searched text) := inferInstanceAs (Decidable (_ ∨ _))

/-- What a channel has to receive: the messages that are not yet complete, and what has been received of the first one
and not been trashed. -/
structure Reception (Message : Type) where
  pending : List (Arrival Message)
  held : List UInt8 := []

namespace Reception

variable {Message : Type}

/-- How many bytes `recv` is asked for. Bytes stay in the buffer until bytes of the body follow them. -/
def room (reception : Reception Message) : Nat :=
  match reception.pending with
  | [] => networkBufferSize - 1
  | arrival :: _ =>
      if reception.held.length ≤ arrival.bodyStart then networkBufferSize - 1 - reception.held.length
      else networkBufferSize - 1

/-- The complete messages leave with a piece. -/
def complete (reception : Reception Message) (piece : List UInt8) : Reception Message :=
  let settled := Reassembly.settle Arrival.text reception.pending (reception.held ++ piece)
  { pending := settled.1, held := settled.2 }

/-- Line ends that are searched without a message behind them are trashed. -/
def dropFront (reception : Reception Message) : Reception Message :=
  match reception.pending with
  | [] => reception
  | arrival :: rest =>
      if reception.held.length ≤ arrival.front.length ∧ Searched reception.held then
        { pending := { arrival with front := arrival.front.drop reception.held.length } :: rest }
      else reception

/-- A piece is received. -/
def receive (reception : Reception Message) (piece : List UInt8) : Reception Message :=
  (reception.complete piece).dropFront

/-- The piece is one that `recv` can return. -/
def Fits (reception : Reception Message) (piece : List UInt8) : Prop :=
  piece ≠ [] ∧ piece.length ≤ reception.room

/-- When the piece ends in a message and a search is made, enough of the message has been received. -/
def Recognised (reception : Reception Message) (piece : List UInt8) : Prop :=
  ∀ arrival ∈ (reception.complete piece).pending.head?,
    arrival.front.length < (reception.complete piece).held.length → Searched (reception.complete piece).held →
      arrival.front.length + arrival.line.needed ≤ (reception.complete piece).held.length

instance (reception : Reception Message) (piece : List UInt8) : Decidable (reception.Fits piece) :=
  inferInstanceAs (Decidable (_ ∧ _))

instance (reception : Reception Message) (piece : List UInt8) : Decidable (reception.Recognised piece) :=
  inferInstanceAs (Decidable (∀ arrival ∈ (reception.complete piece).pending.head?, _ < _ → _ → _ ≤ _))

end Reception

namespace InputStream

variable {Message : Type} (parser : MessageParser Message)

/-- This is `belle_sip_channel_parse_stream` with a bound on the rounds of its loop. -/
def parseStream : Nat → InputStream Message → Bool → Checked (InputStream Message)
  | 0, _, _ => .error .fatal
  | rounds + 1, stream, endOfStream =>
      if stream.readPtr < stream.writePtr then do
        let (next, goesOn) ← stream.parseRound parser endOfStream
        if goesOn then parseStream rounds next endOfStream else return next
      else return stream

/-- The channel receives a piece and parses the stream. -/
def receive (stream : InputStream Message) (piece : List UInt8) : Checked (InputStream Message) := do
  let reading ← Reading.processReadData { stream := stream } (.available piece)
  match reading.parsing with
  | none => return reading.stream
  | some endOfStream => parseStream parser (reading.stream.writePtr + 1) reading.stream endOfStream

/-- The channel receives the pieces one after the other. -/
def receiveAll (stream : InputStream Message) (pieces : List (List UInt8)) : Checked (InputStream Message) :=
  Machine.run (fun state piece => state >>= fun stream => stream.receive parser piece) (.ok stream) pieces

variable {parser} {stream : InputStream Message}

/-! The wait for a message start. -/

theorem awaitStart_skips (num : Nat) (positions : List Nat)
    (none : ∀ position ∈ positions, stream.endsLine position = false) :
    stream.awaitStart parser num positions = .ok (stream, false) := by
  induction positions with
  | nil => rfl
  | cons position rest ih =>
      rw [awaitStart, none position List.mem_cons_self]
      exact ih fun other among => none other (List.mem_cons_of_mem position among)

theorem awaitStart_finds {num start : Nat} (found : stream.getMessageStartPos parser num = .ok (some start))
    (positions : List Nat) (some_ : ∃ position ∈ positions, stream.endsLine position = true) :
    stream.awaitStart parser num positions =
      .ok ({ stream with readPtr := stream.readPtr + start, state := .messageAquisition }, true) := by
  induction positions with
  | nil => simp at some_
  | cons position rest ih =>
      rw [awaitStart]
      cases ends : stream.endsLine position with
      | true =>
          rw [found]
          rfl
      | false =>
          refine ih ?_
          obtain ⟨other, among, endsThere⟩ := some_
          rcases List.mem_cons.mp among with rfl | later
          · rw [ends] at endsThere
            cases endsThere
          · exact ⟨other, later, endsThere⟩

theorem awaitStart_keeps (num : Nat) (positions : List Nat) (plain : stream.chunckedMode = false) :
    Checked.OnReturn (stream.awaitStart parser num positions) fun result =>
      result.1.incomingMessages = stream.incomingMessages ∧ result.1.chunckedMode = false := by
  induction positions generalizing stream with
  | nil => exact Checked.onReturn_pure.mpr ⟨rfl, plain⟩
  | cons position rest ih =>
      rw [awaitStart]
      split
      · rw [Checked.onReturn_bind]
        cases stream.getMessageStartPos parser num with
        | error fault => exact Checked.onReturn_error
        | ok found =>
            rw [Checked.onReturn_ok]
            cases found with
            | some offset => exact Checked.onReturn_pure.mpr ⟨rfl, plain⟩
            | none =>
                refine Checked.OnReturn.mono (ih ?_) fun result kept => ⟨kept.1.trans ?_, kept.2⟩
                · rfl
                · exact rewind_incomingMessages _
      · exact ih plain

/-- A buffer with line ends only is trashed when it is searched. -/
theorem awaitStart_trashes {num : Nat} (found : stream.getMessageStartPos parser num = .ok none)
    (unscanned : ¬stream.ScansTrash num) (positions : List Nat)
    (some_ : ∃ position ∈ positions, stream.endsLine position = true) :
    Checked.Returns (stream.awaitStart parser num positions) fun result => result.1.Trashed ∧ result.2 = false := by
  induction positions with
  | nil => simp at some_
  | cons position rest ih =>
      rw [awaitStart]
      cases ends : stream.endsLine position with
      | true =>
          rw [if_pos rfl, found, Checked.ok_bind]
          refine awaitStart_trashed num rest (trash_trashed stream) (.inr ?_)
          rw [ScansTrash, trash_buff]
          exact unscanned
      | false =>
          refine ih ?_
          obtain ⟨other, among, endsThere⟩ := some_
          rcases List.mem_cons.mp among with rfl | later
          · rw [ends] at endsThere
            cases endsThere
          · exact ⟨other, later, endsThere⟩

theorem searched_iff (read : stream.readPtr = 0) :
    Searched stream.unread ↔
      ∃ position ∈ List.range (stream.writePtr - stream.readPtr - 1), stream.endsLine position = true := by
  have size : networkBufferSize = 65535 := rfl
  have lines : ∀ position < stream.writePtr - stream.readPtr - 1,
      (EndsLine stream.unread position ↔
        stream.buff (stream.readPtr + position) = 13 ∧ stream.buff (stream.readPtr + position + 1) = 10) := by
    intro position inside
    rw [EndsLine, unread_getD (by omega), unread_getD (by omega), Nat.add_assoc]
  constructor
  · rintro (⟨position, inside, line⟩ | full)
    · rw [unread_length] at inside
      refine ⟨position, List.mem_range.mpr inside, ?_⟩
      obtain ⟨carriageReturn, lineFeed⟩ := (lines position inside).mp line
      simp [endsLine, carriageReturn, lineFeed]
    · rw [unread_length] at full
      refine ⟨0, List.mem_range.mpr (by omega), ?_⟩
      have short : stream.buffLength ≤ 1 := by
        rw [buffLength]
        omega
      simp [endsLine, short]
  · rintro ⟨position, among, ends⟩
    have inside := List.mem_range.mp among
    simp only [endsLine, Bool.or_eq_true, Bool.and_eq_true, decide_eq_true_eq] at ends
    rcases ends with line | short
    · left
      rw [unread_length]
      exact ⟨position, inside, (lines position inside).mpr line⟩
    · right
      rw [buffLength] at short
      rw [unread_length]
      omega

/-! The pointers after bytes have been moved. -/

@[simp] theorem rewind_readPtr (stream : InputStream Message) : stream.rewind.readPtr = 0 := by
  rw [rewind]
  split <;> rfl

theorem rewind_writePtr (stream : InputStream Message) : stream.rewind.writePtr = stream.unread.length := by
  have left := rewind_left stream
  rw [rewind_readPtr, Nat.sub_zero] at left
  rw [left, unread_length]

theorem messageReady_fresh (stream : InputStream Message) :
    Checked.OnReturn stream.messageReady fun ready => ready.readPtr = 0 ∧ ready.chunckedMode = false := by
  rw [messageReady, Checked.onReturn_bind, Checked.onReturn_deref]
  intro message _
  exact Checked.onReturn_pure.mpr ⟨rewind_readPtr _, rfl⟩

theorem feedBody_pointers (stream : InputStream Message) (len : Nat) :
    Checked.OnReturn (stream.feedBody len) fun fed => fed.readPtr = 0 ∧ fed.writePtr = fed.unread.length := by
  rw [feedBody]
  split
  · refine Checked.onReturn_ok.mpr ⟨rewind_readPtr _, ?_⟩
    rw [rewind_writePtr, rewind_unread]
  · exact Checked.onReturn_error

/-- What the bytes behind a header section lead to: the message is ready, and the bytes behind its body are left, or it
needs more bytes. -/
inductive BodyRead (message : Message) (size : Nat) (bytes : List UInt8) (prior : List (Message × List UInt8))
    (written : Nat) : InputStream Message × Bool → Prop where
  | ready {after : InputStream Message} (enough : size ≤ bytes.length) (inBounds : after.InBounds)
      (state : after.state = .waitingMessageStart) (read : after.readPtr = 0) (plain : after.chunckedMode = false)
      (unread : after.unread = bytes.drop size)
      (incomingMessages : after.incomingMessages = prior ++ [(message, bytes.take size)]) :
      BodyRead message size bytes prior written (after, true)
  | more {after : InputStream Message} (short : bytes.length < size) (inBounds : after.InBounds)
      (state : after.state = .bodyAquisition) (holds : after.msg = some message) (length : after.contentLength = size)
      (plain : after.chunckedMode = false) (read : after.unread = []) (body : after.body = bytes)
      (isWritten : after.writePtr = if bytes = [] then written else 0)
      (incomingMessages : after.incomingMessages = prior) :
      BodyRead message size bytes prior written (after, false)

theorem acquireBodySimple_reads {message : Message} {size : Nat} (inBounds : stream.InBounds)
    (state : stream.state = .bodyAquisition) (holds : stream.msg = some message)
    (length : stream.contentLength = size) (plain : stream.chunckedMode = false) (small : size < 2147483648)
    (begun : stream.body.length < size) :
    Checked.Returns (stream.acquireBodySimple false)
      (BodyRead message size (stream.body ++ stream.unread) stream.incomingMessages stream.writePtr) := by
  obtain ⟨ordered, inside, _⟩ := inBounds
  have buffer : networkBufferSize = 65535 := rfl
  have isSize : sizeT stream.contentLength = size := by
    rw [length, sizeT_small (by omega) (by omega)]
    rfl
  have toRead : sizeT ((stream.writePtr : Int) - stream.readPtr) = stream.unread.length := by
    rw [sizeT_small (by omega) (by omega), unread_length]
    omega
  have finish : ∀ (len : Nat) (fed : InputStream Message), Feeds len stream fed →
      len = min (size - stream.body.length) stream.unread.length →
      fed.writePtr = (if fed.body = [] then stream.writePtr else fed.unread.length) → Checked.Returns
      (if false = true ∨ size ≤ fed.body.length then
        fed.messageReady >>= fun ready => pure (ready, true) else pure (fed, false))
      (BodyRead message size (stream.body ++ stream.unread) stream.incomingMessages stream.writePtr) := by
    intro len fed feeds isLen written
    have fedLength : fed.body.length = stream.body.length + len := by
      rw [feeds.body, List.length_append, List.length_take]
      omega
    split
    next enough =>
        have reached : size ≤ fed.body.length := enough.resolve_left Bool.false_ne_true
        have whole : len = size - stream.body.length := by omega
        have stillHolds : fed.msg = some message := feeds.msg.trans holds
        obtain ⟨ready, returned, readies⟩ := messageReady_readies feeds.inBounds.inside stillHolds
        rw [returned, Checked.ok_bind, Checked.returns_pure]
        obtain ⟨read, readyPlain⟩ := (messageReady_fresh fed).elim returned
        refine .ready ?_ readies.inBounds readies.state read readyPlain ?_ ?_
        · rw [List.length_append]
          omega
        · rw [readies.unread, feeds.unread, whole, List.drop_append, List.drop_of_length_le (Nat.le_of_lt begun),
            List.nil_append]
        · rw [readies.incomingMessages, feeds.incomingMessages, feeds.body, whole, List.take_append,
            List.take_of_length_le (Nat.le_of_lt begun)]
    next waits =>
        have short : fed.body.length < size := Nat.lt_of_not_le fun reached => waits (.inr reached)
        have all : len = stream.unread.length := by omega
        have read : fed.unread = [] := by rw [feeds.unread, all, List.drop_length]
        have body : fed.body = stream.body ++ stream.unread := by rw [feeds.body, all, List.take_length]
        refine Checked.returns_pure.mpr (.more ?_ feeds.inBounds (feeds.state.trans state) (feeds.msg.trans holds)
          (feeds.contentLength.trans length) (feeds.chunckedMode.trans plain) read body ?_ feeds.incomingMessages)
        · rw [← body]
          exact short
        · rw [written, read, body]
          rfl
  simp only [acquireBodySimple, toRead, isSize]
  split
  next nothing =>
      have none : stream.unread = [] := List.eq_nil_of_length_eq_zero nothing.2
      have empty : stream.body = [] := List.eq_nil_of_length_eq_zero nothing.1
      rw [Checked.returns_bind, Checked.returns_pure]
      refine finish 0 stream ?_ (by rw [none]; simp) (by rw [if_pos empty])
      exact {
        inBounds := ⟨ordered, inside, fun some => by
          rw [unread_eq_nil_iff] at none
          omega⟩
        state := rfl
        msg := rfl
        contentLength := rfl
        chunckedMode := rfl
        chunkSize := rfl
        incomingMessages := rfl
        body := by rw [none]; simp
        unread := by rw [none]; rfl }
  next some =>
      have toFeed : sizeT (stream.contentLength - stream.body.length) = size - stream.body.length := by
        rw [sizeT_sub (by omega), isSize]
      rw [toFeed]
      have received : min (size - stream.body.length) stream.unread.length ≤ stream.writePtr - stream.readPtr := by
        rw [unread_length]
        omega
      have fits : stream.readPtr + min (size - stream.body.length) stream.unread.length ≤ stream.writePtr := by omega
      obtain ⟨fed, returned, feeds⟩ := feedBody_feeds fits inside
      obtain ⟨_, written⟩ := (feedBody_pointers stream _).elim returned
      rw [returned, Checked.ok_bind]
      refine finish _ fed feeds rfl ?_
      have longer : fed.body ≠ [] := by
        rw [feeds.body, Ne, List.append_eq_nil_iff, List.take_eq_nil_iff]
        rintro ⟨empty, zero | none⟩
        · have noBody : stream.body.length = 0 := congrArg List.length empty
          omega
        · exact some ⟨congrArg List.length empty, congrArg List.length none⟩
      rw [if_neg longer, written]

/-! The header section. -/

theorem scan_unread (scannable : stream.Scannable) :
    stream.scan stream.readPtr = .ok (stream.unread.takeWhile (· ≠ 0)) := by
  rw [scan, if_pos ⟨scannable.ordered, scannable.inside, scannable.terminated⟩]
  rfl

theorem slice_unread {size : Nat} (inside : size ≤ stream.unread.length) :
    stream.slice stream.readPtr size = stream.unread.take size := by
  rw [unread_length] at inside
  obtain ⟨more, isMore⟩ := Nat.exists_eq_add_of_le inside
  rw [unread, isMore, slice_append, List.take_left' (slice_length _ _)]

/-- The unread bytes when some of them are taken. -/
theorem slice_advanced (stream : InputStream Message) {size : Nat} (inside : size ≤ stream.unread.length) :
    stream.slice (stream.readPtr + size) (stream.writePtr - (stream.readPtr + size)) = stream.unread.drop size := by
  rw [unread_length] at inside
  have left : stream.writePtr - stream.readPtr = size + (stream.writePtr - (stream.readPtr + size)) := by omega
  rw [unread, left, slice_append, List.drop_left' (slice_length _ _)]

theorem strstr_drop {mark text : CString} {position skipped : Nat} (found : strstr mark text = some position)
    (before : skipped ≤ position) : strstr mark (text.drop skipped) = some (position - skipped) := by
  induction skipped generalizing text position with
  | zero => exact found
  | succ skipped ih =>
      cases text with
      | nil =>
          rw [strstr] at found
          split at found
          · cases found
            omega
          · cases found
      | cons byte rest =>
          rw [strstr] at found
          split at found
          · cases found
            omega
          · obtain ⟨earlier, foundEarlier, rfl⟩ := Option.map_eq_some_iff.mp found
            rw [List.drop_succ_cons, ih foundEarlier (by omega), Nat.add_sub_add_right]

end InputStream

namespace Arrival.WellFormed

variable {Message : Type} {parser : MessageParser Message} {arrival : Arrival Message}

theorem header_long (wellFormed : arrival.WellFormed parser) :
    arrival.line.offset + 13 ≤ arrival.header.length := by
  have inside := wellFormed.line.offset_inside
  simp only [header, List.length_append, List.length_cons]
  omega

theorem shown_length (wellFormed : arrival.WellFormed parser) :
    arrival.shown.length + arrival.line.offset = arrival.header.length := by
  have long := wellFormed.header_long
  rw [shown, List.length_drop]
  omega

theorem noNul_header (wellFormed : arrival.WellFormed parser) : ∀ byte ∈ arrival.header, byte ≠ 0 := by
  intro byte among
  simp only [header, List.mem_append, List.mem_cons] at among
  rcases among with inLine | rfl | rfl | inFields
  · exact wellFormed.line.noNul byte inLine
  · decide
  · decide
  · exact wellFormed.noNul byte inFields

theorem noNul_shown (wellFormed : arrival.WellFormed parser) : ∀ byte ∈ arrival.shown, byte ≠ 0 := fun byte among =>
  wellFormed.noNul_header byte (List.mem_of_mem_drop among)

/-- The header section that the code sees ends at its first empty line. -/
theorem shown_ends (wellFormed : arrival.WellFormed parser) :
    strstr headerEnd arrival.shown = some (arrival.shown.length - 4) := by
  have long := wellFormed.header_long
  have whole := wellFormed.shown_length
  rw [shown, InputStream.strstr_drop wellFormed.ends (by omega), ← shown]
  congr 1
  omega

end Arrival.WellFormed

namespace InputStream

variable {Message : Type} {parser : MessageParser Message} {stream : InputStream Message} {arrival : Arrival Message}

/-- A header section that is not yet complete is waited for. -/
theorem acquireMessage_waits (wellFormed : arrival.WellFormed parser) (scannable : stream.Scannable)
    (begins : stream.unread <+: arrival.shown) (short : stream.unread.length < arrival.shown.length) :
    stream.acquireMessage parser = .ok (stream, .stop) := by
  have noNul : ∀ byte ∈ stream.unread, decide (byte ≠ 0) = true := fun byte among =>
    decide_eq_true (wellFormed.noNul_shown byte (begins.subset among))
  have all : stream.unread.takeWhile (· ≠ 0) = stream.unread := List.takeWhile_eq_self_iff.mpr noNul
  have none : strstr headerEnd stream.unread = none := by
    cases found : strstr headerEnd stream.unread with
    | none => rfl
    | some position =>
        have inside := strstr_inside found
        have same := ChunckedBody.strstr_prefix begins found
        rw [wellFormed.shown_ends] at same
        have equal := Option.some.inj same
        have four : headerEnd.length = 4 := rfl
        have long := wellFormed.header_long
        have whole := wellFormed.shown_length
        omega
  rw [acquireMessage, scan_unread scannable, Checked.ok_bind, all, none]
  rfl

/-- A complete header section is parsed. -/
theorem acquireMessage_parses (wellFormed : arrival.WellFormed parser) (scannable : stream.Scannable)
    {tail : List UInt8} (unread : stream.unread = arrival.shown ++ tail) :
    stream.acquireMessage parser = acquireParsed parser
      { stream with
        msg := some arrival.message
        readSize := arrival.shown.length
        readPtr := stream.readPtr + arrival.shown.length } arrival.message := by
  have noNul : ∀ byte ∈ arrival.shown, decide (byte ≠ 0) = true := fun byte among =>
    decide_eq_true (wellFormed.noNul_shown byte among)
  have long := wellFormed.header_long
  have whole := wellFormed.shown_length
  have found : strstr headerEnd (stream.unread.takeWhile (· ≠ 0)) = some (arrival.shown.length - 4) := by
    rw [unread, List.takeWhile_append_of_pos noNul]
    exact ChunckedBody.strstr_prefix (List.prefix_append _ _) wellFormed.shown_ends
  have size : arrival.shown.length - 4 + 4 = arrival.shown.length := by omega
  have taken : stream.slice stream.readPtr arrival.shown.length = arrival.shown := by
    rw [slice_unread (by rw [unread, List.length_append]; omega), unread, List.take_left]
  have positive : 0 < arrival.shown.length := by omega
  rw [acquireMessage, scan_unread scannable, Checked.ok_bind, found]
  simp only [size, taken, wellFormed.parsed, Option.getD_some, positive, if_true]

/-- What a message leads to whose header section has been parsed. -/
theorem acquireParsed_reads (wellFormed : arrival.WellFormed parser) (inBounds : stream.InBounds)
    (holds : stream.msg = some arrival.message) (plain : stream.chunckedMode = false) :
    Checked.Returns (stream.acquireParsed parser arrival.message >>= fun acquired => endRound acquired false)
      (BodyRead arrival.message arrival.body.length stream.unread stream.incomingMessages stream.writePtr) := by
  have checked : stream.checkBody parser arrival.message =
      ({ stream with contentLength := arrival.body.length, body := [] }, decide (0 < (arrival.body.length : Int))) := by
    simp only [checkBody, wellFormed.sip, if_true, wellFormed.length]
  rw [acquireParsed, checked]
  rcases Nat.eq_zero_or_pos arrival.body.length with zero | positive
  · have noBody : ¬(0 : Int) < arrival.body.length := by omega
    have readied : Checked.Returns
        ({ stream with contentLength := arrival.body.length, body := [] } : InputStream Message).messageReady
        (Readies arrival.message { stream with contentLength := arrival.body.length, body := [] }) :=
      messageReady_readies inBounds.inside holds
    obtain ⟨ready, returned, readies⟩ := readied
    obtain ⟨read, readyPlain⟩ := (messageReady_fresh _).elim returned
    simp only [decide_eq_false noBody, Bool.false_eq_true, if_false, returned, Checked.ok_bind]
    change Checked.Returns (.ok (ready, true)) _
    rw [Checked.returns_ok]
    refine .ready (by omega) readies.inBounds readies.state read readyPlain ?_ ?_
    · rw [readies.unread, zero]
      rfl
    · rw [readies.incomingMessages, zero]
      rfl
  · have some_ : (0 : Int) < arrival.body.length := by omega
    simp only [decide_eq_true some_, if_true, Checked.ok_bind, pure, Except.pure]
    change Checked.Returns (acquireBody _ false) _
    simp only [acquireBody, plain, Bool.false_eq_true, if_false]
    refine acquireBodySimple_reads ?_ rfl holds rfl rfl wellFormed.small positive
    exact ⟨inBounds.ordered, inBounds.inside, inBounds.terminated⟩

end InputStream

end BelleSip
