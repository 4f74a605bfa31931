import BelleSip.Channel.EndOfStream
import BelleSip.Foundation.Percent
import BelleSip.Sip.UriText

/-
This file defines how the input stream of a channel finds the start line of a message, and proves that it finds the
start lines of SIP.
-/

namespace BelleSip

open Foundation

/-- The characters that `is_token` accepts. -/
def isMethodByte (byte : UInt8) : Bool :=
  byte ∈ ([45, 46, 33, 37, 42, 95, 43, 96, 39, 126] : CString) || 48 ≤ byte && byte ≤ 57 ||
    65 ≤ byte && byte ≤ 90 || 97 ≤ byte && byte ≤ 122

/-- This is `is_token` on a stored word. -/
def isToken (word : CString) : Bool := word.all isMethodByte

/-- The conversion `%s` with a width: the word that is stored, and what follows it. -/
def scanWord (width : Nat) (text : CString) : Option (CString × CString) :=
  let word := ((text.dropWhile isSpaceByte).take width).takeWhile fun byte => !isSpaceByte byte
  if word = [] then none else some (word, (text.dropWhile isSpaceByte).drop word.length)

/-- The conversion `%*s`: what follows the word. -/
def skipWord (text : CString) : Option CString :=
  let word := text.dropWhile isSpaceByte
  if word = [] then none else some (word.dropWhile fun byte => !isSpaceByte byte)

/-- Whether the conversion `%d` finds a number. -/
def scansDecimal (text : CString) : Bool :=
  match text.dropWhile isSpaceByte with
  | [] => false
  | sign :: rest => if sign = 43 ∨ sign = 45 then rest.head?.any isDigitByte else isDigitByte sign

/-- What follows a number without sign whose base stands in its text. -/
def skipUnsigned : CString → Option CString
  | [] => none
  | [digit] => if isDigitByte digit then some [] else none
  | first :: second :: rest =>
      if first = 48 ∧ upperChar second = 88 then
        if rest.head?.any (fun byte => (hexDigit byte).isSome) then
          some (rest.dropWhile fun byte => (hexDigit byte).isSome)
        else none
      else if first = 48 then some ((second :: rest).dropWhile fun byte => 48 ≤ byte && byte ≤ 55)
      else if isDigitByte first then some ((second :: rest).dropWhile isDigitByte)
      else none

/-- The conversion `%*i`: what follows the number. -/
def skipInteger (text : CString) : Option CString :=
  match text.dropWhile isSpaceByte with
  | [] => none
  | sign :: rest => if sign = 43 ∨ sign = 45 then skipUnsigned rest else skipUnsigned (sign :: rest)

/-- The text `SIP/2.0`. -/
def sipVersion : CString := [83, 73, 80, 47, 50, 46, 48]

/-- The text `HTTP/1.`. -/
def httpVersion : CString := [72, 84, 84, 80, 47, 49, 46]

/-- The format `SIP/2.0 %d ` stores a number. -/
def scansStatus (text : CString) : Bool := sipVersion.isPrefixOf text && scansDecimal (text.drop sipVersion.length)

/-- The format `HTTP/1.%*i %d ` stores a number. -/
def scansHttpStatus (text : CString) : Bool :=
  httpVersion.isPrefixOf text && (skipInteger (text.drop httpVersion.length)).any scansDecimal

/-- The format `%16s %*s %9s` stores a method and a version of SIP or HTTP. -/
def scansRequest (text : CString) : Bool :=
  match scanWord 16 text with
  | none => false
  | some (method, rest) =>
      match (skipWord rest).bind (scanWord 9) with
      | none => false
      | some (version, _) => isToken method && (version = sipVersion || httpVersion.isPrefixOf version)

/-- The three calls of `sscanf` in `get_message_start_pos`, with the checks on what they store. -/
def startsMessage (text : CString) : Bool := scansStatus text || scansHttpStatus text || scansRequest text

/-- A message starts at this position of the unread bytes, of which the last one is hidden by a terminator. -/
def startsAt (text : List UInt8) (position : Nat) : Bool :=
  text.getD position 0 ∉ ([13, 10, 32, 9] : CString) &&
    startsMessage ((text.dropLast.drop position).takeWhile (· ≠ 0))

/-- This is `get_message_start_pos` on the unread bytes. -/
def messageStart (text : List UInt8) : Option Nat := (List.range (text.length - 12)).find? (startsAt text)

namespace InputStream

variable {Message : Type} {stream : InputStream Message} {parser : MessageParser Message}

theorem unread_getD {position : Nat} (inside : position < stream.writePtr - stream.readPtr) :
    stream.unread.getD position 0 = stream.buff (stream.readPtr + position) := by
  simp [List.getD_eq_getElem?_getD, unread, slice, inside]

/-- A terminator behind a text ends it at the latest. -/
theorem takeWhile_terminated (text : List UInt8) :
    (text ++ [0]).takeWhile (· ≠ 0) = text.takeWhile (· ≠ 0) := by
  rw [List.takeWhile_append]
  split
  next whole =>
      have all := (List.takeWhile_prefix (p := fun byte : UInt8 => decide (byte ≠ 0)) (l := text)).eq_of_length whole
      rw [all]
      simp
  next => rfl

/-- While a text is scanned its last byte is hidden. -/
theorem scan_hidden (scannable : stream.Scannable) {position : Nat}
    (inside : position + 1 < stream.writePtr - stream.readPtr) :
    (stream.store (stream.readPtr + (stream.writePtr - stream.readPtr) - 1) 0).scan (stream.readPtr + position) =
      .ok ((stream.unread.dropLast.drop position).takeWhile (· ≠ 0)) := by
  have last : stream.readPtr + (stream.writePtr - stream.readPtr) - 1 = stream.writePtr - 1 := by omega
  have other : stream.writePtr ≠ stream.writePtr - 1 := by omega
  have shown : (stream.store (stream.writePtr - 1) 0).slice (stream.readPtr + position)
      (stream.writePtr - (stream.readPtr + position)) = stream.unread.dropLast.drop position ++ [0] := by
    apply List.ext_getElem
    · simp only [slice_length, List.length_append, List.length_drop, List.length_dropLast, unread_length,
        List.length_singleton]
      omega
    · intro index below _
      rw [slice_length] at below
      rw [List.getElem_append]
      split
      next shown =>
          simp only [List.length_drop, List.length_dropLast, unread_length] at shown
          have before : stream.readPtr + (position + index) ≠ stream.writePtr - 1 := by omega
          simp [slice, store, unread, Nat.add_assoc, Function.update_of_ne before]
      next hidden =>
          simp only [List.length_drop, List.length_dropLast, unread_length] at hidden
          have here : stream.readPtr + position + index = stream.writePtr - 1 := by omega
          simp [slice, store, here]
  have terminated : (stream.store (stream.writePtr - 1) 0).buff stream.writePtr = 0 := by
    simp [store, Function.update_of_ne other, scannable.terminated]
  rw [last, scan, if_pos ⟨by simp only [store]; omega, scannable.inside, terminated⟩]
  change Except.ok (((stream.store (stream.writePtr - 1) 0).slice (stream.readPtr + position)
    (stream.writePtr - (stream.readPtr + position))).takeWhile (· ≠ 0)) = _
  rw [shown, takeWhile_terminated]

/-- The search in the buffer is the search in the unread bytes. -/
theorem getMessageStartPos_eq (scans : parser.startsMessage = startsMessage) (scannable : stream.Scannable) :
    stream.getMessageStartPos parser (stream.writePtr - stream.readPtr) = .ok (messageStart stream.unread) := by
  have searched : ∀ positions : List Nat, (∀ position ∈ positions, position + 12 < stream.writePtr - stream.readPtr) →
      stream.searchStart parser (stream.writePtr - stream.readPtr) positions =
        .ok (positions.find? (startsAt stream.unread)) := by
    intro positions inside
    induction positions with
    | nil => rfl
    | cons position rest ih =>
        have here := inside position List.mem_cons_self
        rw [searchStart, ih fun other among => inside other (List.mem_cons_of_mem _ among), List.find?_cons, startsAt,
          unread_getD (by omega)]
        split
        next blank => simp [blank]
        next visible =>
          rw [scan_hidden scannable (by omega), Checked.ok_bind, scans]
          cases starts : startsMessage ((stream.unread.dropLast.drop position).takeWhile (· ≠ 0)) with
          | true => simp [visible]; rfl
          | false => simp
  rw [getMessageStartPos, searched _ fun position among => by have := List.mem_range.mp among; omega, messageStart,
    unread_length]

end InputStream

/-- A start line of SIP: a request line, whose URI begins with a scheme and a colon, or a status line. -/
inductive StartLine where
  | request (method scheme resource : CString)
  | status (code reason : CString)
deriving DecidableEq, Repr

namespace StartLine

/-- The line without its end. -/
def text : StartLine → CString
  | .request method scheme resource => method ++ 32 :: (scheme ++ 58 :: resource ++ 32 :: sipVersion)
  | .status code reason => sipVersion ++ 32 :: (code ++ 32 :: reason)

/-- What the grammar of SIP says of the parts of a line. -/
def WellFormed : StartLine → Prop
  | .request method scheme resource => method ≠ [] ∧ isToken method ∧ 47 ∉ scheme ∧
      ∀ byte ∈ scheme ++ resource, isSpaceByte byte = false ∧ byte ≠ 0
  | .status code reason => code.length = 3 ∧ (∀ byte ∈ code, isDigitByte byte) ∧ ∀ byte ∈ reason, byte ≠ 0

/-- The position in the line at which the code sees its start; it stores sixteen characters of a method at most. -/
def offset : StartLine → Nat
  | .request method _ _ => method.length - 16
  | .status _ _ => 0

end StartLine

theorem token_visible {byte : UInt8} (token : isMethodByte byte = true) :
    isSpaceByte byte = false ∧ byte ≠ 0 ∧ byte ≠ 47 ∧ byte ∉ ([13, 10, 32, 9] : CString) := by
  revert byte
  apply Percent.all_bytes
  decide +kernel

theorem digit_visible {byte : UInt8} (digit : isDigitByte byte = true) :
    isSpaceByte byte = false ∧ byte ≠ 0 ∧ byte ≠ 43 ∧ byte ≠ 45 := by
  revert byte
  apply Percent.all_bytes
  decide +kernel

section Words

variable {word tail mark : CString} {blank : UInt8}

/-- A mark without the blank that ends a word begins a text only inside the word. -/
theorem mark_inside (absent : blank ∉ mark) (begins : mark <+: word ++ blank :: tail) : mark <+: word := by
  rcases Nat.le_total mark.length word.length with short | long
  · exact List.prefix_of_prefix_length_le begins (List.prefix_append _ _) short
  · obtain ⟨more, rfl⟩ := List.prefix_of_prefix_length_le (List.prefix_append _ _) begins long
    cases more with
    | nil => exact ⟨[], by simp⟩
    | cons first more =>
        have same := List.cons_prefix_cons.mp ((List.prefix_append_right_inj word).mp begins)
        rw [same.1] at absent
        exact absurd (List.mem_append_right word List.mem_cons_self) absent

theorem dropWhile_blank (isBlank : isSpaceByte blank = true) :
    (blank :: tail).dropWhile isSpaceByte = tail.dropWhile isSpaceByte := List.dropWhile_cons_of_pos isBlank

theorem dropWhile_word (some : word ≠ []) (visible : ∀ byte ∈ word, isSpaceByte byte = false) :
    (word ++ tail).dropWhile isSpaceByte = word ++ tail := by
  obtain ⟨first, rest, rfl⟩ := List.exists_cons_of_ne_nil some
  rw [List.cons_append, List.dropWhile_cons_of_neg (by simp [visible first List.mem_cons_self])]

/-- A word ends before this text. -/
def Ended (tail : CString) : Prop := ∀ byte ∈ tail.head?, isSpaceByte byte = true

theorem ended_blank (isBlank : isSpaceByte blank = true) : Ended (blank :: tail) := by
  rintro byte same
  cases same
  exact isBlank

theorem takeWhile_ended (ended : Ended tail) : tail.takeWhile (fun byte => !isSpaceByte byte) = [] := by
  cases tail with
  | nil => rfl
  | cons first rest => rw [List.takeWhile_cons_of_neg (by simp [ended first rfl])]

theorem dropWhile_ended (ended : Ended tail) : tail.dropWhile (fun byte => !isSpaceByte byte) = tail := by
  cases tail with
  | nil => rfl
  | cons first rest => rw [List.dropWhile_cons_of_neg (by simp [ended first rfl])]

theorem scanWord_word {width : Nat} (positive : 0 < width) (some_ : word ≠ [])
    (visible : ∀ byte ∈ word, isSpaceByte byte = false) (ended : Ended tail) :
    scanWord width (word ++ tail) = some (word.take width, word.drop width ++ tail) := by
  have cut : Ended (tail.take (width - word.length)) := by
    intro byte among
    rw [List.head?_take] at among
    split at among
    · cases among
    · exact ended byte among
  have taken : ((word ++ tail).take width).takeWhile (fun byte => !isSpaceByte byte) = word.take width := by
    rw [List.take_append, List.takeWhile_append_of_pos fun byte among => by
      simp [visible byte (List.mem_of_mem_take among)], takeWhile_ended cut, List.append_nil]
  have notNone : word.take width ≠ [] := by
    rw [Ne, List.take_eq_nil_iff, not_or]
    exact ⟨Nat.ne_of_gt positive, some_⟩
  rw [scanWord, dropWhile_word some_ visible, taken]
  simp only [notNone, if_false]
  congr 2
  rw [List.length_take, List.drop_append]
  congr 1
  · rcases Nat.le_total width word.length with short | long
    · rw [Nat.min_eq_left short]
    · rw [Nat.min_eq_right long, List.drop_length, List.drop_of_length_le long]
  · have before : min width word.length - word.length = 0 := by omega
    rw [before, List.drop_zero]

theorem skipWord_word (some_ : word ≠ []) (visible : ∀ byte ∈ word, isSpaceByte byte = false) (ended : Ended tail) :
    skipWord (word ++ tail) = some tail := by
  have notNone : word ++ tail ≠ [] := fun none => some_ (List.append_eq_nil_iff.mp none).1
  rw [skipWord, dropWhile_word some_ visible]
  simp only [notNone, if_false]
  rw [List.dropWhile_append_of_pos fun byte among => by simp [visible byte among], dropWhile_ended ended]

theorem scanWord_blank (width : Nat) (isBlank : isSpaceByte blank = true) :
    scanWord width (blank :: tail) = scanWord width tail := by
  rw [scanWord, scanWord, dropWhile_blank isBlank]

theorem skipWord_blank (isBlank : isSpaceByte blank = true) : skipWord (blank :: tail) = skipWord tail := by
  rw [skipWord, skipWord, dropWhile_blank isBlank]

/-- A URI is skipped, and the version behind it is stored. -/
theorem version_stored {uri : CString} (some_ : uri ≠ []) (visible : ∀ byte ∈ uri, isSpaceByte byte = false)
    (ended : Ended tail) :
    (skipWord (32 :: (uri ++ 32 :: (sipVersion ++ tail)))).bind (scanWord 9) = some (sipVersion, tail) := by
  have blank32 : isSpaceByte 32 = true := rfl
  have versionVisible : ∀ byte ∈ sipVersion, isSpaceByte byte = false := by decide +kernel
  rw [skipWord_blank blank32, skipWord_word some_ visible (ended_blank blank32), Option.bind_some,
    scanWord_blank 9 blank32, scanWord_word (by decide) (by decide) versionVisible ended]
  rfl

/-- The end of a word is skipped, and the beginning of the URI behind it is stored. -/
theorem uri_stored {uri : CString} (some_ : word ≠ []) (visible : ∀ byte ∈ word, isSpaceByte byte = false)
    (uriSome : uri ≠ []) (uriVisible : ∀ byte ∈ uri, isSpaceByte byte = false) :
    (skipWord (word ++ 32 :: (uri ++ 32 :: tail))).bind (scanWord 9) =
      some (uri.take 9, uri.drop 9 ++ 32 :: tail) := by
  have blank32 : isSpaceByte 32 = true := rfl
  rw [skipWord_word some_ visible (ended_blank blank32), Option.bind_some, scanWord_blank 9 blank32,
    scanWord_word (by decide) uriSome uriVisible (ended_blank blank32)]

end Words

/-- No URI begins with a version, since a slash stands in it before any colon. -/
theorem version_apart {scheme resource : CString} (noSlash : 47 ∉ scheme) :
    ¬sipVersion <+: scheme ++ 58 :: resource ∧ ¬httpVersion <+: scheme ++ 58 :: resource := by
  have slash : ∀ before after : CString, 58 ∉ before → ¬before ++ 47 :: after <+: scheme ++ 58 :: resource := by
    intro before after noColon begins
    rcases Nat.lt_or_ge before.length scheme.length with short | long
    · have inside : before ++ [47] <+: scheme := by
        refine List.prefix_of_prefix_length_le (List.IsPrefix.trans ?_ begins) (List.prefix_append _ _) (by simpa)
        exact (List.prefix_append_right_inj before).mpr (List.cons_prefix_cons.mpr ⟨rfl, List.nil_prefix⟩)
      exact noSlash (inside.subset (List.mem_append_right before List.mem_cons_self))
    · have inside : scheme ++ [58] <+: before ++ [47] := by
        have marked : before ++ [47] <+: scheme ++ 58 :: resource := by
          refine List.IsPrefix.trans ?_ begins
          exact (List.prefix_append_right_inj before).mpr (List.cons_prefix_cons.mpr ⟨rfl, List.nil_prefix⟩)
        refine List.prefix_of_prefix_length_le ?_ marked (by simpa)
        exact (List.prefix_append_right_inj scheme).mpr (List.cons_prefix_cons.mpr ⟨rfl, List.nil_prefix⟩)
      have colon := inside.subset (List.mem_append_right scheme List.mem_cons_self)
      rcases List.mem_append.mp colon with among | same
      · exact noColon among
      · exact absurd (List.mem_singleton.mp same) (by decide)
  exact ⟨slash [83, 73, 80] [50, 46, 48] (by decide), slash [72, 84, 84, 80] [49, 46] (by decide)⟩

namespace StartLine

/-- What `sscanf` reads from a position in the method on. -/
theorem request_starts {word scheme resource tail : CString} (some_ : word ≠ []) (token : isToken word = true)
    (noSlash : 47 ∉ scheme) (visible : ∀ byte ∈ scheme ++ resource, isSpaceByte byte = false ∧ byte ≠ 0)
    (ended : Ended tail) :
    startsMessage (word ++ 32 :: (scheme ++ 58 :: resource ++ 32 :: (sipVersion ++ tail))) =
      decide (word.length ≤ 16) := by
  have tokens : ∀ byte ∈ word, isMethodByte byte = true := List.all_eq_true.mp token
  have noVersion : ∀ mark : CString, 32 ∉ mark → 47 ∈ mark →
      mark.isPrefixOf (word ++ 32 :: (scheme ++ 58 :: resource ++ 32 :: (sipVersion ++ tail))) = false := by
    intro mark noBlank slash
    rw [Bool.eq_false_iff]
    intro begins
    have inside := (mark_inside noBlank (List.isPrefixOf_iff_prefix.mp begins)).subset slash
    exact (token_visible (tokens 47 inside)).2.2.1 rfl
  have wordVisible : ∀ byte ∈ word, isSpaceByte byte = false := fun byte among => (token_visible (tokens byte among)).1
  have uriVisible : ∀ byte ∈ scheme ++ 58 :: resource, isSpaceByte byte = false := by
    intro byte among
    rcases List.mem_append.mp among with inScheme | inRest
    · exact (visible byte (List.mem_append_left _ inScheme)).1
    · rcases List.mem_cons.mp inRest with rfl | inResource
      · decide
      · exact (visible byte (List.mem_append_right _ inResource)).1
  have uriSome : scheme ++ 58 :: resource ≠ [] := by simp
  rw [startsMessage, scansStatus, noVersion sipVersion (by decide) (by decide), scansHttpStatus,
    noVersion httpVersion (by decide) (by decide), Bool.false_and, Bool.false_and, Bool.false_or, Bool.false_or,
    scansRequest, scanWord_word (by decide) some_ wordVisible (ended_blank (by decide))]
  rcases Nat.lt_or_ge 16 word.length with long | short
  · have restSome : word.drop 16 ≠ [] := by
      rw [Ne, List.drop_eq_nil_iff]
      omega
    have restVisible : ∀ byte ∈ word.drop 16, isSpaceByte byte = false := fun byte among =>
      wordVisible byte (List.mem_of_mem_drop among)
    have noSip : (scheme ++ 58 :: resource).take 9 ≠ sipVersion := fun same =>
      (version_apart noSlash).1 (same ▸ List.take_prefix 9 _)
    have noHttp : httpVersion.isPrefixOf ((scheme ++ 58 :: resource).take 9) = false := by
      rw [Bool.eq_false_iff]
      intro begins
      exact (version_apart noSlash).2 ((List.isPrefixOf_iff_prefix.mp begins).trans (List.take_prefix 9 _))
    dsimp only
    rw [uri_stored restSome restVisible uriSome uriVisible]
    simp only [noSip, noHttp, decide_false, Bool.or_false, Bool.and_false]
    exact (decide_eq_false (Nat.not_le_of_lt long)).symm
  · have all : word.take 16 = word := List.take_of_length_le short
    have none : word.drop 16 = [] := List.drop_of_length_le short
    rw [all, none, List.nil_append]
    dsimp only
    rw [version_stored uriSome uriVisible ended]
    simp only [token, decide_true, Bool.true_or, Bool.and_true]
    exact (decide_eq_true short).symm

theorem status_starts {code reason : CString} (some_ : code ≠ []) (digits : ∀ byte ∈ code, isDigitByte byte = true) :
    startsMessage (sipVersion ++ 32 :: (code ++ reason)) = true := by
  obtain ⟨first, rest, rfl⟩ := List.exists_cons_of_ne_nil some_
  obtain ⟨visible, _, noPlus, noMinus⟩ := digit_visible (digits first List.mem_cons_self)
  have decimal : scansDecimal (32 :: (first :: rest ++ reason)) = true := by
    rw [scansDecimal, dropWhile_blank (by decide), List.cons_append, List.dropWhile_cons_of_neg (by simp [visible])]
    simp [noPlus, noMinus, digits first List.mem_cons_self]
  have begins : sipVersion.isPrefixOf (sipVersion ++ 32 :: (first :: rest ++ reason)) = true :=
    List.isPrefixOf_iff_prefix.mpr (List.prefix_append _ _)
  rw [startsMessage, scansStatus, begins, List.drop_left, decimal]
  rfl

variable {line : StartLine}

theorem WellFormed.noNul (wellFormed : line.WellFormed) : ∀ byte ∈ line.text, byte ≠ 0 := by
  cases line with
  | request method scheme resource =>
      obtain ⟨_, token, _, visible⟩ := wellFormed
      have tokens : ∀ byte ∈ method, isMethodByte byte = true := List.all_eq_true.mp token
      have version : ∀ byte ∈ sipVersion, byte ≠ 0 := by decide +kernel
      intro byte among
      simp only [text, List.mem_append, List.mem_cons] at among visible
      rcases among with inMethod | rfl | (inScheme | rfl | inResource) | rfl | inVersion
      · exact (token_visible (tokens byte inMethod)).2.1
      · decide
      · exact (visible byte (.inl inScheme)).2
      · decide
      · exact (visible byte (.inr inResource)).2
      · decide
      · exact version byte inVersion
  | status code reason =>
      obtain ⟨_, digits, noNul⟩ := wellFormed
      have version : ∀ byte ∈ sipVersion, byte ≠ 0 := by decide +kernel
      intro byte among
      simp only [text, List.mem_append, List.mem_cons] at among
      rcases among with inVersion | rfl | inCode | rfl | inReason
      · exact version byte inVersion
      · decide
      · exact (digit_visible (digits byte inCode)).2.1
      · decide
      · exact noNul byte inReason

/-- There are enough characters behind the start for the code to look there. -/
theorem WellFormed.offset_inside (wellFormed : line.WellFormed) : line.offset + 11 ≤ line.text.length := by
  cases line with
  | request method scheme resource =>
      have some_ : 0 < method.length := List.length_pos_of_ne_nil wellFormed.1
      simp only [offset, text, sipVersion, List.length_append, List.length_cons, List.length_nil]
      omega
  | status code reason =>
      have three := wellFormed.1
      simp only [offset, text, sipVersion, List.length_append, List.length_cons, List.length_nil]
      omega

/-- How many bytes of a message the code must have received to find its start: one behind the version of a request,
and the number of a status line, if at least thirteen bytes stand at the place where it looks. -/
def needed (line : StartLine) : Nat :=
  match line with
  | .request _ _ _ => max (line.text.length + 1) (line.offset + 13)
  | .status _ _ => 13

theorem WellFormed.needed_le (wellFormed : line.WellFormed) : line.needed ≤ line.text.length + 2 := by
  have inside := wellFormed.offset_inside
  cases line with
  | request method scheme resource =>
      simp only [needed]
      omega
  | status code reason =>
      have three := wellFormed.1
      simp only [needed, text, sipVersion, List.length_append, List.length_cons, List.length_nil]
      omega

/-- A text shows enough of the line. -/
def Shows (line : StartLine) (shown : CString) : Prop :=
  match line with
  | .request _ _ _ => ∃ tail, Ended tail ∧ shown = line.text ++ tail
  | .status code _ => ∃ tail, shown = sipVersion ++ 32 :: (code ++ tail)

/-- The code sees a start in the line at its offset first. -/
theorem WellFormed.starts (wellFormed : line.WellFormed) {shown : CString} (shows_ : line.Shows shown) {position : Nat}
    (before : position ≤ line.offset) :
    (∀ byte ∈ (shown.drop position).head?, byte ∉ ([13, 10, 32, 9] : CString)) ∧
      startsMessage (shown.drop position) = decide (position = line.offset) := by
  cases line with
  | request method scheme resource =>
      obtain ⟨tail, ended, rfl⟩ := shows_
      obtain ⟨some_, token, noSlash, visible⟩ := wellFormed
      have isOffset : offset (.request method scheme resource) = method.length - 16 := rfl
      rw [isOffset] at before
      have positive : 0 < method.length := List.length_pos_of_ne_nil some_
      have inMethod : position < method.length := by omega
      have restSome : method.drop position ≠ [] := by
        rw [Ne, List.drop_eq_nil_iff]
        omega
      have tokens : ∀ byte ∈ method, isMethodByte byte = true := List.all_eq_true.mp token
      have restToken : isToken (method.drop position) = true :=
        List.all_eq_true.mpr fun byte among => tokens byte (List.mem_of_mem_drop among)
      have dropped : (text (.request method scheme resource) ++ tail).drop position =
          method.drop position ++ 32 :: (scheme ++ 58 :: resource ++ 32 :: (sipVersion ++ tail)) := by
        rw [text, List.append_assoc, List.drop_append_of_le_length (Nat.le_of_lt inMethod)]
        simp
      rw [dropped]
      constructor
      · obtain ⟨first, rest, isRest⟩ := List.exists_cons_of_ne_nil restSome
        rw [isRest, List.cons_append, List.head?_cons]
        rintro byte same
        cases same
        have among : first ∈ method := List.mem_of_mem_drop (isRest ▸ List.mem_cons_self)
        exact (token_visible (tokens first among)).2.2.2
      · rw [request_starts restSome restToken noSlash visible ended, List.length_drop, decide_eq_decide, isOffset]
        omega
  | status code reason =>
      obtain ⟨tail, rfl⟩ := shows_
      obtain ⟨three, digits, _⟩ := wellFormed
      have zero : position = 0 := Nat.le_zero.mp before
      have some_ : code ≠ [] := List.ne_nil_of_length_pos (by omega)
      subst zero
      constructor
      · rintro byte same
        cases same
        decide
      · rw [List.drop_zero, status_starts some_ digits]
        rfl

end StartLine

theorem isLineEnd_blank {byte : UInt8} (lineEnds : byte = 13 ∨ byte = 10) : byte ∈ ([13, 10, 32, 9] : CString) := by
  rcases lineEnds with rfl | rfl <;> decide

/-- A start line behind line ends is found when enough of it is shown. -/
theorem messageStart_shows {front : List UInt8} (lineEnds : ∀ byte ∈ front, byte = 13 ∨ byte = 10) {line : StartLine}
    (wellFormed : line.WellFormed) {bytes first rest : List UInt8} (shown : bytes.dropLast = first ++ rest)
    (noNul : ∀ byte ∈ first, byte ≠ 0) (shows_ : line.Shows (first ++ rest.takeWhile (· ≠ 0)))
    (within : line.offset < first.length) (long : line.offset + 12 < bytes.length) :
    messageStart (front ++ bytes) = some (front.length + line.offset) := by
  have some_ : bytes ≠ [] := List.ne_nil_of_length_pos (by omega)
  have inLine : ∀ position ≤ line.offset, startsAt (front ++ bytes) (front.length + position) =
      decide (position = line.offset) := by
    intro position before
    obtain ⟨visible, starts⟩ := wellFormed.starts shows_ before
    have noNul' : ∀ byte ∈ first.drop position, decide (byte ≠ 0) = true := fun byte among =>
      decide_eq_true (noNul byte (List.mem_of_mem_drop among))
    have scanned : ((front ++ bytes).dropLast.drop (front.length + position)).takeWhile (· ≠ 0) =
        (first ++ rest.takeWhile (· ≠ 0)).drop position := by
      rw [List.dropLast_append_of_ne_nil some_, shown, ← List.drop_drop, List.drop_left,
        List.drop_append_of_le_length (by omega), List.takeWhile_append_of_pos noNul',
        List.drop_append_of_le_length (by omega)]
    have firstByte : (front ++ bytes).getD (front.length + position) 0 ∉ ([13, 10, 32, 9] : CString) := by
      have inFirst : position < first.length := by omega
      have isFirst : bytes[position]? = first[position]? := by
        rw [← List.dropLast_concat_getLast some_, shown, List.append_assoc, List.getElem?_append_left inFirst]
      apply visible
      rw [List.head?_drop, List.getD_eq_getElem?_getD, List.getElem?_append_right (Nat.le_add_right _ _),
        Nat.add_sub_cancel_left, List.getElem?_append_left inFirst, isFirst, List.getElem?_eq_getElem inFirst]
      rfl
    rw [startsAt, scanned, starts, decide_eq_true firstByte, Bool.true_and]
  rw [messageStart, List.find?_range_eq_some]
  refine ⟨?_, ?_, ?_⟩
  · rw [inLine line.offset (Nat.le_refl _)]
    exact decide_eq_true rfl
  · rw [List.mem_range, List.length_append]
    omega
  · intro position before
    rcases Nat.lt_or_ge position front.length with inFront | behind
    · have blank := isLineEnd_blank (lineEnds front[position] (List.getElem_mem inFront))
      rw [startsAt, List.getD_eq_getElem?_getD, List.getElem?_append_left inFront, List.getElem?_eq_getElem inFront,
        Option.getD_some, decide_eq_false (not_not_intro blank)]
      rfl
    · obtain ⟨inside, rfl⟩ := Nat.exists_eq_add_of_le behind
      rw [inLine inside (by omega)]
      simp only [Bool.not_eq_true', decide_eq_false_iff_not]
      omega

/-- A start line behind line ends is found once enough of its message has been received. -/
theorem messageStart_needed {front : List UInt8} (lineEnds : ∀ byte ∈ front, byte = 13 ∨ byte = 10) {line : StartLine}
    (wellFormed : line.WellFormed) {bytes more : List UInt8} (begins : bytes <+: line.text ++ 13 :: more)
    (enough : line.needed ≤ bytes.length) : messageStart (front ++ bytes) = some (front.length + line.offset) := by
  have inside := wellFormed.offset_inside
  cases line with
  | request method scheme resource =>
      simp only [StartLine.needed] at enough
      obtain ⟨behind, rfl⟩ := List.prefix_of_prefix_length_le (List.prefix_append _ _) begins (by omega)
      have begins' : behind <+: 13 :: more := (List.prefix_append_right_inj _).mp begins
      have some_ : behind ≠ [] := List.ne_nil_of_length_pos (by rw [List.length_append] at enough; omega)
      refine messageStart_shows lineEnds wellFormed (List.dropLast_append_of_ne_nil some_) wellFormed.noNul ?_
        (by omega) (by omega)
      refine ⟨_, ?_, rfl⟩
      cases behind with
      | nil => exact absurd rfl some_
      | cons first behind =>
          have isReturn : first = 13 := (List.cons_prefix_cons.mp begins').1
          subst isReturn
          cases behind with
          | nil => exact nofun
          | cons second behind =>
              rw [List.dropLast_cons_cons, List.takeWhile_cons_of_pos (by decide)]
              exact ended_blank (by decide)
  | status code reason =>
      obtain ⟨three, digits, _⟩ := id wellFormed
      have isOffset : StartLine.offset (.status code reason) = 0 := rfl
      have isNeeded : StartLine.needed (.status code reason) = 13 := rfl
      have length : (sipVersion ++ 32 :: code).length = 11 := by
        simp [sipVersion, three]
      have starts : sipVersion ++ 32 :: code <+: StartLine.text (.status code reason) ++ 13 :: more :=
        ⟨32 :: (reason ++ 13 :: more), by simp [StartLine.text]⟩
      obtain ⟨behind, rfl⟩ := List.prefix_of_prefix_length_le starts begins (by omega)
      have some_ : behind ≠ [] := List.ne_nil_of_length_pos (by rw [List.length_append] at enough; omega)
      have noNul : ∀ byte ∈ sipVersion ++ 32 :: code, byte ≠ 0 := by
        intro byte among
        refine wellFormed.noNul byte ?_
        simp only [StartLine.text, List.mem_append, List.mem_cons] at among ⊢
        tauto
      refine messageStart_shows lineEnds wellFormed (List.dropLast_append_of_ne_nil some_) noNul ?_ (by omega)
        (by omega)
      exact ⟨behind.dropLast.takeWhile (· ≠ 0), by simp⟩

end BelleSip
