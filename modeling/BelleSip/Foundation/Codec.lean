import BelleSip.Foundation.Segments
import BelleSip.Foundation.Text

/-
This file develops the writing of values in a text and the reading of such texts.
-/

namespace Foundation

/-- The decimal text of an integer, with a sign when it is negative. -/
def decimal : Int → List Char
  | .ofNat number => Nat.toDigits 10 number
  | .negSucc number => '-' :: Nat.toDigits 10 (number + 1)

/-- A writer and a reader of values. The values that fit are read back, only such values are read, and their texts
consist of the characters of an alphabet. -/
structure Codec (α : Type) where
  write : α → List Char
  read : List Char → Option α
  alphabet : Char → Bool
  Fits : α → Prop
  read_write : ∀ value, Fits value → read (write value) = some value
  fits : ∀ text value, read text = some value → Fits value
  within : ∀ value, Fits value → ∀ character ∈ write value, alphabet character = true

namespace Codec

variable {α β : Type}

/-- The texts of some characters. -/
def readChars (allowed : Char → Bool) (text : List Char) : Option (List Char) :=
  if text.all allowed then some text else none

theorem readChars_of_all {allowed : Char → Bool} {text : List Char} (all : text.all allowed = true) :
    readChars allowed text = some text := by
  rw [readChars, if_pos all]

theorem all_of_readChars {allowed : Char → Bool} {text value : List Char} (read : readChars allowed text = some value) :
    value.all allowed = true := by
  rw [readChars] at read
  split at read
  · next all => rwa [← Option.some.inj read]
  · cases read

def chars (allowed : Char → Bool) : Codec (List Char) where
  write text := text
  read := readChars allowed
  alphabet := allowed
  Fits text := text.all allowed = true
  read_write _ := readChars_of_all
  fits _ _ := all_of_readChars
  within _ := List.all_eq_true.mp

/-- The digits of a number. -/
def readNumber (text : List Char) : Option Int :=
  if text ≠ [] ∧ text.all Char.isDigit then some (Nat.ofDigitChars 10 text 0 : Nat) else none

theorem isDigit_of_mem_toDigits {number : Nat} {character : Char} (among : character ∈ Nat.toDigits 10 number) :
    character.isDigit = true :=
  Nat.isDigit_of_mem_toDigits (by decide) (by decide) among

theorem decimal_natCast (number : Nat) : decimal number = Nat.toDigits 10 number := rfl

theorem readNumber_decimal (number : Int) (natural : 0 ≤ number) : readNumber (decimal number) = some number := by
  obtain ⟨number, rfl⟩ := Int.eq_ofNat_of_zero_le natural
  have digits : (Nat.toDigits 10 number).all Char.isDigit = true :=
    List.all_eq_true.mpr fun character among => isDigit_of_mem_toDigits among
  rw [decimal_natCast, readNumber, if_pos ⟨Nat.toDigits_ne_nil, digits⟩, Nat.ofDigitChars_ten_toDigits]

theorem readNumber_natural (text : List Char) (number : Int) (read : readNumber text = some number) : 0 ≤ number := by
  rw [readNumber] at read
  split at read
  · rw [← Option.some.inj read]
    exact Int.natCast_nonneg _
  · cases read

theorem decimal_digits (number : Int) (natural : 0 ≤ number) (character : Char) (among : character ∈ decimal number) :
    character.isDigit = true := by
  obtain ⟨number, rfl⟩ := Int.eq_ofNat_of_zero_le natural
  exact isDigit_of_mem_toDigits among

def number : Codec Int where
  write := decimal
  read := readNumber
  alphabet := Char.isDigit
  Fits number := 0 ≤ number
  read_write := readNumber_decimal
  fits := readNumber_natural
  within := decimal_digits

/-- The values with a property. -/
def filter (codec : Codec α) (property : α → Bool) : Codec α where
  write := codec.write
  read text := (codec.read text).filter property
  alphabet := codec.alphabet
  Fits value := codec.Fits value ∧ property value = true
  read_write value fits := by rw [codec.read_write value fits.1, Option.filter_some_pos fits.2]
  fits text value read := by
    obtain ⟨read, holds⟩ := Option.filter_eq_some_iff.mp read
    exact ⟨codec.fits text value read, holds⟩
  within value fits := codec.within value fits.1

/-- Values that are written as other values. -/
def via (codec : Codec β) (into : α → β) (back : β → Option α)
    (law : ∀ other value, codec.Fits other → back other = some value →
      codec.Fits (into value) ∧ back (into value) = some value) : Codec α where
  write value := codec.write (into value)
  read text := (codec.read text).bind back
  alphabet := codec.alphabet
  Fits value := codec.Fits (into value) ∧ back (into value) = some value
  read_write value fits := by rw [codec.read_write _ fits.1, Option.bind_some, fits.2]
  fits text value read := by
    obtain ⟨other, read, same⟩ := Option.bind_eq_some_iff.mp read
    exact law other value (codec.fits text other read) same
  within value fits := codec.within _ fits.1

/-- Values that stand for other values. -/
def imap (codec : Codec β) (into : α → β) (back : β → α) (left : ∀ value, back (into value) = value)
    (right : ∀ other, into (back other) = other) : Codec α where
  write value := codec.write (into value)
  read text := (codec.read text).map back
  alphabet := codec.alphabet
  Fits value := codec.Fits (into value)
  read_write value fits := by rw [codec.read_write _ fits, Option.map_some, left]
  fits text value read := by
    obtain ⟨other, found, rfl⟩ := Option.map_eq_some_iff.mp read
    rw [right]
    exact codec.fits text other found
  within value fits := codec.within _ fits

/-- The text before the first mark and the text behind it. -/
def cut (mark : Char) : List Char → Option (List Char × List Char)
  | [] => none
  | character :: rest =>
      if character = mark then some ([], rest) else (cut mark rest).map fun parts => (character :: parts.1, parts.2)

theorem cut_append {mark : Char} {before : List Char} (absent : mark ∉ before) (after : List Char) :
    cut mark (before ++ mark :: after) = some (before, after) := by
  induction before with
  | nil => rw [List.nil_append, cut, if_pos rfl]
  | cons character before ih =>
      have other : character ≠ mark := fun same => absent (same ▸ List.mem_cons_self)
      rw [List.cons_append, cut, if_neg other, ih fun among => absent (List.mem_cons_of_mem _ among), Option.map_some]

theorem cut_absent {mark : Char} {text : List Char} (absent : mark ∉ text) : cut mark text = none := by
  induction text with
  | nil => rw [cut]
  | cons character text ih =>
      have other : character ≠ mark := fun same => absent (same ▸ List.mem_cons_self)
      rw [cut, if_neg other, ih fun among => absent (List.mem_cons_of_mem _ among), Option.map_none]

theorem absent_of_fits (codec : Codec α) {mark : Char} (apart : codec.alphabet mark = false) {value : α}
    (fits : codec.Fits value) : mark ∉ codec.write value := by
  intro among
  have allowed := codec.within value fits mark among
  rw [apart] at allowed
  exact absurd allowed Bool.false_ne_true

def readPair (mark : Char) (left : Codec α) (right : Codec β) (text : List Char) : Option (α × β) := do
  let parts ← cut mark text
  let first ← left.read parts.1
  let second ← right.read parts.2
  return (first, second)

/-- Two values with a mark between them. -/
def pair (mark : Char) (left : Codec α) (right : Codec β) (apart : left.alphabet mark = false := by decide) :
    Codec (α × β) where
  write values := left.write values.1 ++ mark :: right.write values.2
  read := readPair mark left right
  alphabet character := left.alphabet character || character == mark || right.alphabet character
  Fits values := left.Fits values.1 ∧ right.Fits values.2
  read_write values fits := by
    rw [readPair, cut_append (left.absent_of_fits apart fits.1)]
    simp [left.read_write _ fits.1, right.read_write _ fits.2]
  fits text values read := by
    simp only [readPair, Option.pure_def, Option.bind_eq_bind, Option.bind_eq_some_iff, Option.some.injEq] at read
    obtain ⟨parts, -, first, readFirst, second, readSecond, rfl⟩ := read
    exact ⟨left.fits _ first readFirst, right.fits _ second readSecond⟩
  within values fits character among := by
    simp only [Bool.or_eq_true, beq_iff_eq]
    rcases List.mem_append.mp among with first | second
    · exact .inl (.inl (left.within _ fits.1 character first))
    · rcases List.mem_cons.mp second with same | second
      · exact .inl (.inr same)
      · exact .inr (right.within _ fits.2 character second)

def writeMaybe (mark : Char) (left : Codec α) (right : Codec β) (values : α × Option β) : List Char :=
  left.write values.1 ++ values.2.elim [] (mark :: right.write ·)

def readMaybe (mark : Char) (left : Codec α) (right : Codec β) (text : List Char) : Option (α × Option β) :=
  match cut mark text with
  | some _ => (readPair mark left right text).map fun values => (values.1, some values.2)
  | none => (left.read text).map fun first => (first, none)

/-- A value that a mark and another value may follow. -/
def maybe (mark : Char) (left : Codec α) (right : Codec β) (apart : left.alphabet mark = false := by decide) :
    Codec (α × Option β) where
  write := writeMaybe mark left right
  read := readMaybe mark left right
  alphabet := (pair mark left right apart).alphabet
  Fits values := left.Fits values.1 ∧ ∀ second ∈ values.2, right.Fits second
  read_write values fits := by
    obtain ⟨first, second⟩ := values
    have absent := left.absent_of_fits apart fits.1
    cases second with
    | none =>
        simp only [writeMaybe, Option.elim_none, List.append_nil]
        rw [readMaybe, cut_absent absent]
        simp only [left.read_write _ fits.1, Option.map_some]
    | some second =>
        have both := (pair mark left right apart).read_write (first, second) ⟨fits.1, fits.2 second rfl⟩
        simp only [writeMaybe, Option.elim_some]
        rw [readMaybe, cut_append absent]
        simp only [pair] at both
        simp only [both, Option.map_some]
  fits text values read := by
    rw [readMaybe] at read
    split at read
    · obtain ⟨pairs, found, rfl⟩ := Option.map_eq_some_iff.mp read
      have both := (pair mark left right apart).fits text pairs found
      exact ⟨both.1, fun second same => Option.some.inj same ▸ both.2⟩
    · obtain ⟨first, found, rfl⟩ := Option.map_eq_some_iff.mp read
      exact ⟨left.fits text first found, fun second absent => absurd absent (Option.not_mem_none second)⟩
  within values fits character among := by
    obtain ⟨first, second⟩ := values
    cases second with
    | none =>
        simp only [writeMaybe, Option.elim_none, List.append_nil] at among
        simp [pair, left.within _ fits.1 character among]
    | some second =>
        exact (pair mark left right apart).within (first, second) ⟨fits.1, fits.2 second rfl⟩ character among

def readAll (codec : Codec α) : List (List Char) → Option (List α)
  | [] => some []
  | text :: texts => do
      let value ← codec.read text
      let values ← readAll codec texts
      return value :: values

theorem readAll_write (codec : Codec α) {values : List α} (fits : ∀ value ∈ values, codec.Fits value) :
    readAll codec (values.map codec.write) = some values := by
  induction values with
  | nil => rfl
  | cons value values ih =>
      have first := codec.read_write value (fits value List.mem_cons_self)
      have others := ih fun other among => fits other (List.mem_cons_of_mem _ among)
      simp [readAll, first, others]

theorem readAll_fits (codec : Codec α) {texts : List (List Char)} {values : List α}
    (read : readAll codec texts = some values) : ∀ value ∈ values, codec.Fits value := by
  induction texts generalizing values with
  | nil =>
      rw [readAll] at read
      rw [← Option.some.inj read]
      simp
  | cons text texts ih =>
      simp only [readAll, Option.pure_def, Option.bind_eq_bind, Option.bind_eq_some_iff, Option.some.injEq] at read
      obtain ⟨value, readValue, others, readOthers, rfl⟩ := read
      intro other among
      rcases List.mem_cons.mp among with rfl | among
      · exact codec.fits text other readValue
      · exact ih readOthers other among

theorem segments_flatMap {mark : Char} {first : List Char} (absent : mark ∉ first) {others : List (List Char)}
    (absents : ∀ other ∈ others, mark ∉ other) :
    segments [mark] (first ++ others.flatMap (mark :: ·)) = first :: others := by
  have single : ∀ text : List Char, mark ∉ text → segments [mark] text = [text] := by
    intro text absent
    apply segments_eq_singleton
    intro stands
    exact absent (stands.subset List.mem_cons_self)
  induction others generalizing first with
  | nil => rw [List.flatMap_nil, List.append_nil, single first absent]
  | cons other others ih =>
      have borderless : Borderless [mark] := ⟨mark, [], rfl, List.not_mem_nil⟩
      have rest := ih (absents other List.mem_cons_self) fun other among => absents other (List.mem_cons_of_mem _ among)
      have split : first ++ (other :: others).flatMap (mark :: ·) =
          first ++ ([mark] ++ (other ++ others.flatMap (mark :: ·))) := by
        rw [List.flatMap_cons, List.cons_append, List.singleton_append]
      rw [split, segments_append borderless, single first absent, rest, List.singleton_append]

def readFollowed (mark : Char) (left : Codec α) (right : Codec β) (text : List Char) : Option (α × List β) :=
  match segments [mark] text with
  | [] => none
  | before :: afters => do
      let first ← left.read before
      let others ← readAll right afters
      return (first, others)

/-- A value that others follow, with a mark before each of them. -/
def followed (mark : Char) (left : Codec α) (right : Codec β) (apart : left.alphabet mark = false := by decide)
    (aparts : right.alphabet mark = false := by decide) : Codec (α × List β) where
  write values := left.write values.1 ++ (values.2.map right.write).flatMap (mark :: ·)
  read := readFollowed mark left right
  alphabet character := left.alphabet character || character == mark || right.alphabet character
  Fits values := left.Fits values.1 ∧ ∀ value ∈ values.2, right.Fits value
  read_write values fits := by
    have cuts : segments [mark] (left.write values.1 ++ (values.2.map right.write).flatMap (mark :: ·)) =
        left.write values.1 :: values.2.map right.write := by
      apply segments_flatMap (left.absent_of_fits apart fits.1)
      intro other among
      obtain ⟨value, member, rfl⟩ := List.mem_map.mp among
      exact right.absent_of_fits aparts (fits.2 value member)
    rw [readFollowed, cuts]
    simp [left.read_write _ fits.1, readAll_write right fits.2]
  fits text values read := by
    rw [readFollowed] at read
    split at read
    · cases read
    · simp only [Option.pure_def, Option.bind_eq_bind, Option.bind_eq_some_iff, Option.some.injEq] at read
      obtain ⟨first, readFirst, others, readOthers, rfl⟩ := read
      exact ⟨left.fits _ first readFirst, readAll_fits right readOthers⟩
  within values fits character among := by
    simp only [Bool.or_eq_true, beq_iff_eq]
    rcases List.mem_append.mp among with first | among
    · exact .inl (.inl (left.within _ fits.1 character first))
    · obtain ⟨text, texts, among⟩ := List.mem_flatMap.mp among
      obtain ⟨value, values, rfl⟩ := List.mem_map.mp texts
      rcases List.mem_cons.mp among with same | among
      · exact .inl (.inr same)
      · exact .inr (right.within _ (fits.2 value values) character among)

section Simp

variable (codec : Codec α) (left : Codec α) (right : Codec β) (mark : Char) (apart : left.alphabet mark = false)

@[simp] theorem chars_write (allowed : Char → Bool) (text : List Char) : (chars allowed).write text = text := rfl

@[simp] theorem chars_fits (allowed : Char → Bool) (text : List Char) :
    (chars allowed).Fits text ↔ text.all allowed = true := Iff.rfl

@[simp] theorem number_write (value : Int) : number.write value = decimal value := rfl

@[simp] theorem number_fits (value : Int) : number.Fits value ↔ 0 ≤ value := Iff.rfl

@[simp] theorem filter_write (property : α → Bool) (value : α) :
    (codec.filter property).write value = codec.write value := rfl

@[simp] theorem filter_fits (property : α → Bool) (value : α) :
    (codec.filter property).Fits value ↔ codec.Fits value ∧ property value = true := Iff.rfl

@[simp] theorem pair_write (values : α × β) :
    (pair mark left right apart).write values = left.write values.1 ++ mark :: right.write values.2 := rfl

@[simp] theorem pair_fits (values : α × β) :
    (pair mark left right apart).Fits values ↔ left.Fits values.1 ∧ right.Fits values.2 := Iff.rfl

@[simp] theorem maybe_write (values : α × Option β) :
    (maybe mark left right apart).write values =
      left.write values.1 ++ values.2.elim [] (mark :: right.write ·) := rfl

@[simp] theorem maybe_fits (values : α × Option β) :
    (maybe mark left right apart).Fits values ↔ left.Fits values.1 ∧ ∀ second ∈ values.2, right.Fits second := Iff.rfl

@[simp] theorem followed_write (aparts : right.alphabet mark = false) (values : α × List β) :
    (followed mark left right apart aparts).write values =
      left.write values.1 ++ (values.2.map right.write).flatMap (mark :: ·) := rfl

@[simp] theorem followed_fits (aparts : right.alphabet mark = false) (values : α × List β) :
    (followed mark left right apart aparts).Fits values ↔
      left.Fits values.1 ∧ ∀ value ∈ values.2, right.Fits value := Iff.rfl

end Simp

@[simp] theorem via_write (codec : Codec β) (into : α → β) (back : β → Option α)
    (law : ∀ other value, codec.Fits other → back other = some value →
      codec.Fits (into value) ∧ back (into value) = some value) (value : α) :
    (codec.via into back law).write value = codec.write (into value) := rfl

@[simp] theorem via_fits (codec : Codec β) (into : α → β) (back : β → Option α)
    (law : ∀ other value, codec.Fits other → back other = some value →
      codec.Fits (into value) ∧ back (into value) = some value) (value : α) :
    (codec.via into back law).Fits value ↔ codec.Fits (into value) ∧ back (into value) = some value := Iff.rfl

@[simp] theorem imap_write (codec : Codec β) (into : α → β) (back : β → α) (left : ∀ value, back (into value) = value)
    (right : ∀ other, into (back other) = other) (value : α) :
    (codec.imap into back left right).write value = codec.write (into value) := rfl

@[simp] theorem imap_fits (codec : Codec β) (into : α → β) (back : β → α) (left : ∀ value, back (into value) = value)
    (right : ∀ other, into (back other) = other) (value : α) :
    (codec.imap into back left right).Fits value ↔ codec.Fits (into value) := Iff.rfl

end Codec

end Foundation
