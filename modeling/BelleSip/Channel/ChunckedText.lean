import BelleSip.Channel.EndOfStream
import BelleSip.Foundation.Percent
import Mathlib.Data.List.TakeWhile

/-
This file defines the texts of chunked bodies, and proves what `strstr` and `strtol` find in them.
-/

namespace BelleSip

open Foundation

/-- The digits at which `strtol` in base 16 begins to read a number. -/
def strtolText (text : CString) : CString :=
  match text.dropWhile isSpaceByte with
  | [] => []
  | sign :: rest => if sign = 45 ∨ sign = 43 then skipHexPrefix rest else skipHexPrefix (sign :: rest)

/-- `strtol` finds a number in the text. -/
def HasNumber (text : CString) : Prop := (strtolText text).takeWhile (fun byte => (hexDigit byte).isSome) ≠ []

namespace ChunckedBody

/-- A line that the parser can find: neither a line end nor a terminator is in it. -/
structure Line where
  bytes : CString
  nonempty : bytes ≠ []
  unbroken : strstr lineEnd bytes = none
  unterminated : 0 ∉ bytes

/-- The end of a size line behind its digits: nothing, or the semicolon of an extension, perhaps behind blanks. -/
def IsExtension (text : CString) : Prop :=
  text = [] ∨ (text.dropWhile fun byte => byte == 32 || byte == 9).head? = some 59

instance (text : CString) : Decidable (IsExtension text) := inferInstanceAs (Decidable (_ ∨ _))

/-- The line with the size of a chunk: hexadecimal digits and perhaps an extension. -/
structure SizeLine where
  digits : CString
  extension : CString
  nonempty : digits ≠ []
  hexadecimal : ∀ byte ∈ digits, (hexDigit byte).isSome = true
  separated : IsExtension extension
  unbroken : strstr lineEnd extension = none
  unterminated : 0 ∉ extension

def SizeLine.bytes (line : SizeLine) : CString := line.digits ++ line.extension

def SizeLine.size (line : SizeLine) : Nat := hexMagnitude line.digits

/-- A line that is malformed or too large: it is no size line, or one with a size that is no `int`. -/
def Line.Improper (line : Line) : Prop := ∀ sized : SizeLine, sized.bytes = line.bytes → 2147483647 < sized.size

/-- The bytes of a chunk, as many as its line says. -/
structure Chunk where
  line : SizeLine
  data : List UInt8
  size : line.size = data.length
  nonempty : data ≠ []
  fits : data.length ≤ 2147483647

def Chunk.text (chunk : Chunk) : List UInt8 := chunk.line.bytes ++ lineEnd ++ chunk.data ++ lineEnd

theorem strstr_nil : strstr lineEnd [] = none := rfl

theorem strstr_prefix {mark first second : CString} {position : Nat} (begins : first <+: second)
    (found : strstr mark first = some position) : strstr mark second = some position := by
  induction first generalizing second position with
  | nil =>
      rw [strstr] at found
      split at found
      next empty =>
        cases found
        cases second with
        | nil => rw [strstr, if_pos empty]
        | cons byte rest =>
            rw [strstr, if_pos]
            rw [empty]
            exact List.nil_prefix
      next => cases found
  | cons byte rest ih =>
      obtain ⟨more, rfl⟩ := begins
      rw [List.cons_append, strstr]
      rw [strstr] at found
      split at found
      next here =>
        cases found
        have longer : mark <+: byte :: (rest ++ more) := here.trans (List.prefix_append (byte :: rest) more)
        rw [if_pos longer]
      next later =>
        obtain ⟨before, foundBefore, rfl⟩ := Option.map_eq_some_iff.mp found
        split
        next early =>
          have long := InputStream.strstr_inside foundBefore
          refine absurd (List.prefix_of_prefix_length_le early (List.prefix_append (byte :: rest) more) ?_) later
          rw [List.length_cons]
          omega
        next => rw [ih (List.prefix_append rest more) foundBefore]; rfl

theorem strstr_suffix {first second : CString} (ends : first <:+ second) (unbroken : strstr lineEnd second = none) :
    strstr lineEnd first = none := by
  obtain ⟨before, rfl⟩ := ends
  induction before with
  | nil => exact unbroken
  | cons byte before ih =>
      rw [List.cons_append, strstr] at unbroken
      split at unbroken
      next => cases unbroken
      next => exact ih (Option.map_eq_none_iff.mp unbroken)

/-- The first line end behind a line is the one that ends it. -/
theorem strstr_line {line : CString} (unbroken : strstr lineEnd line = none) (rest : CString) :
    strstr lineEnd (line ++ lineEnd ++ rest) = some line.length := by
  induction line with
  | nil => rfl
  | cons byte line ih =>
      rw [strstr] at unbroken
      split at unbroken
      next => cases unbroken
      next later =>
        rw [List.cons_append, List.cons_append, strstr, if_neg]
        · rw [ih (Option.map_eq_none_iff.mp unbroken)]
          rfl
        · intro here
          cases line with
          | nil => exact absurd (List.cons_prefix_cons.mp (List.cons_prefix_cons.mp here).2).1 (by decide)
          | cons next line =>
              obtain ⟨first, second⟩ := List.cons_prefix_cons.mp here
              obtain ⟨second, -⟩ := List.cons_prefix_cons.mp second
              refine later ?_
              rw [← first, ← second]
              exact List.prefix_append [13, 10] _

/-- No line end has been received before the whole line. -/
theorem strstr_short {line text : CString} (unbroken : strstr lineEnd line = none) (rest : CString)
    (begins : text <+: line ++ lineEnd ++ rest) (short : text.length < line.length + 2) :
    strstr lineEnd text = none := by
  cases found : strstr lineEnd text with
  | none => rfl
  | some position =>
      have inside := InputStream.strstr_inside found
      have same := strstr_prefix begins found
      rw [strstr_line unbroken rest] at same
      have two : lineEnd.length = 2 := rfl
      have equal := Option.some.inj same
      omega

theorem hexDigit_facts (byte : UInt8) :
    (hexDigit byte).isSome = true → isSpaceByte byte = false ∧ byte ≠ 45 ∧ byte ≠ 43 ∧ byte ≠ 0 ∧ byte ≠ 13 ∧
      upperChar byte ≠ 88 := by
  revert byte
  apply Percent.all_bytes
  decide +kernel

theorem takeWhile_line (property : UInt8 → Bool) {byte : UInt8} (fails : property byte = false) (line rest : CString) :
    (line ++ byte :: rest).takeWhile property = line.takeWhile property := by
  induction line with
  | nil => rw [List.nil_append, List.takeWhile_cons, fails]; rfl
  | cons first line ih => rw [List.cons_append, List.takeWhile_cons, List.takeWhile_cons, ih]

theorem hexMagnitude_line (line rest : CString) : hexMagnitude (line ++ 13 :: rest) = hexMagnitude line := by
  unfold hexMagnitude
  rw [takeWhile_line _ (by decide)]

theorem skipHexPrefix_line (line rest : CString) :
    skipHexPrefix (line ++ 13 :: rest) = skipHexPrefix line ++ 13 :: rest := by
  match line with
  | [] =>
      cases rest with
      | nil => rfl
      | cons second rest =>
          cases rest with
          | nil => rfl
          | cons third rest => rw [List.nil_append, skipHexPrefix, if_neg (by simp)]; rfl
  | [first] =>
      cases rest with
      | nil => rfl
      | cons third rest =>
          have other : upperChar 13 ≠ 88 := by decide
          rw [List.singleton_append, skipHexPrefix, if_neg (by simp [other])]
          rfl
  | [first, second] =>
      have other : (hexDigit 13).isSome = false := by decide
      rw [List.cons_append, List.singleton_append, skipHexPrefix, if_neg (by simp [other])]
      rfl
  | first :: second :: third :: line =>
      rw [List.cons_append, List.cons_append, List.cons_append, skipHexPrefix, skipHexPrefix]
      split <;> rfl

/-- Without a number `strtol` returns 0. -/
theorem hasNumber_of_strtol16 {text : CString} (differs : strtol16 text ≠ 0) : HasNumber text := by
  intro numberless
  apply differs
  rw [strtolText] at numberless
  rw [strtol16]
  split
  next => rfl
  next sign rest same =>
    rw [same] at numberless
    dsimp only at numberless
    split
    next minus =>
      rw [if_pos (.inl minus)] at numberless
      rw [hexMagnitude, numberless]
      rfl
    next notMinus =>
      split
      next plus =>
        rw [if_pos (.inr plus)] at numberless
        rw [hexMagnitude, numberless]
        rfl
      next notPlus =>
        rw [if_neg (by simp [notMinus, notPlus])] at numberless
        rw [hexMagnitude, numberless]
        rfl

/-- A number ends with its line. -/
theorem strtol16_line {line : CString} (number : HasNumber line) (rest : CString) :
    strtol16 (line ++ 13 :: rest) = strtol16 line := by
  have stops : line.dropWhile isSpaceByte ≠ [] := by
    intro blank
    apply number
    rw [strtolText, blank]
    rfl
  obtain ⟨sign, more, same⟩ := List.exists_cons_of_ne_nil stops
  have skipped : (line ++ 13 :: rest).dropWhile isSpaceByte = sign :: (more ++ 13 :: rest) := by
    rw [List.dropWhile_append, same]
    rfl
  rw [strtol16, strtol16, skipped, same]
  dsimp only
  rw [← List.cons_append, skipHexPrefix_line, skipHexPrefix_line, hexMagnitude_line, hexMagnitude_line]

namespace SizeLine

variable (line : SizeLine)

theorem digits_cons : ∃ digit more, line.digits = digit :: more ∧ (hexDigit digit).isSome = true := by
  obtain ⟨digit, more, same⟩ := List.exists_cons_of_ne_nil line.nonempty
  refine ⟨digit, more, same, line.hexadecimal digit ?_⟩
  rw [same]
  exact List.mem_cons_self

theorem extension_facts : ∀ byte ∈ line.extension.head?, (hexDigit byte).isSome = false ∧ upperChar byte ≠ 88 := by
  intro byte head
  have separated := line.separated
  cases same : line.extension with
  | nil =>
      rw [same] at head
      cases head
  | cons first rest =>
      rw [same] at head separated
      obtain rfl : first = byte := Option.some.inj head
      cases blank : (first == 32 || first == 9) with
      | true =>
          have either : first = 32 ∨ first = 9 := by simpa using blank
          rcases either with rfl | rfl <;> decide
      | false =>
          rcases separated with impossible | semicolon
          · cases impossible
          · rw [List.dropWhile_cons, blank] at semicolon
            obtain rfl : first = 59 := Option.some.inj semicolon
            decide

theorem takeWhile_self : line.digits.takeWhile (fun byte => (hexDigit byte).isSome) = line.digits :=
  List.takeWhile_eq_self_iff.mpr line.hexadecimal

theorem takeWhile_digits :
    line.bytes.takeWhile (fun byte => (hexDigit byte).isSome) = line.digits := by
  cases same : line.extension with
  | nil => rw [bytes, same, List.append_nil, line.takeWhile_self]
  | cons byte rest =>
      have fails := (line.extension_facts byte (by rw [same]; rfl)).1
      rw [bytes, same, takeWhile_line _ fails, line.takeWhile_self]

theorem skipHexPrefix_bytes : skipHexPrefix line.bytes = line.bytes := by
  obtain ⟨digit, more, same, -⟩ := line.digits_cons
  have second : ∀ letter ∈ (more ++ line.extension).head?, upperChar letter ≠ 88 := by
    intro letter head
    cases more with
    | nil => exact (line.extension_facts letter head).2
    | cons next more =>
        obtain rfl : next = letter := Option.some.inj head
        exact (hexDigit_facts next (line.hexadecimal next (by simp [same]))).2.2.2.2.2
  rw [bytes, same, List.cons_append]
  cases tail : more ++ line.extension with
  | nil => rfl
  | cons letter rest =>
      cases rest with
      | nil => rfl
      | cons third rest =>
          have other := second letter (by rw [tail]; rfl)
          rw [skipHexPrefix, if_neg (by simp [other])]

theorem dropWhile_bytes : line.bytes.dropWhile isSpaceByte = line.bytes := by
  obtain ⟨digit, more, same, hexadecimal⟩ := line.digits_cons
  rw [bytes, same, List.cons_append, List.dropWhile_cons, (hexDigit_facts digit hexadecimal).1]
  rfl

theorem hasNumber : HasNumber line.bytes := by
  obtain ⟨digit, more, same, hexadecimal⟩ := line.digits_cons
  have facts := hexDigit_facts digit hexadecimal
  have text : strtolText line.bytes = line.bytes := by
    have skipped := line.skipHexPrefix_bytes
    rw [strtolText, line.dropWhile_bytes]
    rw [bytes, same, List.cons_append] at skipped ⊢
    dsimp only
    rw [if_neg (by simp [facts]), skipped]
  rw [HasNumber, text, line.takeWhile_digits]
  exact line.nonempty

theorem magnitude : hexMagnitude line.bytes = line.size := by
  rw [hexMagnitude, line.takeWhile_digits, size, hexMagnitude, line.takeWhile_self]

/-- The number of the line is its size, as far as a `long` has room. -/
theorem strtol16_bytes : strtol16 line.bytes = min (line.size : Int) 9223372036854775807 := by
  obtain ⟨digit, more, same, hexadecimal⟩ := line.digits_cons
  have facts := hexDigit_facts digit hexadecimal
  have skipped := line.skipHexPrefix_bytes
  have magnitude := line.magnitude
  rw [strtol16, line.dropWhile_bytes]
  rw [bytes, same, List.cons_append] at skipped magnitude ⊢
  dsimp only
  rw [if_neg facts.2.1, if_neg facts.2.2.1, skipped, magnitude]

theorem strstr_digits {digits rest : CString} (hexadecimal : ∀ byte ∈ digits, (hexDigit byte).isSome = true)
    (unbroken : strstr lineEnd rest = none) : strstr lineEnd (digits ++ rest) = none := by
  induction digits with
  | nil => exact unbroken
  | cons digit more ih =>
      rw [List.cons_append, strstr, if_neg]
      · rw [ih fun byte among => hexadecimal byte (List.mem_cons_of_mem _ among)]
        rfl
      · intro here
        have facts := hexDigit_facts digit (hexadecimal digit List.mem_cons_self)
        exact facts.2.2.2.2.1 (List.cons_prefix_cons.mp here).1.symm

/-- The line as the parser finds it. -/
def toLine : Line where
  bytes := line.bytes
  nonempty := by
    intro empty
    exact line.nonempty (List.append_eq_nil_iff.mp empty).1
  unbroken := by
    exact strstr_digits line.hexadecimal line.unbroken
  unterminated := by
    rw [bytes, List.mem_append, not_or]
    refine ⟨fun among => ?_, line.unterminated⟩
    exact (hexDigit_facts 0 (line.hexadecimal 0 among)).2.2.2.1 rfl

/-- A size line has its digits and its extension where they begin. -/
theorem parts : line.digits = line.bytes.takeWhile (fun byte => (hexDigit byte).isSome) ∧
    line.extension = line.bytes.dropWhile (fun byte => (hexDigit byte).isSome) := by
  have digits := line.takeWhile_digits
  refine ⟨digits.symm, ?_⟩
  have whole := List.takeWhile_append_dropWhile (p := fun byte => (hexDigit byte).isSome) (l := line.bytes)
  rw [digits, bytes] at whole
  exact (List.append_cancel_left whole).symm

end SizeLine

theorem Chunk.strtol16_line (chunk : Chunk) : strtol16 chunk.line.bytes = chunk.data.length := by
  rw [chunk.line.strtol16_bytes, chunk.size]
  have fits := chunk.fits
  omega

/-- The digits and the rest of a line say whether it is improper. -/
theorem Line.improper_iff (line : Line) :
    line.Improper ↔ ¬(line.bytes.takeWhile (fun byte => (hexDigit byte).isSome) ≠ [] ∧
      IsExtension (line.bytes.dropWhile fun byte => (hexDigit byte).isSome) ∧
      hexMagnitude line.bytes ≤ 2147483647) := by
  have whole := List.takeWhile_append_dropWhile (p := fun byte => (hexDigit byte).isSome) (l := line.bytes)
  constructor
  · rintro improper ⟨nonempty, separated, small⟩
    let sized : SizeLine := {
      digits := line.bytes.takeWhile fun byte => (hexDigit byte).isSome
      extension := line.bytes.dropWhile fun byte => (hexDigit byte).isSome
      nonempty := nonempty
      hexadecimal := fun _ among => List.mem_takeWhile_imp (p := fun byte => (hexDigit byte).isSome) among
      separated := separated
      unbroken := strstr_suffix (List.dropWhile_suffix _) line.unbroken
      unterminated := fun among => line.unterminated ((List.dropWhile_sublist _).subset among) }
    have same : sized.bytes = line.bytes := whole
    have large := improper sized same
    rw [← sized.magnitude, same] at large
    exact absurd large (Nat.not_lt.mpr small)
  · intro fails sized same
    obtain ⟨digits, extension⟩ := sized.parts
    rw [same] at digits extension
    by_contra small
    refine fails ⟨digits ▸ sized.nonempty, extension ▸ sized.separated, ?_⟩
    rw [← same, sized.magnitude]
    exact Nat.not_lt.mp small

instance (line : Line) : Decidable line.Improper := decidable_of_iff _ line.improper_iff.symm

end ChunckedBody

end BelleSip
