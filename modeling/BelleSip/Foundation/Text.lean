import Mathlib.Data.List.TakeWhile
import Mathlib.Tactic.Common

/-
This file develops the conversions of the C library between integers and their decimal text.
-/

namespace Foundation.Text

/-- This is `isspace` in the C locale. -/
def isSpace (character : Char) : Bool :=
  character = ' ' || (9 ≤ character.toNat && character.toNat ≤ 13)

/-- The number that the leading digits of a text write. -/
def magnitude (text : List Char) : Nat := Nat.ofDigitChars 10 (text.takeWhile Char.isDigit) 0

/-- The largest value of a `long`. -/
def longMax : Int := 9223372036854775807

/-- This is `strtol` in base ten, which saturates. -/
def strtol (text : List Char) : Int :=
  match text.dropWhile isSpace with
  | '-' :: digits => max (-(magnitude digits : Int)) (-longMax - 1)
  | '+' :: digits => min (magnitude digits : Int) longMax
  | digits => min (magnitude digits : Int) longMax

/-- This is `atoi`, which keeps the low 32 bits of `strtol`. -/
def atoi (text : String) : Int := (strtol text.toList).bmod UInt32.size

theorem magnitude_toDigits (number : Nat) : magnitude (Nat.toDigits 10 number) = number := by
  have digits : (Nat.toDigits 10 number).takeWhile Char.isDigit = Nat.toDigits 10 number := by
    apply List.takeWhile_eq_self_iff.mpr
    intro character among
    exact Nat.isDigit_of_mem_toDigits (by decide) (by decide) among
  rw [magnitude, digits, Nat.ofDigitChars_ten_toDigits]

theorem isSpace_of_isDigit {character : Char} (digit : character.isDigit = true) :
    isSpace character = false := by
  have range : 48 ≤ character.toNat ∧ character.toNat ≤ 57 := by
    simp only [Char.isDigit, Bool.and_eq_true, decide_eq_true_eq, UInt32.le_iff_toNat_le] at digit
    exact digit
  have notBlank : character ≠ ' ' := by
    rintro rfl
    exact absurd digit (by decide)
  simp only [isSpace, notBlank, decide_false, Bool.false_or, Bool.and_eq_false_iff,
    decide_eq_false_iff_not]
  omega

/-- A text that begins with neither a blank nor a sign is read from its beginning. -/
theorem strtol_unsigned {first : Char} {rest : List Char} (visible : isSpace first = false) (minus : first ≠ '-')
    (plus : first ≠ '+') : strtol (first :: rest) = min (magnitude (first :: rest) : Int) longMax := by
  have kept : (first :: rest).dropWhile isSpace = first :: rest := by
    simp [visible]
  unfold strtol
  rw [kept]
  split
  · next same => exact absurd (List.cons.inj same).1 minus
  · next same => exact absurd (List.cons.inj same).1 plus
  · rfl

theorem strtol_digits {digits : List Char} (begins : ∃ first rest, digits = first :: rest ∧ first.isDigit = true) :
    strtol digits = min (magnitude digits : Int) longMax := by
  obtain ⟨first, rest, rfl, digit⟩ := begins
  apply strtol_unsigned (isSpace_of_isDigit digit)
  · rintro rfl
    exact absurd digit (by decide)
  · rintro rfl
    exact absurd digit (by decide)

/-- The text that `snprintf` writes for a number that is no negative `int` is read back by `atoi`. -/
theorem atoi_repr {number : Nat} (small : number < 2147483648) : atoi number.repr = number := by
  have begins : ∃ first rest, Nat.toDigits 10 number = first :: rest ∧ first.isDigit = true := by
    obtain ⟨first, rest, split⟩ := List.exists_cons_of_ne_nil (Nat.toDigits_ne_nil (n := number) (b := 10))
    refine ⟨first, rest, split, ?_⟩
    apply Nat.isDigit_of_mem_toDigits (b := 10) (n := number) (by decide) (by decide)
    rw [split]
    exact List.mem_cons_self
  have range : UInt32.size = 4294967296 := rfl
  rw [atoi, Nat.toList_repr, strtol_digits begins, magnitude_toDigits, longMax,
    Int.min_eq_left (by omega), range]
  apply Int.bmod_eq_of_le <;> omega

end Foundation.Text
