import BelleSip.Foundation.Codec

/-
This file develops the conversion `%i` of `sscanf`, which finds the base of a number in its text, and the reading of
decimal texts that other characters follow.
-/

namespace Foundation.Scan

open Foundation Text

/-- The value of a digit in bases up to sixteen. -/
def digitValue (character : Char) : Option Nat :=
  if character.isDigit then some (character.toNat - '0'.toNat)
  else if 'a' ≤ character ∧ character ≤ 'f' then some (character.toNat - 'a'.toNat + 10)
  else if 'A' ≤ character ∧ character ≤ 'F' then some (character.toNat - 'A'.toNat + 10)
  else none

def isDigitOf (base : Nat) (character : Char) : Bool := (digitValue character).any (· < base)

/-- The number that digits write. -/
def valueOf (base : Nat) (digits : List Char) : Nat :=
  digits.foldl (fun value character => base * value + (digitValue character).getD 0) 0

/-- The base that the beginning of a number announces, and what is left of it. -/
def baseOf : List Char → Nat × List Char
  | '0' :: 'x' :: digits => (16, digits)
  | '0' :: 'X' :: digits => (16, digits)
  | '0' :: digits => (8, '0' :: digits)
  | digits => (10, digits)

/-- A number without sign, and what follows it. -/
def scanUnsigned (text : List Char) : Option (Nat × List Char) :=
  let (base, digits) := baseOf text
  if digits.takeWhile (isDigitOf base) = [] then none
  else some (valueOf base (digits.takeWhile (isDigitOf base)), digits.dropWhile (isDigitOf base))

/-- This is `%i`: the number, which saturates as a `long`, and what follows it. -/
def scanI (text : List Char) : Option (Int × List Char) :=
  match text.dropWhile isSpace with
  | '-' :: digits => (scanUnsigned digits).map fun read => (max (-(read.1 : Int)) (-longMax - 1), read.2)
  | '+' :: digits => (scanUnsigned digits).map fun read => (min (read.1 : Int) longMax, read.2)
  | digits => (scanUnsigned digits).map fun read => (min (read.1 : Int) longMax, read.2)

variable {number : Nat} {text tail : List Char} {character : Char}

theorem digitValue_of_isDigit (digit : character.isDigit = true) :
    digitValue character = some (character.toNat - '0'.toNat) := by
  rw [digitValue, if_pos digit]

theorem isDigitOf_ten (digit : character.isDigit = true) : isDigitOf 10 character = true := by
  have range : character.toNat ≤ 57 := by
    simp only [Char.isDigit, Bool.and_eq_true, decide_eq_true_eq, UInt32.le_iff_toNat_le] at digit
    exact digit.2
  rw [isDigitOf, digitValue_of_isDigit digit]
  have small : character.toNat - 48 < 10 := by omega
  exact decide_eq_true small

theorem foldl_digits {digits : List Char} (all : ∀ character ∈ digits, character.isDigit = true) (start : Nat) :
    digits.foldl (fun value character => 10 * value + (digitValue character).getD 0) start =
      Nat.ofDigitChars 10 digits start := by
  rw [Nat.ofDigitChars_eq_foldl]
  induction digits generalizing start with
  | nil => rfl
  | cons first digits inductionHypothesis =>
      rw [List.foldl_cons, List.foldl_cons, digitValue_of_isDigit (all first List.mem_cons_self), Option.getD_some]
      exact inductionHypothesis (fun other among => all other (List.mem_cons_of_mem _ among)) _

/-- Decimal digits have the value that they are printed from. -/
theorem valueOf_digits {digits : List Char} (all : ∀ character ∈ digits, character.isDigit = true) :
    valueOf 10 digits = Nat.ofDigitChars 10 digits 0 := foldl_digits all 0

/-- The digits of a positive number do not begin with a zero. -/
theorem toDigits_begins (positive : 0 < number) :
    ∃ first rest, Nat.toDigits 10 number = first :: rest ∧ first ≠ '0' ∧ first.isDigit = true := by
  induction number using Nat.strong_induction_on with
  | _ number inductionHypothesis =>
      by_cases single : number < 10
      · have visible : ∀ digit < 10, 0 < digit → Nat.digitChar digit ≠ '0' ∧ (Nat.digitChar digit).isDigit = true := by
          decide
        exact ⟨_, [], Nat.toDigits_of_lt_base single, visible number single positive⟩
      · obtain ⟨first, rest, digits, begins⟩ := inductionHypothesis (number / 10) (by omega) (by omega)
        refine ⟨first, rest ++ [Nat.digitChar (number % 10)], ?_, begins⟩
        rw [Nat.toDigits_of_base_le (by decide) (by omega), digits, List.cons_append]

/-- A printed number is read back when a blank follows it. -/
theorem scanUnsigned_toDigits (number : Nat) (tail : List Char) :
    scanUnsigned (Nat.toDigits 10 number ++ ' ' :: tail) = some (number, ' ' :: tail) := by
  rcases Nat.eq_zero_or_pos number with rfl | positive
  · rfl
  · obtain ⟨first, rest, digits, notZero, digit⟩ := toDigits_begins positive
    have decimalBase : baseOf (Nat.toDigits 10 number ++ ' ' :: tail) =
        (10, Nat.toDigits 10 number ++ ' ' :: tail) := by
      rw [digits, List.cons_append, baseOf.eq_4]
      · rintro _ same
        exact notZero (List.cons.inj same).1
      · rintro _ same
        exact notZero (List.cons.inj same).1
      · rintro _ same
        exact notZero (List.cons.inj same).1
    have all : ∀ character ∈ Nat.toDigits 10 number, isDigitOf 10 character = true := fun _ among =>
      isDigitOf_ten (Codec.isDigit_of_mem_toDigits among)
    have taken : (Nat.toDigits 10 number ++ ' ' :: tail).takeWhile (isDigitOf 10) = Nat.toDigits 10 number := by
      rw [List.takeWhile_append_of_pos all, List.takeWhile_cons_of_neg (by decide), List.append_nil]
    have left : (Nat.toDigits 10 number ++ ' ' :: tail).dropWhile (isDigitOf 10) = ' ' :: tail := by
      rw [List.dropWhile_append_of_pos all, List.dropWhile_cons_of_neg (by decide)]
    rw [scanUnsigned, decimalBase]
    simp only [taken, left]
    rw [if_neg Nat.toDigits_ne_nil, valueOf_digits fun _ among => Codec.isDigit_of_mem_toDigits among,
      Nat.ofDigitChars_ten_toDigits]

theorem begins_digit (number : Nat) :
    ∃ first rest, Nat.toDigits 10 number = first :: rest ∧ first.isDigit = true := by
  rcases Nat.eq_zero_or_pos number with rfl | positive
  · exact ⟨'0', [], rfl, by decide⟩
  · obtain ⟨first, rest, digits, _, digit⟩ := toDigits_begins positive
    exact ⟨first, rest, digits, digit⟩

/-- The printed form of a number of a `long` is read back when a blank follows it. -/
theorem scanI_decimal {number : Int} (least : -longMax - 1 ≤ number) (most : number ≤ longMax) (tail : List Char) :
    scanI (decimal number ++ ' ' :: tail) = some (number, ' ' :: tail) := by
  cases number with
  | ofNat number =>
      obtain ⟨first, rest, digits, digit⟩ := begins_digit number
      have scanned := scanUnsigned_toDigits number tail
      change scanI (Nat.toDigits 10 number ++ ' ' :: tail) = _
      rw [digits, List.cons_append] at scanned ⊢
      rw [scanI, List.dropWhile_cons_of_neg (by simp [isSpace_of_isDigit digit])]
      split
      · next same =>
          rw [(List.cons.inj same).1] at digit
          exact absurd digit (by decide)
      · next same =>
          rw [(List.cons.inj same).1] at digit
          exact absurd digit (by decide)
      · have kept : min (number : Int) longMax = number := Int.min_eq_left most
        rw [scanned, Option.map_some, kept]
        rfl
  | negSucc number =>
      change scanI ('-' :: (Nat.toDigits 10 (number + 1) ++ ' ' :: tail)) = _
      rw [scanI, List.dropWhile_cons_of_neg (by decide)]
      have sign : -((number + 1 : Nat) : Int) = Int.negSucc number := rfl
      simp only [scanUnsigned_toDigits, Option.map_some]
      rw [sign, Int.max_eq_left least]

/-- `atoi` reads back the printed form of an `int`. -/
theorem atoi_decimal {number : Int} (least : -2147483648 ≤ number) (most : number ≤ 2147483647) :
    atoi (String.ofList (decimal number)) = number := by
  cases number with
  | ofNat number =>
      have small : (number : Int) ≤ 2147483647 := most
      change atoi (String.ofList (Nat.toDigits 10 number)) = (number : Int)
      rw [← Nat.repr_eq_ofList_toDigits]
      exact atoi_repr (by omega)
  | negSucc number =>
      have sign : -((number + 1 : Nat) : Int) = Int.negSucc number := rfl
      have bound : -longMax - 1 ≤ Int.negSucc number := by
        unfold longMax
        omega
      have value : strtol ('-' :: Nat.toDigits 10 (number + 1)) = Int.negSucc number := by
        rw [strtol, List.dropWhile_cons_of_neg (by decide)]
        simp only [magnitude_toDigits]
        rw [sign, Int.max_eq_left bound]
      have range : UInt32.size = 4294967296 := rfl
      rw [atoi, String.toList_ofList, decimal, value, range]
      exact Int.bmod_eq_of_le (by omega) (by omega)

/-- A text of at most nine characters is printed for numbers of at most nine digits. -/
theorem length_decimal {number : Int} (natural : 0 ≤ number) (small : number < 1000000000) :
    (decimal number).length ≤ 9 := by
  obtain ⟨number, rfl⟩ := Int.eq_ofNat_of_zero_le natural
  rw [Codec.decimal_natCast]
  exact (Nat.length_toDigits_le_iff (by decide) (by decide)).mpr (by omega)

end Foundation.Scan
