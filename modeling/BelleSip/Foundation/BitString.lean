import Mathlib.Data.Nat.Bitwise
import Mathlib.Tactic.Common

/-
This file develops octets read as one bit string, and bit strings cut into groups of one width.
The most significant bit of an octet comes first.
-/

namespace Foundation.BitString

/-- The eight bits of an octet. -/
def octetBits (octet : UInt8) : List Bool := (List.range 8).map fun place => octet.toNat.testBit (7 - place)

/-- The bits of all octets one after the other. -/
def bitString (octets : List UInt8) : List Bool := octets.flatMap octetBits

/-- The number that bits write in base two. -/
def number : List Bool → Nat
  | [] => 0
  | bit :: bits => bit.toNat * 2 ^ bits.length + number bits

/-- The bits of one group, where bits beyond the end of the string are zero. -/
def group (width : Nat) (bits : List Bool) (start : Nat) : List Bool :=
  (List.range width).map fun place => bits.getD (start + place) false

/-- The number of groups that cover the given number of bits. -/
def groupCount (width length : Nat) : Nat := (length + (width - 1)) / width

/-- The successive groups of a bit string, the last one filled up with zeros. -/
def groups (width : Nat) (bits : List Bool) : List (List Bool) :=
  (List.range (groupCount width bits.length)).map fun index => group width bits (width * index)

variable {width length : Nat} {bits other : List Bool}

@[simp] theorem length_octetBits (octet : UInt8) : (octetBits octet).length = 8 := by
  simp [octetBits]

@[simp] theorem length_group (start : Nat) : (group width bits start).length = width := by
  simp [group]

@[simp] theorem length_groups : (groups width bits).length = groupCount width bits.length := by
  simp [groups]

theorem length_bitString (octets : List UInt8) : (bitString octets).length = 8 * octets.length := by
  induction octets with
  | nil => rfl
  | cons octet octets inductionHypothesis =>
      change (octetBits octet ++ bitString octets).length = _
      rw [List.length_append, length_octetBits, inductionHypothesis, List.length_cons]
      omega

/-- Each bit of the string is a bit of the octet that its position falls into. -/
theorem getD_bitString (octets : List UInt8) (position : Nat) :
    (bitString octets).getD position false = (octets.getD (position / 8) 0).toNat.testBit (7 - position % 8) := by
  induction octets generalizing position with
  | nil => simp [bitString]
  | cons octet octets inductionHypothesis =>
      change (octetBits octet ++ bitString octets).getD position false = _
      by_cases within : position < 8
      · rw [List.getD_append _ _ _ _ (by simpa using within), Nat.div_eq_of_lt within, Nat.mod_eq_of_lt within]
        simp [octetBits, within]
      · have beyond : 8 ≤ position := Nat.le_of_not_lt within
        have quotient : position / 8 = (position - 8) / 8 + 1 := by omega
        have remainder : position % 8 = (position - 8) % 8 := by omega
        rw [List.getD_append_right _ _ _ _ (by simpa using beyond), length_octetBits, inductionHypothesis, quotient,
          remainder, List.getD_cons_succ]

theorem octetBits_injective : Function.Injective octetBits := by
  intro first second same
  apply UInt8.toNat.inj
  apply Nat.eq_of_testBit_eq
  intro place
  by_cases small : place < 8
  · have bit := congrArg (fun bits : List Bool => bits.getD (7 - place) false) same
    have inside : 7 - place < 8 := by omega
    have back : 7 - (7 - place) = place := by omega
    simpa [octetBits, inside, back] using bit
  · have large : 2 ^ 8 ≤ 2 ^ place := Nat.pow_le_pow_right (by decide) (by omega)
    rw [Nat.testBit_lt_two_pow (lt_of_lt_of_le first.toNat_lt large),
      Nat.testBit_lt_two_pow (lt_of_lt_of_le second.toNat_lt large)]

/-- The bit string determines the octets. -/
theorem bitString_injective : Function.Injective bitString := by
  intro first
  induction first with
  | nil =>
      intro second same
      have sameLength := congrArg List.length same
      rw [length_bitString, length_bitString] at sameLength
      exact (List.length_eq_zero_iff.mp (by simpa using sameLength.symm)).symm
  | cons octet first inductionHypothesis =>
      intro second same
      cases second with
      | nil =>
          have sameLength := congrArg List.length same
          rw [length_bitString, length_bitString] at sameLength
          simp at sameLength
      | cons otherOctet second =>
          change octetBits octet ++ bitString first = octetBits otherOctet ++ bitString second at same
          obtain ⟨head, tail⟩ := List.append_inj same (by simp)
          rw [octetBits_injective head, inductionHypothesis tail]

theorem number_lt (bits : List Bool) : number bits < 2 ^ bits.length := by
  induction bits with
  | nil => simp [number]
  | cons bit bits inductionHypothesis =>
      rw [number, List.length_cons, Nat.pow_succ]
      cases bit <;> simp only [Bool.toNat_true, Bool.toNat_false] <;> omega

/-- The bits of a number are those that write it, the last one first. -/
theorem testBit_number (bits : List Bool) (place : Nat) (within : place < bits.length) :
    (number bits).testBit place = bits.getD (bits.length - 1 - place) false := by
  induction bits with
  | nil => simp at within
  | cons bit bits inductionHypothesis =>
      rw [number, Nat.mul_comm, Nat.testBit_two_pow_mul_add _ (number_lt bits)]
      by_cases earlier : place < bits.length
      · have later : (bit :: bits).length - 1 - place = bits.length - 1 - place + 1 := by
          rw [List.length_cons]
          omega
        rw [if_pos earlier, inductionHypothesis earlier, later, List.getD_cons_succ]
      · have first : place = bits.length := by
          rw [List.length_cons] at within
          omega
        subst first
        cases bit <;> simp

/-- A number below a power of two that has the bits of a group is the number of the group. -/
theorem eq_number {value : Nat} (small : value < 2 ^ bits.length)
    (same : ∀ place < bits.length, value.testBit place = bits.getD (bits.length - 1 - place) false) :
    value = number bits := by
  apply Nat.eq_of_testBit_eq
  intro place
  by_cases within : place < bits.length
  · rw [same place within, testBit_number bits place within]
  · have large : 2 ^ bits.length ≤ 2 ^ place := Nat.pow_le_pow_right (by decide) (by omega)
    rw [Nat.testBit_lt_two_pow (lt_of_lt_of_le small large),
      Nat.testBit_lt_two_pow (lt_of_lt_of_le (number_lt bits) large)]

/-- Bits of one length are determined by the number they write. -/
theorem eq_of_number_eq (sameLength : bits.length = other.length) (same : number bits = number other) :
    bits = other := by
  apply List.ext_getElem sameLength
  intro index inFirst inSecond
  have within : bits.length - 1 - index < bits.length := by omega
  have back : bits.length - 1 - (bits.length - 1 - index) = index := by omega
  have first := testBit_number bits _ within
  have second := testBit_number other (bits.length - 1 - index) (by omega)
  rw [back, List.getD_eq_getElem _ _ inFirst] at first
  rw [← sameLength, back, List.getD_eq_getElem _ _ inSecond, ← same] at second
  rw [← first, second]

theorem le_mul_groupCount (positive : 0 < width) : length ≤ width * groupCount width length := by
  have division := Nat.div_add_mod (length + (width - 1)) width
  have remainder := Nat.mod_lt (length + (width - 1)) positive
  rw [groupCount]
  omega

theorem groupCount_le_iff (positive : 0 < width) {count : Nat} :
    groupCount width length ≤ count ↔ length ≤ width * count := by
  rw [groupCount, Nat.div_le_iff_le_mul_add_pred positive]
  omega

/-- Strings of one length are determined by their groups. -/
theorem eq_of_groups_eq (positive : 0 < width) (sameLength : bits.length = other.length)
    (same : groups width bits = groups width other) : bits = other := by
  apply List.ext_getElem sameLength
  intro index inFirst inSecond
  have inGroup : index % width < width := Nat.mod_lt index positive
  have counted : index / width < groupCount width bits.length := by
    apply Nat.lt_of_not_le
    intro few
    have bound := (groupCount_le_iff positive).mp few
    have division := Nat.div_add_mod index width
    omega
  have sameGroup : group width bits (width * (index / width)) = group width other (width * (index / width)) := by
    have read := congrArg (fun all : List (List Bool) => all[index / width]?) same
    simpa [groups, counted, sameLength ▸ counted] using read
  have bit := congrArg (fun all : List Bool => all.getD (index % width) false) sameGroup
  simpa [group, inGroup, Nat.div_add_mod, List.getElem?_eq_getElem inFirst, List.getElem?_eq_getElem inSecond] using bit

end Foundation.BitString
