import BelleSip.Foundation.Machine
import BelleSip.Sip.Escaping

/-
This file models the buffer of `belle_sip_escape`, and proves for which texts it grows in time.
-/

namespace BelleSip

open Foundation

/-- The conversion of an integer to a `size_t`. -/
def toSizeT (value : Int) : Nat := (value % 18446744073709551616).toNat

/-- The buffer has one byte more than `outbufSize`, and the bytes that have been stored stand at its beginning. -/
structure EscapeBuffer where
  outbufSize : Nat
  outBuffIndex : Nat := 0
  output : CString := []
deriving DecidableEq, Repr

namespace EscapeBuffer

variable (noescapes : UInt8 → Bool) (origSize : Nat)

/-- The test of the size at the beginning of an iteration. The index is an `int`, and less than 3 at first. -/
def grow (buffer : EscapeBuffer) : EscapeBuffer :=
  if buffer.outbufSize < toSizeT (buffer.outBuffIndex - 3) then
    { buffer with outbufSize := buffer.outbufSize + max (origSize / 2) 3 }
  else buffer

/-- The size that `snprintf` is given. -/
def room (buffer : EscapeBuffer) : Nat := toSizeT (buffer.outbufSize - buffer.outBuffIndex)

/-- `snprintf` stores at most one byte less than it is given, and returns 3 anyway. -/
def write (buffer : EscapeBuffer) (byte : UInt8) : EscapeBuffer :=
  if noescapes byte then
    { buffer with outBuffIndex := buffer.outBuffIndex + 1, output := buffer.output ++ [byte] }
  else
    { buffer with
      outBuffIndex := buffer.outBuffIndex + 3
      output := buffer.output ++ (Percent.escape byte).take (buffer.room - 1) }

/-- An iteration of the loop in `belle_sip_escape`. -/
def iterate (buffer : EscapeBuffer) (byte : UInt8) : EscapeBuffer := (buffer.grow origSize).write noescapes byte

/-- The bytes that the escaped form of a byte takes. -/
def width (byte : UInt8) : Nat := if noescapes byte then 1 else 3

/-- The iteration writes inside the buffer, `snprintf` has room for the escape and the terminator, and the index counts
the stored bytes and stays an `int`. -/
def Fits (buffer : EscapeBuffer) (byte : UInt8) : Prop :=
  buffer.output.length = buffer.outBuffIndex ∧
    buffer.outBuffIndex ≤ (buffer.grow origSize).outbufSize ∧
      (noescapes byte = false → 4 ≤ (buffer.grow origSize).room) ∧
        buffer.outBuffIndex + width noescapes byte < 2147483648

/-- The terminator is written inside the buffer behind the stored bytes. -/
def Closes (buffer : EscapeBuffer) : Prop :=
  buffer.output.length = buffer.outBuffIndex ∧ buffer.outBuffIndex ≤ buffer.outbufSize

variable (buff : CString)

/-- This is `belle_sip_escape` without the test of its bounds. -/
def escapeLoop : EscapeBuffer :=
  Machine.run (iterate noescapes buff.length) { outbufSize := buff.length } buff

/-- Every iteration and the terminator stay inside the buffer. -/
def Contained : Prop :=
  Machine.Along (iterate noescapes buff.length) (Fits noescapes buff.length) { outbufSize := buff.length } buff ∧
    (escapeLoop noescapes buff).Closes

/-- The difference in the test of the size is never less than zero. -/
def Unwrapped : Prop :=
  Machine.Along (iterate noescapes buff.length) (fun buffer _ => 3 ≤ buffer.outBuffIndex) { outbufSize := buff.length }
    buff

/-- The bytes that are escaped behind less than three others. -/
def early : Nat → CString → Nat
  | _, [] => 0
  | index, byte :: rest => if index < 3 then 1 + early (index + width noescapes byte) rest else 0

/-- The byte that `snprintf` needs behind a last escape. -/
def trailing : Nat := if buff.getLast?.any fun byte => !noescapes byte then 1 else 0

/-- The escaped form, and behind a last escape the terminator of `snprintf`, fit into the buffer of the early growths.
-/
def Roomy : Prop :=
  (Percent.encode noescapes buff).length + trailing noescapes buff ≤
      buff.length + early noescapes 0 buff * max (buff.length / 2) 3 ∧
    (Percent.encode noescapes buff).length < 2147483648

variable {noescapes origSize buff} {buffer : EscapeBuffer} {byte : UInt8} {rest : CString}

theorem toSizeT_nonneg {value : Int} (nonneg : 0 ≤ value) (bounded : value < 18446744073709551616) :
    toSizeT value = value.toNat := by
  rw [toSizeT, Int.emod_eq_of_lt nonneg bounded]

theorem toSizeT_neg {value : Int} (negative : value < 0) (bounded : -18446744073709551616 ≤ value) :
    toSizeT value = (value + 18446744073709551616).toNat := by
  rw [toSizeT, ← Int.add_emod_right, Int.emod_eq_of_lt (by omega) (by omega)]

theorem length_encode_cons :
    (Percent.encode noescapes (byte :: rest)).length =
      width noescapes byte + (Percent.encode noescapes rest).length := by
  rw [Percent.encode_cons, List.length_append, width]
  split <;> rfl

/-- The buffer grows before the first bytes. -/
theorem grow_early (before : buffer.outBuffIndex < 3) (bounded : buffer.outbufSize < 9223372036854775808) :
    buffer.grow origSize = { buffer with outbufSize := buffer.outbufSize + max (origSize / 2) 3 } := by
  rw [grow, if_pos]
  rw [toSizeT_neg (by omega) (by omega)]
  omega

/-- The buffer does not grow later as long as the index stays close to its size. -/
theorem grow_late (behind : 3 ≤ buffer.outBuffIndex) (near : buffer.outBuffIndex ≤ buffer.outbufSize + 1)
    (bounded : buffer.outbufSize < 9223372036854775808) : buffer.grow origSize = buffer := by
  rw [grow, if_neg]
  rw [toSizeT_nonneg (by omega) (by omega)]
  omega

theorem write_index : (buffer.write noescapes byte).outBuffIndex = buffer.outBuffIndex + width noescapes byte := by
  unfold write width
  split <;> rfl

theorem write_size : (buffer.write noescapes byte).outbufSize = buffer.outbufSize := by
  unfold write
  split <;> rfl

theorem escaped_iff : noescapes byte = false ↔ width noescapes byte = 3 := by
  unfold width
  cases noescapes byte <;> simp

theorem grow_index : (buffer.grow origSize).outBuffIndex = buffer.outBuffIndex := by
  unfold grow
  split <;> rfl

theorem grow_output : (buffer.grow origSize).output = buffer.output := by
  unfold grow
  split <;> rfl

theorem fits_iff (stored : buffer.output.length = buffer.outBuffIndex)
    (bounded : (buffer.grow origSize).outbufSize < 9223372036854775808) :
    Fits noescapes origSize buffer byte ↔
      buffer.outBuffIndex ≤ (buffer.grow origSize).outbufSize ∧
        (width noescapes byte = 3 → buffer.outBuffIndex + 4 ≤ (buffer.grow origSize).outbufSize) ∧
          buffer.outBuffIndex + width noescapes byte < 2147483648 := by
  unfold Fits
  rw [and_iff_right stored, escaped_iff]
  refine and_congr_right fun inside => and_congr_left fun _ => imp_congr_right fun _ => ?_
  rw [room, grow_index, toSizeT_nonneg (by omega) (by omega)]
  omega

/-- An iteration that fits stores the whole form of its byte. -/
theorem iterate_output (fits : Fits noescapes origSize buffer byte) :
    (iterate noescapes origSize buffer byte).output =
      buffer.output ++ if noescapes byte then [byte] else Percent.escape byte := by
  unfold iterate write
  cases kept : noescapes byte with
  | true =>
      rw [if_pos rfl, if_pos rfl, grow_output]
  | false =>
      have room := fits.2.2.1 kept
      have short : (Percent.escape byte).length ≤ (buffer.grow origSize).room - 1 := by
        show 3 ≤ _
        omega
      simp only [Bool.false_eq_true, if_false, grow_output, List.take_of_length_le short]

theorem iterate_stored (fits : Fits noescapes origSize buffer byte) :
    (iterate noescapes origSize buffer byte).output.length = (iterate noescapes origSize buffer byte).outBuffIndex := by
  rw [iterate_output fits, List.length_append, fits.1, iterate, write_index, grow_index, width]
  split <;> rfl

theorem early_before (before : buffer.outBuffIndex < 3) :
    early noescapes buffer.outBuffIndex (byte :: rest) * max (origSize / 2) 3 =
      max (origSize / 2) 3 +
        early noescapes (buffer.outBuffIndex + width noescapes byte) rest * max (origSize / 2) 3 := by
  rw [early, if_pos before, Nat.add_mul, Nat.one_mul]

theorem early_behind {index : Nat} (behind : 3 ≤ index) : early noescapes index rest = 0 := by
  cases rest with
  | nil => rfl
  | cons byte rest => rw [early, if_neg (by omega)]

theorem width_cases (noescapes : UInt8 → Bool) (byte : UInt8) :
    width noescapes byte = 1 ∨ width noescapes byte = 3 := by
  unfold width
  cases noescapes byte <;> simp

/-- Behind a byte there is nothing, or something that ends as the whole. -/
theorem trailing_cons (noescapes : UInt8 → Bool) (byte : UInt8) (rest : CString) :
    ((Percent.encode noescapes rest).length = 0 ∧ trailing noescapes rest = 0 ∧
      2 * trailing noescapes (byte :: rest) + 1 = width noescapes byte) ∨
    (1 ≤ (Percent.encode noescapes rest).length ∧ trailing noescapes (byte :: rest) = trailing noescapes rest) := by
  cases rest with
  | nil =>
      refine .inl ⟨rfl, rfl, ?_⟩
      rw [trailing, width, List.getLast?_singleton, Option.any_some]
      cases noescapes byte <;> rfl
  | cons next rest =>
      refine .inr ⟨?_, rfl⟩
      rw [length_encode_cons]
      have wide := width_cases noescapes next
      omega

/-- From a buffer that the index has not left, a run stays inside if and only if there is room for what is ahead. -/
theorem along_iff (stored : buffer.output.length = buffer.outBuffIndex)
    (bounded : buffer.outbufSize + early noescapes buffer.outBuffIndex rest * max (origSize / 2) 3 <
      9223372036854775808)
    (int : buffer.outBuffIndex < 2147483648) (near : buffer.outBuffIndex ≤ buffer.outbufSize + 1)
    (ahead : buffer.outBuffIndex < 3 → rest ≠ [] → buffer.outBuffIndex + 1 ≤ buffer.outbufSize) :
    (Machine.Along (iterate noescapes origSize) (Fits noescapes origSize) buffer rest ∧
      (Machine.run (iterate noescapes origSize) buffer rest).Closes) ↔
    buffer.outBuffIndex + (Percent.encode noescapes rest).length + trailing noescapes rest ≤
        buffer.outbufSize + early noescapes buffer.outBuffIndex rest * max (origSize / 2) 3 ∧
      buffer.outBuffIndex + (Percent.encode noescapes rest).length < 2147483648 := by
  induction rest generalizing buffer with
  | nil =>
      have none_ : trailing noescapes [] = 0 := rfl
      simp [Closes, stored, int, none_, early]
  | cons byte rest ih =>
      have index : (iterate noescapes origSize buffer byte).outBuffIndex =
          buffer.outBuffIndex + width noescapes byte := by rw [iterate, write_index, grow_index]
      have size : (iterate noescapes origSize buffer byte).outbufSize = (buffer.grow origSize).outbufSize := by
        rw [iterate, write_size]
      rw [Machine.along_cons, Machine.run_cons, and_assoc, length_encode_cons]
      have inner := fun fits : Fits noescapes origSize buffer byte =>
        @ih (iterate noescapes origSize buffer byte) (iterate_stored fits)
      rw [index, size] at inner
      have wide := width_cases noescapes byte
      have ends := trailing_cons noescapes byte rest
      by_cases before : buffer.outBuffIndex < 3
      · have first := ahead before (List.cons_ne_nil _ _)
        rw [early_before before] at bounded ⊢
        rw [grow_early before (by omega)] at inner
        have fits : Fits noescapes origSize buffer byte := by
          have growing : (buffer.grow origSize).outbufSize = buffer.outbufSize + max (origSize / 2) 3 := by
            rw [grow_early before (by omega)]
          rw [fits_iff stored (by omega), growing]
          omega
        rw [and_iff_right fits, inner fits (by dsimp only; omega) (by omega) (by dsimp only; omega)
          (fun short _ => by dsimp only; omega)]
        dsimp only
        omega
      · rw [early, if_neg before, Nat.zero_mul] at bounded ⊢
        rw [grow_late (by omega) near (by omega), early_behind (by omega), Nat.zero_mul] at inner
        have fits : Fits noescapes origSize buffer byte ↔ buffer.outBuffIndex ≤ buffer.outbufSize ∧
            (width noescapes byte = 3 → buffer.outBuffIndex + 4 ≤ buffer.outbufSize) ∧
              buffer.outBuffIndex + width noescapes byte < 2147483648 := by
          have same := @fits_iff noescapes origSize buffer byte stored
          rw [grow_late (by omega) near (by omega)] at same
          exact same (by omega)
        constructor
        · rintro ⟨fitting, along⟩
          have bounds := fits.mp fitting
          have later := (inner fitting (by omega) (by omega) (by omega) (by omega)).mp along
          omega
        · intro roomy
          have fitting := fits.mpr (by omega)
          exact ⟨fitting, (inner fitting (by omega) (by omega) (by omega) (by omega)).mpr (by omega)⟩

theorem length_le_encode : buff.length ≤ (Percent.encode noescapes buff).length := by
  induction buff with
  | nil => exact Nat.le_refl 0
  | cons byte rest ih =>
      have wide := width_cases noescapes byte
      rw [length_encode_cons, List.length_cons]
      omega

theorem early_le {index : Nat} : early noescapes index rest ≤ 3 - index := by
  induction rest generalizing index with
  | nil => exact Nat.zero_le _
  | cons byte rest ih =>
      rw [early]
      split
      · have behind := @ih (index + width noescapes byte)
        have wide := width_cases noescapes byte
        omega
      · exact Nat.zero_le _

/-- A run in which the index stays an `int` escapes less than 2^31 bytes. -/
theorem run_index (along : Machine.Along (iterate noescapes origSize) (Fits noescapes origSize) buffer rest)
    (int : buffer.outBuffIndex < 2147483648) :
    buffer.outBuffIndex + (Percent.encode noescapes rest).length < 2147483648 := by
  induction rest generalizing buffer with
  | nil => exact int
  | cons byte rest ih =>
      have index : (iterate noescapes origSize buffer byte).outBuffIndex =
          buffer.outBuffIndex + width noescapes byte := by rw [iterate, write_index, grow_index]
      have later := ih along.2 (by rw [index]; exact along.1.2.2.2)
      rw [index] at later
      rw [length_encode_cons]
      omega

/-- The loop stays inside its buffer if and only if the early growths make enough room, and then the difference in its
test is at least zero for the empty text only. -/
theorem contained_iff (noescapes : UInt8 → Bool) (buff : CString) :
    (Contained noescapes buff ↔ Roomy noescapes buff) ∧
      (Contained noescapes buff ∧ Unwrapped noescapes buff ↔ buff = []) := by
  have contained : Contained noescapes buff ↔ Roomy noescapes buff := by
    by_cases int : (Percent.encode noescapes buff).length < 2147483648
    · have length := @length_le_encode noescapes buff
      have growths : early noescapes 0 buff * max (buff.length / 2) 3 ≤ 3 * max (buff.length / 2) 3 :=
        Nat.mul_le_mul_right _ early_le
      have run := @along_iff noescapes buff.length { outbufSize := buff.length } buff rfl (by dsimp only; omega)
        (Nat.zero_lt_succ _) (Nat.zero_le _) fun _ some_ => List.length_pos_iff.mpr some_
      dsimp only at run
      rw [Nat.zero_add] at run
      exact run
    · refine iff_of_false (fun inside => int ?_) fun roomy => int roomy.2
      have bounded := run_index inside.1 (Nat.zero_lt_succ _)
      rwa [Nat.zero_add] at bounded
  refine ⟨contained, ⟨fun both => ?_, ?_⟩⟩
  · cases buff with
    | nil => rfl
    | cons byte rest => exact absurd both.2.1 (Nat.not_succ_le_zero 2)
  · rintro rfl
    exact ⟨⟨trivial, rfl, Nat.le_refl 0⟩, trivial⟩

/-- Three blanks of a user name: the last escapes have no room, and the terminator is written behind the buffer. -/
theorem not_contained_blanks :
    escapeLoop usernameNoescapes (asciiBytes "   ") =
        { outbufSize := 6, outBuffIndex := 9, output := asciiBytes "%20%2" } ∧
      ¬Contained usernameNoescapes (asciiBytes "   ") := by
  refine ⟨by decide, fun contained => ?_⟩
  exact absurd contained.2.2 (by decide)

end EscapeBuffer

end BelleSip
