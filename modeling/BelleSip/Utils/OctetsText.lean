import BelleSip.Foundation.BitString
import Mathlib.Data.List.Nodup

/-
This file develops the text that `belle_sip_octets_to_text` writes for an array of octets.
-/

namespace BelleSip.OctetsText

open Foundation.BitString

/-- The characters that stand for six bits. -/
def symbols : List Char := "aAbBcCdDeEfFgGhHiIjJkKlLmMnNoOpPqQrRsStTuUvVwWxXyYzZ0123456789-~".toList

/-- This character ends a C string. -/
def nul : Char := '\x00'

/-- The largest value of an `int`. -/
def intMax : Nat := 2147483647

structure BitsReader where
  buffer : List UInt8
  bitIndex : Nat

namespace BitsReader

/-- This is `bits_reader_init`. -/
def init (buffer : List UInt8) : BitsReader := { buffer, bitIndex := 0 }

/-- The distance by which the reader moves the octets that it has put together. -/
def shift (bitIndex count : Nat) : Int := 32 - (bitIndex % 8 : Nat) - count

/-- Up to four octets from the position of the reader, where octets beyond the end stay zero. -/
def window (reader : BitsReader) : UInt32 :=
  let octet (place : Nat) := (reader.buffer.getD (reader.bitIndex / 8 + place) 0).toUInt32
  octet 0 <<< 24 ||| octet 1 <<< 16 ||| octet 2 <<< 8 ||| octet 3

/-- This is `bits_reader_read`. It gives `some none` where the source returns -1, and `none` where an operation of
the source is undefined. -/
def read (reader : BitsReader) (count : Nat) : Option (Option (UInt32 × BitsReader)) :=
  let distance := shift reader.bitIndex count
  if 24 ≤ count then some none
  else if reader.buffer.length ≤ reader.bitIndex / 8 then some none
  else if 0 ≤ distance ∧ distance < 32 ∧ reader.bitIndex + count ≤ intMax then
    some (some (reader.window >>> UInt32.ofNat distance.toNat &&& (1 <<< UInt32.ofNat count - 1),
      { reader with bitIndex := reader.bitIndex + count }))
  else none

/-- No distance is outside the width of the octets put together. -/
theorem shift_valid {count : Nat} (bitIndex : Nat) (positive : 0 < count) (few : count < 24) :
    0 ≤ shift bitIndex count ∧ shift bitIndex count < 32 := by
  have offset := Nat.mod_lt bitIndex (y := 8) (by decide)
  unfold shift
  omega

theorem testBit_octet (octet : UInt8) {place : Nat} (beyond : 8 ≤ place) : octet.toNat.testBit place = false :=
  Nat.testBit_lt_two_pow (lt_of_lt_of_le octet.toNat_lt (Nat.pow_le_pow_right (by decide) beyond))

/-- An octet that is put in its place in the window gives the bits of that place. -/
theorem testBit_placed (octet : UInt8) (which : Nat) {place : Nat} (few : which < 4) (within : place < 32) :
    (octet.toNat <<< (24 - 8 * which) % 2 ^ 32).testBit (31 - place) =
      (decide (place / 8 = which) && octet.toNat.testBit (7 - place % 8)) := by
  have inWindow : 31 - place < 32 := by omega
  rw [Nat.testBit_mod_two_pow, Nat.testBit_shiftLeft, decide_eq_true inWindow, Bool.true_and]
  by_cases own : place / 8 = which
  · have reached : 24 - 8 * which ≤ 31 - place := by omega
    have bit : 31 - place - (24 - 8 * which) = 7 - place % 8 := by omega
    rw [decide_eq_true reached, decide_eq_true own, bit]
  · rw [decide_eq_false own, Bool.false_and]
    by_cases reached : 24 - 8 * which ≤ 31 - place
    · rw [testBit_octet octet (by omega), Bool.and_false]
    · rw [decide_eq_false reached, Bool.false_and]

/-- The window holds the bits that follow the first bit of its first octet. -/
theorem testBit_window (reader : BitsReader) {place : Nat} (within : place < 32) :
    reader.window.toNat.testBit (31 - place) =
      (bitString reader.buffer).getD (8 * (reader.bitIndex / 8) + place) false := by
  have quotient : (8 * (reader.bitIndex / 8) + place) / 8 = reader.bitIndex / 8 + place / 8 := by omega
  have remainder : (8 * (reader.bitIndex / 8) + place) % 8 = place % 8 := by omega
  have placed (octet : UInt8) (which : Nat) (few : which < 4) := testBit_placed octet which few within
  have first (octet : UInt8) := placed octet 0 (by decide)
  have second (octet : UInt8) := placed octet 1 (by decide)
  have third (octet : UInt8) := placed octet 2 (by decide)
  have last (octet : UInt8) : octet.toNat.testBit (31 - place) =
      (decide (place / 8 = 3) && octet.toNat.testBit (7 - place % 8)) := by
    rw [← placed octet 3 (by decide), Nat.mod_eq_of_lt]
    · rfl
    · exact lt_trans octet.toNat_lt (by decide)
  rw [getD_bitString, quotient, remainder]
  simp only [window, UInt32.toNat_or, UInt32.toNat_shiftLeft, UInt8.toNat_toUInt32, Nat.testBit_or]
  rw [last]
  change (((_ <<< 24 % 2 ^ 32).testBit (31 - place) || (_ <<< 16 % 2 ^ 32).testBit (31 - place)) ||
    (_ <<< 8 % 2 ^ 32).testBit (31 - place) || _) = _
  rw [first, second, third]
  obtain octet | octet | octet | octet : place / 8 = 0 ∨ place / 8 = 1 ∨ place / 8 = 2 ∨ place / 8 = 3 := by omega
  all_goals
    rw [octet]
    simp

theorem toNat_mask {count : Nat} (few : count < 24) :
    ((1 : UInt32) <<< UInt32.ofNat count - 1).toNat = 2 ^ count - 1 := by
  have small : 2 ^ count < 2 ^ 32 := Nat.pow_lt_pow_right (by decide) (by omega)
  have positive : 0 < 2 ^ count := Nat.two_pow_pos count
  have same : (UInt32.ofNat count).toNat % 32 = count := by
    rw [UInt32.toNat_ofNat_of_lt' (lt_trans few (by decide)), Nat.mod_eq_of_lt (by omega)]
  have power : ((1 : UInt32) <<< UInt32.ofNat count).toNat = 2 ^ count := by
    rw [UInt32.toNat_shiftLeft, same, UInt32.toNat_one, Nat.one_shiftLeft, Nat.mod_eq_of_lt small]
  rw [UInt32.toNat_sub_of_le _ _ (by rw [UInt32.le_iff_toNat_le, power, UInt32.toNat_one]; omega), power,
    UInt32.toNat_one]

/-- The window moved and masked is the number of the group that begins at the position of the reader. -/
theorem window_group (reader : BitsReader) {count distance : Nat} (few : count < 24) (valid : distance < 32)
    (offset : distance + reader.bitIndex % 8 + count = 32) :
    (reader.window >>> UInt32.ofNat distance &&& ((1 : UInt32) <<< UInt32.ofNat count - 1)).toNat =
      number (group count (bitString reader.buffer) reader.bitIndex) := by
  have same : (UInt32.ofNat distance).toNat % 32 = distance := by
    rw [UInt32.toNat_ofNat_of_lt' (lt_trans valid (by decide)), Nat.mod_eq_of_lt valid]
  rw [UInt32.toNat_and, UInt32.toNat_shiftRight, same, toNat_mask few, Nat.and_two_pow_sub_one_eq_mod]
  apply eq_number
  · rw [length_group]
    exact Nat.mod_lt _ (Nat.two_pow_pos count)
  · intro place within
    rw [length_group] at within ⊢
    have position : distance + place = 31 - (reader.bitIndex % 8 + (count - 1 - place)) := by omega
    have bit : 8 * (reader.bitIndex / 8) + (reader.bitIndex % 8 + (count - 1 - place)) =
        reader.bitIndex + (count - 1 - place) := by omega
    have inGroup : count - 1 - place < count := by omega
    rw [Nat.testBit_mod_two_pow, decide_eq_true within, Bool.true_and, Nat.testBit_shiftRight, position,
      testBit_window reader (by omega), bit]
    simp [group, inGroup]

/-- The reader gives the number of the group at its position while this begins inside the array. -/
theorem read_group (reader : BitsReader) {count : Nat} (positive : 0 < count) (few : count < 24)
    (inside : reader.bitIndex / 8 < reader.buffer.length) (counted : reader.bitIndex + count ≤ intMax) :
    ∃ value : UInt32, reader.read count =
        some (some (value, { reader with bitIndex := reader.bitIndex + count })) ∧
      value.toNat = number (group count (bitString reader.buffer) reader.bitIndex) := by
  obtain ⟨notNegative, inWidth⟩ := shift_valid reader.bitIndex positive few
  have offset : (shift reader.bitIndex count).toNat + reader.bitIndex % 8 + count = 32 := by
    have remainder := Nat.mod_lt reader.bitIndex (y := 8) (by decide)
    unfold shift
    omega
  refine ⟨reader.window >>> UInt32.ofNat (shift reader.bitIndex count).toNat &&&
    ((1 : UInt32) <<< UInt32.ofNat count - 1), ?_, window_group reader few (by omega) offset⟩
  rw [read, if_neg (Nat.not_le.mpr few), if_neg (Nat.not_le.mpr inside), if_pos ⟨notNegative, inWidth, counted⟩]

theorem read_end {reader : BitsReader} (count : Nat) (ended : reader.buffer.length ≤ reader.bitIndex / 8) :
    reader.read count = some none := by simp [read, ended]

/-- The reader cannot go beyond the positions that an `int` counts. -/
theorem read_overflow {reader : BitsReader} {count : Nat} (few : count < 24)
    (inside : reader.bitIndex / 8 < reader.buffer.length) (beyond : intMax < reader.bitIndex + count) :
    reader.read count = none := by
  rw [read, if_neg (Nat.not_le.mpr few), if_neg (Nat.not_le.mpr inside), if_neg]
  intro valid
  exact absurd valid.2.2 (Nat.not_le.mpr beyond)

end BitsReader

/-- A character is stored through a pointer. A write outside the array is undefined. -/
def store (ret : List Char) (index : Nat) (character : Char) : Option (List Char) :=
  if index < ret.length then some (ret.set index character) else none

/-- This is the loop of `belle_sip_octets_to_text` with the passes that are left, and gives the final index. -/
def loop : Nat → Nat → BitsReader → List Char → Option (Nat × List Char)
  | 0, index, _, ret => some (index, ret)
  | remaining + 1, index, bitctx, ret =>
    match bitctx.read 6 with
    | none => none
    | some none => some (index, ret)
    | some (some (value, bitctx)) => do
      let symbol ← symbols[value.toNat]?
      loop remaining (index + 1) bitctx (← store ret index symbol)

/-- The value of a size after its conversion to `int`. -/
def toInt (size : Nat) : Int := (size : Int).bmod 4294967296

/-- This is `belle_sip_octets_to_text` on an array of characters, the length of which is the `size` argument. -/
def octetsToText (hash : List UInt8) (ret : List Char) : Option (List Char) := do
  let size := toInt ret.length
  -- The subtraction leaves the range of an `int`.
  if size = -2147483648 then none
  else
    let (index, ret) ← loop (size - 1).toNat 0 (BitsReader.init hash) ret
    store ret index nul

/-- The characters of the successive groups of six bits. -/
def text (hash : List UInt8) : List Char :=
  (groups 6 (bitString hash)).map fun bits => symbols.getD (number bits) nul

/-- The characters of the text that an array of the given size has room for. -/
def shown (hash : List UInt8) (size : Nat) : List Char := (text hash).take (size - 1)

/-- The array after the shown text and its end have been written to its beginning. -/
def written (hash : List UInt8) (ret : List Char) : List Char :=
  shown hash ret.length ++ nul :: ret.drop ((shown hash ret.length).length + 1)

/-- The text that a C string has. -/
def cString (ret : List Char) : List Char := ret.takeWhile (· ≠ nul)

/-- The number of characters that there is room for before the end of the string. -/
def characters (hashLen size : Nat) : Nat := min (size - 1) (groupCount 6 (8 * hashLen))

/-- The size is a positive number that its conversion does not put below the text that there is room for, and the
bits of this text have positions that an `int` counts. -/
structure Fits (hashLen size : Nat) : Prop where
  room : 0 < size
  notMinimal : toInt size ≠ -2147483648
  converted : characters hashLen size ≤ (toInt size - 1).toNat
  counted : 6 * characters hashLen size ≤ intMax

theorem length_symbols : symbols.length = 64 := by decide

theorem nodup_symbols : symbols.Nodup := by decide

theorem nul_notMem_symbols : nul ∉ symbols := by decide

theorem length_text (hash : List UInt8) : (text hash).length = groupCount 6 (8 * hash.length) := by
  rw [text, List.length_map, length_groups, length_bitString]

/-- Each character of the text is the symbol of its group. -/
theorem text_get {hash : List UInt8} {index : Nat} (within : index < (text hash).length) :
    symbols[number (group 6 (bitString hash) (6 * index))]? = some ((text hash)[index]) := by
  have small : number (group 6 (bitString hash) (6 * index)) < symbols.length := by
    have bound := number_lt (group 6 (bitString hash) (6 * index))
    rw [length_group] at bound
    rw [length_symbols]
    exact bound
  rw [List.getElem?_eq_getElem small]
  simp [text, groups, List.getElem?_eq_getElem small]

/-- A character that follows the written ones replaces the first of the others. -/
theorem store_append {full front rest : List Char} {first : Char} {index : Nat} (front_length : front.length = index)
    (within : index < full.length) (sameFront : front = full.take index) :
    store (front ++ first :: rest) index full[index] = some (full.take (index + 1) ++ rest) := by
  have inside : index < (front ++ first :: rest).length := by
    rw [List.length_append, List.length_cons]
    omega
  rw [store, if_pos inside, List.set_append_right _ _ (by omega), front_length, Nat.sub_self, List.set_cons_zero,
    List.take_succ_eq_append_getElem within, List.append_assoc, ← sameFront]
  rfl

/-- The loop that has written the first characters writes the others that are left to it. -/
theorem loop_text (hash : List UInt8) (remaining index : Nat) (rest : List Char)
    (begun : index ≤ (text hash).length) (room : remaining ≤ rest.length) (counted : 6 * index ≤ intMax) :
    loop remaining index ⟨hash, 6 * index⟩ ((text hash).take index ++ rest) =
      let stop := min (index + remaining) (text hash).length
      if 6 * stop ≤ intMax then some (stop, (text hash).take stop ++ rest.drop (stop - index)) else none := by
  induction remaining generalizing index rest with
  | zero =>
      have stop : min (index + 0) (text hash).length = index := by omega
      simp only [stop, loop, if_pos counted, Nat.sub_self, List.drop_zero]
  | succ remaining inductionHypothesis =>
      have length := length_text hash
      by_cases ended : index = (text hash).length
      · have stop : min (index + (remaining + 1)) (text hash).length = index := by omega
        have covered : 8 * hash.length ≤ 6 * index := by
          rw [ended, length]
          exact le_mul_groupCount (by decide)
        simp only [stop, if_pos counted, Nat.sub_self, List.drop_zero]
        rw [loop, BitsReader.read_end 6 (show hash.length ≤ 6 * index / 8 by omega)]
      · have within : index < (text hash).length := by omega
        have inside : 6 * index / 8 < hash.length := by
          apply Nat.lt_of_not_le
          intro beyond
          have few := (groupCount_le_iff (show 0 < 6 by decide)).mpr (show 8 * hash.length ≤ 6 * index by omega)
          omega
        by_cases next : 6 * index + 6 ≤ intMax
        · obtain ⟨value, read, valued⟩ := BitsReader.read_group ⟨hash, 6 * index⟩ (show 0 < 6 by decide)
            (by decide) inside next
          obtain ⟨first, rest, rfl⟩ := List.exists_cons_of_length_pos (l := rest) (by omega)
          have stored : store ((text hash).take index ++ first :: rest) index (text hash)[index] =
              some ((text hash).take (index + 1) ++ rest) :=
            store_append (by rw [List.length_take]; omega) within rfl
          have position : 6 * index + 6 = 6 * (index + 1) := by omega
          have stop : min (index + (remaining + 1)) (text hash).length =
              min (index + 1 + remaining) (text hash).length := by omega
          have dropped : (first :: rest).drop (min (index + (remaining + 1)) (text hash).length - index) =
              rest.drop (min (index + 1 + remaining) (text hash).length - (index + 1)) := by
            rw [stop, show min (index + 1 + remaining) (text hash).length - index =
              min (index + 1 + remaining) (text hash).length - (index + 1) + 1 by omega, List.drop_succ_cons]
          rw [loop, read]
          simp only [valued, text_get within, Option.bind_eq_bind, Option.bind_some, stored, position]
          rw [inductionHypothesis (index + 1) rest (by omega) (by simpa using room) (by omega), dropped, stop]
        · rw [loop, BitsReader.read_overflow (by decide) inside (by simpa using next)]
          rw [if_neg]
          omega

theorem length_shown (hash : List UInt8) (size : Nat) : (shown hash size).length = characters hash.length size := by
  rw [shown, List.length_take, length_text, characters]

theorem toInt_le (size : Nat) : toInt size ≤ size := by
  have value := Int.bmod_eq_emod (size : Int) 4294967296
  change (size : Int).bmod 4294967296 ≤ size
  split at value <;> omega

theorem store_end {shown ret : List Char} {stop : Nat} (length : shown.length = stop) (room : stop < ret.length) :
    store (shown ++ ret.drop stop) stop nul = some (shown ++ nul :: ret.drop (stop + 1)) := by
  have inside : stop < (shown ++ ret.drop stop).length := by
    rw [List.length_append, length, List.length_drop]
    omega
  rw [store, if_pos inside, List.set_append_right _ _ (by omega), length, Nat.sub_self,
    List.drop_eq_getElem_cons room, List.set_cons_zero]

theorem octetsToText_bind {hash : List UInt8} {ret : List Char} (notMinimal : toInt ret.length ≠ -2147483648)
    {result : Option (Nat × List Char)}
    (run : loop (toInt ret.length - 1).toNat 0 (BitsReader.init hash) ret = result) :
    octetsToText hash ret = result >>= fun stopped => store stopped.2 stopped.1 nul := by
  rw [octetsToText, if_neg notMinimal, run]

/-- What the function leaves in the array, from the number of passes that its loop makes at most. -/
theorem octetsToText_eq (hash : List UInt8) {ret : List Char} (room : 0 < ret.length)
    (notMinimal : toInt ret.length ≠ -2147483648) :
    octetsToText hash ret =
      let stop := min (toInt ret.length - 1).toNat (text hash).length
      if 6 * stop ≤ intMax then some ((text hash).take stop ++ nul :: ret.drop (stop + 1)) else none := by
  have bound := toInt_le ret.length
  have passes : (toInt ret.length - 1).toNat < ret.length := by omega
  have inside : min (toInt ret.length - 1).toNat (text hash).length < ret.length :=
    lt_of_le_of_lt (Nat.min_le_left _ _) passes
  have run := loop_text hash (toInt ret.length - 1).toNat 0 ret (Nat.zero_le _) passes.le (Nat.zero_le _)
  have begun : BitsReader.init hash = ⟨hash, 6 * 0⟩ := rfl
  rw [List.take_zero, List.nil_append, Nat.zero_add, ← begun] at run
  rw [octetsToText_bind notMinimal run]
  have front : ((text hash).take (min (toInt ret.length - 1).toNat (text hash).length)).length =
      min (toInt ret.length - 1).toNat (text hash).length := by
    rw [List.length_take, Nat.min_assoc, Nat.min_self]
  generalize min (toInt ret.length - 1).toNat (text hash).length = stop at inside front ⊢
  simp only [Nat.sub_zero]
  by_cases counted : 6 * stop ≤ intMax
  · rw [if_pos counted, if_pos counted, Option.bind_eq_bind, Option.bind_some, store_end front inside]
  · rw [if_neg counted, if_neg counted, Option.bind_eq_bind, Option.bind_none]

theorem nul_notMem_text (hash : List UInt8) : nul ∉ text hash := by
  intro among
  obtain ⟨index, within, found⟩ := List.getElem_of_mem among
  have symbol := List.mem_of_getElem? (text_get within)
  rw [found] at symbol
  exact nul_notMem_symbols symbol

/-- A C string ends at the first character that ends one. -/
theorem cString_append {shown : List Char} (noEnd : nul ∉ shown) (rest : List Char) :
    cString (shown ++ nul :: rest) = shown := by
  have kept : ∀ character ∈ shown, decide (character ≠ nul) = true := by
    intro character among
    rw [decide_eq_true_iff]
    rintro rfl
    exact noEnd among
  rw [cString, List.takeWhile_append_of_pos kept, List.takeWhile_cons_of_neg (by simp), List.append_nil]

theorem nul_notMem_take (hash : List UInt8) (count : Nat) : nul ∉ (text hash).take count :=
  fun among => nul_notMem_text hash (List.mem_of_mem_take among)

theorem octetsToText_nil (hash : List UInt8) : octetsToText hash [] = none := rfl

/-- The array holds the shown text exactly when its size fits. -/
theorem octetsToText_iff (hash : List UInt8) (ret : List Char) :
    octetsToText hash ret = some (written hash ret) ↔ Fits hash.length ret.length := by
  by_cases room : 0 < ret.length
  · by_cases minimal : toInt ret.length = -2147483648
    · constructor
      · intro returned
        rw [octetsToText, if_pos minimal] at returned
        cases returned
      · intro fits
        exact absurd minimal fits.notMinimal
    · rw [octetsToText_eq hash room minimal]
      have bound := toInt_le ret.length
      have count : characters hash.length ret.length = min (ret.length - 1) (text hash).length := by
        rw [characters, length_text]
      constructor
      · intro returned
        simp only at returned
        split at returned
        · rename_i counted
          have same := congrArg cString (Option.some.inj returned)
          rw [written, cString_append (nul_notMem_take hash _), shown, cString_append (nul_notMem_take hash _)] at same
          have sameLength := congrArg List.length same
          rw [List.length_take, List.length_take] at sameLength
          exact ⟨room, minimal, by omega, by omega⟩
        · cases returned
      · intro fits
        have stop : min (toInt ret.length - 1).toNat (text hash).length = characters hash.length ret.length := by
          have converted := fits.converted
          omega
        have front : (text hash).take (characters hash.length ret.length) = shown hash ret.length := by
          rw [count, shown, ← List.take_eq_take_min]
        simp only [stop, if_pos fits.counted]
        rw [written, length_shown, front]
  · have empty : ret = [] := List.length_eq_zero_iff.mp (by omega)
    subst empty
    constructor
    · intro returned
      rw [octetsToText_nil] at returned
      cases returned
    · intro fits
      exact absurd fits.room room

/-- The symbols of two numbers below 64 differ when the numbers do. -/
theorem symbol_injective {first second : Nat} (firstSmall : first < 64) (secondSmall : second < 64)
    (same : symbols.getD first nul = symbols.getD second nul) : first = second := by
  have firstInside : first < symbols.length := by
    rw [length_symbols]
    exact firstSmall
  have secondInside : second < symbols.length := by
    rw [length_symbols]
    exact secondSmall
  rw [List.getD_eq_getElem _ _ firstInside, List.getD_eq_getElem _ _ secondInside] at same
  exact (List.Nodup.getElem_inj_iff nodup_symbols).mp same

/-- The whole text determines the octets. -/
theorem text_injective : Function.Injective text := by
  intro first second same
  have counts := congrArg List.length same
  rw [length_text, length_text] at counts
  have sameLength : first.length = second.length := by
    unfold groupCount at counts
    omega
  have sameBits : (bitString first).length = (bitString second).length := by
    rw [length_bitString, length_bitString, sameLength]
  apply bitString_injective
  apply eq_of_groups_eq (show 0 < 6 by decide) sameBits
  have widths : ∀ {hash : List UInt8}, ∀ bits ∈ groups 6 (bitString hash), bits.length = 6 := by
    intro hash bits among
    obtain ⟨index, _, rfl⟩ := List.mem_map.mp among
    exact length_group _
  apply List.ext_getElem (by rw [length_groups, length_groups, sameBits])
  intro index inFirst inSecond
  have firstWidth := widths _ (List.getElem_mem inFirst)
  have secondWidth := widths _ (List.getElem_mem inSecond)
  have character := congrArg (fun all : List Char => all[index]?) same
  have symbol : symbols.getD (number (groups 6 (bitString first))[index]) nul =
      symbols.getD (number (groups 6 (bitString second))[index]) nul := by
    simpa [text, List.getElem?_eq_getElem inFirst, List.getElem?_eq_getElem inSecond] using character
  apply eq_of_number_eq (firstWidth.trans secondWidth.symm)
  apply symbol_injective
  · exact lt_of_lt_of_eq (number_lt _) (by rw [firstWidth]; rfl)
  · exact lt_of_lt_of_eq (number_lt _) (by rw [secondWidth]; rfl)
  · exact symbol

/-- An array with room for the whole text and its end holds a C string that is the text. -/
theorem cString_written {hash : List UInt8} {ret : List Char} (whole : groupCount 6 (8 * hash.length) < ret.length) :
    cString (written hash ret) = text hash := by
  have all : shown hash ret.length = text hash := by
    rw [shown, List.take_of_length_le]
    rw [length_text]
    omega
  rw [written, all, cString_append (nul_notMem_text hash)]

/-- Every size that an `int` holds fits an array of octets that is not near the range of an `int` itself. -/
theorem fits_of_small {hashLen size : Nat} (room : 0 < size) (small : size ≤ intMax)
    (counted : 8 * hashLen + 5 ≤ intMax) : Fits hashLen size := by
  have converted : toInt size = size := by
    have bound : size ≤ 2147483647 := small
    exact Int.bmod_eq_of_le (by omega) (by omega)
  have most : characters hashLen size ≤ size - 1 := Nat.min_le_left _ _
  have groupsMost : 6 * characters hashLen size ≤ 8 * hashLen + 5 := by
    have part : 6 * groupCount 6 (8 * hashLen) ≤ 8 * hashLen + 5 := by
      unfold groupCount
      omega
    have fewer : characters hashLen size ≤ groupCount 6 (8 * hashLen) := Nat.min_le_right _ _
    omega
  refine ⟨room, ?_, ?_, groupsMost.trans counted⟩
  · omega
  · omega

/-- The function writes the shown text and its end exactly when the size fits. Arrays that have room for the whole
text then hold different C strings for different octets, and the reader never moves its octets by a distance outside
their width. -/
theorem octetsToText_writes (hash : List UInt8) (ret : List Char) :
    (octetsToText hash ret = some (written hash ret) ↔ Fits hash.length ret.length) ∧
      (∀ other otherRet first second, Fits hash.length ret.length → Fits other.length otherRet.length →
        groupCount 6 (8 * hash.length) < ret.length → groupCount 6 (8 * other.length) < otherRet.length →
        octetsToText hash ret = some first → octetsToText other otherRet = some second →
        cString first = cString second → hash = other) ∧
      ∀ bitIndex, 0 ≤ BitsReader.shift bitIndex 6 ∧ BitsReader.shift bitIndex 6 < 32 := by
  refine ⟨octetsToText_iff hash ret, ?_, fun bitIndex => BitsReader.shift_valid bitIndex (by decide) (by decide)⟩
  intro other otherRet first second fits otherFits whole otherWhole returned otherReturned same
  rw [(octetsToText_iff hash ret).mpr fits] at returned
  rw [(octetsToText_iff other otherRet).mpr otherFits] at otherReturned
  cases returned
  cases otherReturned
  rw [cString_written whole, cString_written otherWhole] at same
  exact text_injective same

/-- The sixteen octets of a digest in an array of seventeen characters. -/
theorem octetsToText_writes_digest :
    octetsToText (List.replicate 16 255) (List.replicate 17 nul) =
      some (written (List.replicate 16 255) (List.replicate 17 nul)) :=
  (octetsToText_writes _ _).1.mpr (fits_of_small (by decide) (by decide) (by decide))

/-- An array of no characters is written outside of it, and one of 4294967297 characters gets an empty text for an
octet that has one. -/
theorem text_missing :
    octetsToText [255] [] ≠ some (written [255] []) ∧
      octetsToText [255] (List.replicate 4294967297 nul) ≠
        some (written [255] (List.replicate 4294967297 nul)) := by
  constructor
  · intro returned
    rw [octetsToText_nil] at returned
    cases returned
  · intro returned
    have fits := (octetsToText_iff _ _).mp returned
    rw [List.length_replicate] at fits
    have converted := fits.converted
    have one : toInt 4294967297 = 1 := by decide
    rw [one] at converted
    exact absurd converted (by decide)

end BelleSip.OctetsText
