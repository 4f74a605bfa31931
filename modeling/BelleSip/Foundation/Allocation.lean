import BelleSip.Foundation.Checked

/-
This file develops allocated buffers, which can be copied into only inside their bounds.
-/

namespace Foundation

namespace Allocation

variable {Byte : Type}

/-- The number of values of a `size_t`. -/
def sizeRange : Nat := 18446744073709551616

/-- The difference of two values of `size_t`, which wraps. -/
def sizeSub (first second : Nat) : Nat := if second ≤ first then first - second else first + sizeRange - second

theorem sizeSub_le {first second : Nat} (less : second ≤ first) : sizeSub first second = first - second := if_pos less

/-- This is `realloc`; the bytes behind the old ones may be any. -/
def realloc (fresh : Nat → Byte) (buffer : List Byte) (size : Nat) : List Byte :=
  (buffer ++ (List.range size).map fresh).take size

/-- This is `memcpy` into a buffer at an offset. -/
def copyTo (buffer : List Byte) (offset : Nat) (bytes : List Byte) : Checked (List Byte) :=
  if buffer.length < offset + bytes.length then .error .fatal
  else .ok (buffer.take offset ++ bytes ++ buffer.drop (offset + bytes.length))

variable {fresh : Nat → Byte} {buffer bytes : List Byte} {offset size : Nat}

theorem length_realloc : (realloc fresh buffer size).length = size := by
  rw [realloc, List.length_take, List.length_append, List.length_map, List.length_range]
  omega

/-- The old bytes are kept. -/
theorem take_realloc (inside : offset ≤ buffer.length) (less : offset ≤ size) :
    (realloc fresh buffer size).take offset = buffer.take offset := by
  rw [realloc, List.take_take, Nat.min_eq_left less, List.take_append_of_le_length inside]

/-- The bytes that a buffer begins with. -/
theorem take_front {front back : List Byte} {count : Nat} (begins : buffer.take count = front ++ back)
    (length : front.length = offset) : buffer.take offset = front := by
  have prefixed : front <+: buffer := by
    have first := List.prefix_append front back
    rw [← begins] at first
    exact first.trans (List.take_prefix count buffer)
  rw [← length]
  exact (List.prefix_iff_eq_take.mp prefixed).symm

/-- Inside its bounds a buffer is copied into, and the bytes before the offset are kept. -/
theorem copyTo_inside (inside : offset + bytes.length ≤ buffer.length) :
    ∃ after, copyTo buffer offset bytes = .ok after ∧ after.length = buffer.length ∧
      after.take (offset + bytes.length) = buffer.take offset ++ bytes := by
  have front : (buffer.take offset ++ bytes).length = offset + bytes.length := by
    rw [List.length_append, List.length_take]
    omega
  refine ⟨_, if_neg (by omega), ?_, ?_⟩
  · rw [List.length_append, front, List.length_drop]
    omega
  · rw [← front]
    exact List.take_left

/-- A buffer can be copied into only inside its bounds. -/
theorem copyTo_eq_ok {after : List Byte} (copied : copyTo buffer offset bytes = .ok after) :
    offset + bytes.length ≤ buffer.length ∧ after.length = buffer.length := by
  by_cases inside : offset + bytes.length ≤ buffer.length
  · obtain ⟨other, same, length, -⟩ := copyTo_inside inside
    cases same.symm.trans copied
    exact ⟨inside, length⟩
  · rw [copyTo, if_pos (by omega)] at copied
    cases copied

end Allocation

end Foundation
