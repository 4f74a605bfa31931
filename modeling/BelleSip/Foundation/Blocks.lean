import Mathlib.Data.List.Basic
import Mathlib.Tactic.Common

/-
This file develops what a computation that takes its input in blocks of one size makes of an input that comes in pieces.
-/

namespace Foundation.Blocks

variable {State Byte : Type} (process : State → List Byte → State) (size : Nat)

/-- That many blocks from the front of the input are processed. -/
def absorbBlocks : Nat → State → List Byte → State
  | 0, state, _ => state
  | count + 1, state, input => absorbBlocks count (process state (input.take size)) (input.drop size)

/-- All the whole blocks of the input are processed. -/
def absorb (state : State) (input : List Byte) : State := absorbBlocks process size (input.length / size) state input

/-- What is left of the input behind its whole blocks. -/
def leftover (input : List Byte) : List Byte := input.drop (input.length / size * size)

theorem length_leftover (input : List Byte) : (leftover size input).length = input.length % size := by
  have parts := Nat.mod_add_div input.length size
  have same := Nat.mul_comm size (input.length / size)
  rw [leftover, List.length_drop]
  omega

theorem leftover_of_short {input : List Byte} (short : input.length < size) : leftover size input = input := by
  rw [leftover, Nat.div_eq_of_lt short, Nat.zero_mul, List.drop_zero]

theorem absorb_of_short (state : State) {input : List Byte} (short : input.length < size) :
    absorb process size state input = state := by
  rw [absorb, Nat.div_eq_of_lt short, absorbBlocks]

variable {size}

/-- The first block, and then the others. -/
theorem absorb_block (positive : 0 < size) (state : State) {block : List Byte} (full : block.length = size)
    (rest : List Byte) :
    absorb process size state (block ++ rest) = absorb process size (process state block) rest := by
  have count : (block ++ rest).length / size = rest.length / size + 1 := by
    rw [List.length_append, full, Nat.add_comm, Nat.add_div_right _ positive]
  rw [absorb, count, absorbBlocks, ← full, List.take_left, List.drop_left, full]
  rfl

theorem leftover_block (positive : 0 < size) {block : List Byte} (full : block.length = size) (rest : List Byte) :
    leftover size (block ++ rest) = leftover size rest := by
  have count : (block ++ rest).length / size * size = size + rest.length / size * size := by
    rw [List.length_append, full, Nat.add_comm, Nat.add_div_right _ positive, Nat.add_mul, Nat.one_mul, Nat.add_comm]
  rw [leftover, count, ← List.drop_drop, ← full, List.drop_left, full]
  rfl

/-- What comes after the whole blocks only adds to what they leave. -/
theorem absorb_append (positive : 0 < size) (state : State) (first second : List Byte) :
    absorb process size state (first ++ second) =
      absorb process size (absorb process size state first) (leftover size first ++ second) ∧
    leftover size (first ++ second) = leftover size (leftover size first ++ second) := by
  -- the induction takes the first input block by block
  induction blocks : first.length / size generalizing state first with
  | zero =>
      have short : first.length < size := (Nat.div_eq_zero_iff_lt positive).mp blocks
      rw [absorb_of_short process size state short, leftover_of_short size short]
      exact ⟨rfl, rfl⟩
  | succ count ih =>
      have long : size ≤ first.length := by
        by_contra short
        rw [Nat.div_eq_of_lt (Nat.lt_of_not_le short)] at blocks
        exact absurd blocks (Nat.zero_ne_add_one count)
      have full : (first.take size).length = size := by rw [List.length_take, Nat.min_eq_left long]
      have fewer : (first.drop size).length / size = count := by
        have all := Nat.sub_mul_div first.length size 1
        rw [Nat.mul_one] at all
        rw [List.length_drop, all, blocks, Nat.add_sub_cancel]
      have parts : first = first.take size ++ first.drop size := (List.take_append_drop size first).symm
      obtain ⟨absorbed, left⟩ := ih (process state (first.take size)) (first.drop size) fewer
      rw [parts, List.append_assoc, absorb_block process positive state full, absorb_block process positive state full,
        leftover_block positive full, leftover_block positive full]
      exact ⟨absorbed, left⟩

end Foundation.Blocks
