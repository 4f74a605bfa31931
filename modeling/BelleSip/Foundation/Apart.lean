import Mathlib.Data.List.Basic
import Mathlib.Tactic.Common

/-
This file develops lists whose items at different positions are related in both directions.
-/

namespace Foundation

variable {Item Other : Type*} {related : Item → Item → Prop}

/-- Items at different positions are related. -/
def Apart (related : Item → Item → Prop) (items : List Item) : Prop :=
  items.Pairwise fun first second => related first second ∧ related second first

namespace Apart

/-- The relation holds for two positions in any order. -/
theorem iff_positions {items : List Item} :
    Apart related items ↔ ∀ (first second : Nat) (one other : Item), first ≠ second →
      items[first]? = some one → items[second]? = some other → related one other := by
  unfold Apart
  rw [List.pairwise_iff_getElem]
  constructor
  · intro ordered first second one other different oneAt otherAt
    obtain ⟨firstInside, rfl⟩ := List.getElem?_eq_some_iff.mp oneAt
    obtain ⟨secondInside, rfl⟩ := List.getElem?_eq_some_iff.mp otherAt
    rcases Nat.lt_or_gt_of_ne different with before | after
    · exact (ordered first second firstInside secondInside before).1
    · exact (ordered second first secondInside firstInside after).2
  · intro apart first second firstInside secondInside before
    have one := List.getElem?_eq_getElem firstInside
    have other := List.getElem?_eq_getElem secondInside
    exact ⟨apart first second _ _ (Nat.ne_of_lt before) one other,
      apart second first _ _ (Nat.ne_of_gt before) other one⟩

theorem nil : Apart related [] := List.Pairwise.nil

/-- A new last item has to be related to all the others. -/
theorem append_single {items : List Item} {item : Item} (apart : Apart related items)
    (fresh : ∀ other ∈ items, related other item ∧ related item other) : Apart related (items ++ [item]) := by
  apply List.pairwise_append.mpr
  refine ⟨apart, List.pairwise_singleton _ _, ?_⟩
  intro other among last isLast
  rw [List.mem_singleton.mp isLast]
  exact fresh other among

/-- A changed item has to be related to the items at the other positions. -/
theorem modify {items : List Item} {position : Nat} {change : Item → Item} (apart : Apart related items)
    (fresh : ∀ (index : Nat) (other item : Item), index ≠ position → items[index]? = some other →
      items[position]? = some item → related other (change item) ∧ related (change item) other) :
    Apart related (items.modify position change) := by
  have positions := iff_positions.mp apart
  apply iff_positions.mpr
  intro first second one other different oneAt otherAt
  rw [List.getElem?_modify, Option.map_eq_map, Option.map_eq_some_iff] at oneAt otherAt
  obtain ⟨oldOne, oneEq, rfl⟩ := oneAt
  obtain ⟨oldOther, otherEq, rfl⟩ := otherAt
  by_cases atFirst : position = first
  · have away : ¬position = second := fun atSecond => different (atFirst.symm.trans atSecond)
    rw [if_pos atFirst, if_neg away]
    subst atFirst
    exact (fresh second oldOther oldOne (Ne.symm different) otherEq oneEq).2
  · rw [if_neg atFirst]
    by_cases atSecond : position = second
    · rw [if_pos atSecond]
      subst atSecond
      exact (fresh first oldOne oldOther different oneEq otherEq).1
    · rw [if_neg atSecond]
      exact positions first second oldOne oldOther different oneEq otherEq

/-- Two different items are related. -/
theorem of_ne {items : List Item} (apart : Apart related items) {one other : Item} (oneIn : one ∈ items)
    (otherIn : other ∈ items) (different : one ≠ other) : related one other := by
  obtain ⟨first, oneAt⟩ := List.mem_iff_getElem?.mp oneIn
  obtain ⟨second, otherAt⟩ := List.mem_iff_getElem?.mp otherIn
  apply iff_positions.mp apart first second one other _ oneAt otherAt
  rintro rfl
  rw [oneAt] at otherAt
  exact different (Option.some.inj otherAt)

theorem filter {items : List Item} (apart : Apart related items) (kept : Item → Bool) :
    Apart related (items.filter kept) := List.Pairwise.filter _ apart

theorem map {items : List Item} {mapped : Other → Other → Prop} (change : Item → Other)
    (apart : Apart related items)
    (carries : ∀ one other, related one other → mapped (change one) (change other)) :
    Apart mapped (items.map change) := by
  apply List.pairwise_map.mpr
  apply List.Pairwise.imp _ apart
  intro one other both
  exact ⟨carries one other both.1, carries other one both.2⟩

end Apart

end Foundation
