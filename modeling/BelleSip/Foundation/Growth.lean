import Mathlib.Data.List.Basic
import Mathlib.Tactic.Common

/-
This file develops tables that grow at their end while their rows change along a relation.
-/

namespace Foundation

variable {Row : Type*} {changes : Row → Row → Prop} {fresh : Row → Prop}

/-- Each row changes along the relation, and the new rows have a property. -/
structure Grows (changes : Row → Row → Prop) (fresh : Row → Prop) (before after : List Row) : Prop where
  old : ∀ (index : Nat) (row : Row), before[index]? = some row →
    ∃ next, after[index]? = some next ∧ changes row next
  new : ∀ (index : Nat) (next : Row), before[index]? = none → after[index]? = some next → fresh next

namespace Grows

theorem refl (reflexive : ∀ row, changes row row) (table : List Row) : Grows changes fresh table table where
  old := fun _ row present => ⟨row, present, reflexive row⟩
  new := by
    intro index next absent present
    rw [absent] at present
    cases present

theorem trans {first second third : List Row}
    (transitive : ∀ one two three, changes one two → changes two three → changes one three)
    (kept : ∀ one two, fresh one → changes one two → fresh two)
    (before : Grows changes fresh first second) (after : Grows changes fresh second third) :
    Grows changes fresh first third where
  old := by
    intro index row present
    obtain ⟨middle, middlePresent, one⟩ := before.old index row present
    obtain ⟨last, lastPresent, two⟩ := after.old index middle middlePresent
    exact ⟨last, lastPresent, transitive row middle last one two⟩
  new := by
    intro index last absent present
    cases found : second[index]? with
    | none => exact after.new index last found present
    | some middle =>
        obtain ⟨same, samePresent, change⟩ := after.old index middle found
        cases present.symm.trans samePresent
        exact kept middle last (before.new index middle absent found) change

/-- A row of the larger table has changed from an old one or is new. -/
theorem back {before after : List Row} (grows : Grows changes fresh before after) {index : Nat} {next : Row}
    (present : after[index]? = some next) :
    (∃ row, before[index]? = some row ∧ changes row next) ∨ (before[index]? = none ∧ fresh next) := by
  cases found : before[index]? with
  | none => exact .inr ⟨rfl, grows.new index next found present⟩
  | some row =>
      obtain ⟨same, samePresent, change⟩ := grows.old index row found
      cases present.symm.trans samePresent
      exact .inl ⟨row, rfl, change⟩

theorem modify {table : List Row} {position : Nat} {change : Row → Row}
    (reflexive : ∀ row, changes row row)
    (changed : ∀ row, table[position]? = some row → changes row (change row)) :
    Grows changes fresh table (table.modify position change) where
  old := by
    intro index row present
    by_cases here : position = index
    · subst here
      refine ⟨change row, ?_, changed row present⟩
      rw [List.getElem?_modify_eq, present]
      rfl
    · refine ⟨row, ?_, reflexive row⟩
      rw [List.getElem?_modify_ne _ _ here, present]
  new := by
    intro index next absent present
    rw [List.getElem?_modify, absent] at present
    cases present

theorem append {table : List Row} {row : Row} (reflexive : ∀ row, changes row row) (isFresh : fresh row) :
    Grows changes fresh table (table ++ [row]) where
  old := by
    intro index old present
    refine ⟨old, ?_, reflexive old⟩
    rw [List.getElem?_append_left (List.getElem?_eq_some_iff.mp present).1]
    exact present
  new := by
    intro index next absent present
    rw [List.getElem?_append_right (List.getElem?_eq_none_iff.mp absent)] at present
    have among := List.mem_of_getElem? present
    rw [List.mem_singleton.mp among]
    exact isFresh

end Grows

end Foundation
