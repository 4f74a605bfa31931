import Mathlib.Data.List.Basic
import Mathlib.Tactic.Common

/-
This file develops the change of the first entry of a list that passes a test, and what the change does to
the total of a measure.
-/

namespace Foundation.Selection

variable {Entry : Type*}

/-- The first entry that passes the test is changed. -/
def modifyFirst (test : Entry → Bool) (change : Entry → Entry) : List Entry → List Entry
  | [] => []
  | entry :: rest => if test entry then change entry :: rest else entry :: modifyFirst test change rest

/-- The sum of a measure over all entries. -/
def total (measure : Entry → Nat) : List Entry → Nat
  | [] => 0
  | entry :: rest => measure entry + total measure rest

@[simp] theorem total_cons (measure : Entry → Nat) (entry : Entry) (rest : List Entry) :
    total measure (entry :: rest) = measure entry + total measure rest := rfl

variable {test : Entry → Bool} {change : Entry → Entry}

theorem modifyFirst_of_none {entries : List Entry} (none : entries.find? test = none) :
    modifyFirst test change entries = entries := by
  induction entries with
  | nil => rfl
  | cons entry rest ih =>
      rw [List.find?_cons] at none
      cases passes : test entry with
      | true => simp [passes] at none
      | false =>
          rw [passes] at none
          rw [modifyFirst, if_neg (by simp [passes]), ih none]

/-- A changed entry that still passes the test is the next one to be selected. -/
theorem find?_modifyFirst {entries : List Entry} {entry : Entry} (found : entries.find? test = some entry)
    (passes : test (change entry) = true) :
    (modifyFirst test change entries).find? test = some (change entry) := by
  induction entries with
  | nil => simp at found
  | cons first rest ih =>
      rw [List.find?_cons] at found
      cases tested : test first with
      | true =>
          rw [tested] at found
          obtain rfl : first = entry := by simpa using found
          rw [modifyFirst, if_pos tested, List.find?_cons, passes]
      | false =>
          rw [tested] at found
          rw [modifyFirst, if_neg (by simp [tested]), List.find?_cons, tested]
          exact ih found

/-- Two changes of the same entry are one, where the first of them does not change the test. -/
theorem modifyFirst_modifyFirst (next : Entry → Entry) (same : ∀ entry, test (change entry) = test entry)
    (entries : List Entry) :
    modifyFirst test next (modifyFirst test change entries) =
      modifyFirst test (fun entry => next (change entry)) entries := by
  induction entries with
  | nil => rfl
  | cons entry rest ih =>
      by_cases passes : test entry = true
      · have passed : test (change entry) = true := (same entry).trans passes
        rw [modifyFirst, modifyFirst, if_pos passes, if_pos passes, modifyFirst, if_pos passed]
      · rw [modifyFirst, modifyFirst, if_neg passes, if_neg passes, modifyFirst, if_neg passes, ih]

/-- The selected entry leaves the total and its successor enters it. -/
theorem total_modifyFirst (measure : Entry → Nat) (change : Entry → Entry) {entries : List Entry} {entry : Entry}
    (found : entries.find? test = some entry) :
    total measure (modifyFirst test change entries) + measure entry =
      total measure entries + measure (change entry) := by
  induction entries with
  | nil => simp at found
  | cons first rest ih =>
      rw [List.find?_cons] at found
      cases passes : test first with
      | true =>
          rw [passes] at found
          obtain rfl : first = entry := by simpa using found
          rw [modifyFirst, if_pos passes, total_cons, total_cons]
          omega
      | false =>
          rw [passes] at found
          have others := ih found
          rw [modifyFirst, if_neg (by simp [passes]), total_cons, total_cons]
          omega

/-- A change that keeps the measure of the selected entry keeps the total. -/
theorem total_modifyFirst_same (measure : Entry → Nat) {entries : List Entry}
    (same : ∀ entry, entries.find? test = some entry → measure (change entry) = measure entry) :
    total measure (modifyFirst test change entries) = total measure entries := by
  cases found : entries.find? test with
  | none => rw [modifyFirst_of_none found]
  | some entry =>
      have balance := total_modifyFirst measure change found
      rw [same entry found] at balance
      omega

/-- A change that keeps a feature of the selected entry keeps the features of all entries. -/
theorem map_modifyFirst {Feature : Type*} {feature : Entry → Feature} {entries : List Entry}
    (same : ∀ entry, entries.find? test = some entry → feature (change entry) = feature entry) :
    (modifyFirst test change entries).map feature = entries.map feature := by
  induction entries with
  | nil => rfl
  | cons first rest ih =>
      cases passes : test first with
      | true =>
          rw [modifyFirst, if_pos passes, List.map_cons, List.map_cons,
            same first (by rw [List.find?_cons, passes])]
      | false =>
          rw [modifyFirst, if_neg (by simp [passes]), List.map_cons, List.map_cons,
            ih fun entry found => same entry (by rw [List.find?_cons, passes]; exact found)]

/-- A change that leaves the selected entry as it is leaves all entries as they are. -/
theorem modifyFirst_of_same {entries : List Entry}
    (same : ∀ entry, entries.find? test = some entry → change entry = entry) :
    modifyFirst test change entries = entries := by
  have kept := @map_modifyFirst _ _ change _ id entries same
  rwa [List.map_id, List.map_id] at kept

/-- What holds of all entries and of the changed entry holds of all entries afterwards. -/
theorem forall_modifyFirst {property : Entry → Prop} {entries : List Entry}
    (all : ∀ entry ∈ entries, property entry)
    (changed : ∀ entry, entries.find? test = some entry → property (change entry)) :
    ∀ entry ∈ modifyFirst test change entries, property entry := by
  induction entries with
  | nil => simp [modifyFirst]
  | cons first rest ih =>
      intro entry among
      cases passes : test first with
      | true =>
          rw [modifyFirst, if_pos passes] at among
          rcases List.mem_cons.mp among with rfl | among
          · exact changed first (by rw [List.find?_cons, passes])
          · exact all entry (List.mem_cons_of_mem _ among)
      | false =>
          rw [modifyFirst, if_neg (by simp [passes])] at among
          rcases List.mem_cons.mp among with rfl | among
          · exact all entry List.mem_cons_self
          · refine ih (fun other present => all other (List.mem_cons_of_mem _ present)) (fun other found => ?_)
              entry among
            exact changed other (by rw [List.find?_cons, passes]; exact found)

/-- Every entry stays, or it is the one that is changed. -/
theorem mem_modifyFirst {entries : List Entry} {entry : Entry} (among : entry ∈ entries) :
    entry ∈ modifyFirst test change entries ∨
      entries.find? test = some entry ∧ change entry ∈ modifyFirst test change entries := by
  induction entries with
  | nil => cases among
  | cons first rest ih =>
      by_cases passes : test first = true
      · rw [modifyFirst, if_pos passes, List.find?_cons, passes]
        rcases List.mem_cons.mp among with rfl | among
        · exact .inr ⟨rfl, List.mem_cons_self⟩
        · exact .inl (List.mem_cons_of_mem _ among)
      · rw [modifyFirst, if_neg passes, List.find?_cons, Bool.eq_false_iff.mpr passes]
        rcases List.mem_cons.mp among with rfl | among
        · exact .inl List.mem_cons_self
        · exact (ih among).imp (List.mem_cons_of_mem _) fun found => ⟨found.1, List.mem_cons_of_mem _ found.2⟩

/-- The entry that is changed is among the entries afterwards. -/
theorem changed_mem_modifyFirst {entries : List Entry} {entry : Entry} (found : entries.find? test = some entry) :
    change entry ∈ modifyFirst test change entries := by
  induction entries with
  | nil => cases found
  | cons first rest ih =>
      by_cases passes : test first = true
      · rw [List.find?_cons, passes] at found
        cases found
        rw [modifyFirst, if_pos passes]
        exact List.mem_cons_self
      · rw [List.find?_cons, Bool.eq_false_iff.mpr passes] at found
        rw [modifyFirst, if_neg passes]
        exact List.mem_cons_of_mem _ (ih found)

end Foundation.Selection
