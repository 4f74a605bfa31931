import Mathlib.Data.List.Basic
import Mathlib.Data.List.FinRange
import Mathlib.Data.List.Nodup
import Mathlib.Logic.Function.Basic
import Mathlib.Tactic.Common

/-
This file develops a list of entries with keys as a finite map from the keys, and the items that a family of
such lists owns.
-/

namespace Foundation.Keyed

section Lookup

variable {Key Entry : Type*} [DecidableEq Key] (keyOf : Entry → Key)

/-- The first link with the key: its position and its entry. -/
def findLink : List Entry → Key → Option (Nat × Entry)
  | [], _ => none
  | entry :: rest, key =>
    if keyOf entry = key then some (0, entry)
    else (findLink rest key).map fun link => (link.1 + 1, link.2)

/-- The map from keys to entries that a list stands for. -/
def lookup (entries : List Entry) (key : Key) : Option Entry := (findLink keyOf entries key).map Prod.snd

/-- Each key has one entry at most. -/
def Distinct (entries : List Entry) : Prop := (entries.map keyOf).Nodup

variable {keyOf} {entries : List Entry} {key : Key} {link : Nat × Entry}

@[simp] theorem lookup_nil : lookup keyOf [] key = none := rfl

theorem lookup_cons (entry : Entry) :
    lookup keyOf (entry :: entries) key = if keyOf entry = key then some entry else lookup keyOf entries key := by
  rw [lookup, findLink]
  split
  · rfl
  · rw [Option.map_map]
    rfl

theorem lookup_of_findLink (found : findLink keyOf entries key = some link) :
    lookup keyOf entries key = some link.2 := by
  rw [lookup, found, Option.map_some]

theorem lookup_eq_none_iff : lookup keyOf entries key = none ↔ key ∉ entries.map keyOf := by
  induction entries with
  | nil => simp
  | cons entry entries inductionHypothesis =>
      rw [lookup_cons, List.map_cons, List.mem_cons, not_or, ← inductionHypothesis]
      by_cases same : keyOf entry = key
      · simp [same]
      · simp [same, Ne.symm same]

theorem findLink_eq_none_iff : findLink keyOf entries key = none ↔ key ∉ entries.map keyOf := by
  rw [← lookup_eq_none_iff, lookup, Option.map_eq_none_iff]

/-- A found link splits its list. -/
theorem findLink_split (found : findLink keyOf entries key = some link) :
    ∃ before after, entries = before ++ link.2 :: after ∧ before.length = link.1 ∧ keyOf link.2 = key := by
  induction entries generalizing link with
  | nil => cases found
  | cons entry entries inductionHypothesis =>
      rw [findLink] at found
      split at found
      · rename_i same
        cases found
        exact ⟨[], entries, rfl, rfl, same⟩
      · obtain ⟨inner, foundInner, rfl⟩ := Option.map_eq_some_iff.mp found
        obtain ⟨before, after, rfl, position, same⟩ := inductionHypothesis foundInner
        exact ⟨entry :: before, after, rfl, by rw [List.length_cons, position], same⟩

omit [DecidableEq Key] in
theorem distinct_cons {entry : Entry} :
    Distinct keyOf (entry :: entries) ↔ keyOf entry ∉ entries.map keyOf ∧ Distinct keyOf entries := by
  rw [Distinct, List.map_cons, List.nodup_cons, Distinct]

/-- An entry with a new key is added to the map. -/
theorem lookup_append {new : Entry} (fresh : findLink keyOf entries (keyOf new) = none) :
    lookup keyOf (entries ++ [new]) = Function.update (lookup keyOf entries) (keyOf new) (some new) := by
  funext key
  rw [findLink_eq_none_iff] at fresh
  induction entries with
  | nil =>
      rw [List.nil_append, lookup_cons]
      by_cases same : keyOf new = key
      · simp [same]
      · simp [same, Function.update_of_ne (Ne.symm same)]
  | cons entry entries inductionHypothesis =>
      rw [List.map_cons, List.mem_cons, not_or] at fresh
      rw [List.cons_append, lookup_cons, inductionHypothesis fresh.2]
      by_cases same : keyOf entry = key
      · subst same
        rw [if_pos rfl, Function.update_of_ne (Ne.symm fresh.1), lookup_cons, if_pos rfl]
      · rw [if_neg same]
        by_cases new : key = keyOf new
        · subst new
          rw [Function.update_self, Function.update_self]
        · rw [Function.update_of_ne new, Function.update_of_ne new, lookup_cons, if_neg same]

theorem distinct_append {new : Entry} (distinct : Distinct keyOf entries)
    (fresh : findLink keyOf entries (keyOf new) = none) : Distinct keyOf (entries ++ [new]) := by
  rw [findLink_eq_none_iff] at fresh
  rw [Distinct, List.map_append, List.nodup_append]
  refine ⟨distinct, by simp, ?_⟩
  intro key among other single same
  rw [same, List.mem_singleton.mp single] at among
  exact fresh among

/-- An entry with the same key that takes the place of the found one replaces it in the map. -/
theorem lookup_set {new : Entry} (found : findLink keyOf entries key = some link) (same : keyOf new = key) :
    lookup keyOf (entries.set link.1 new) = Function.update (lookup keyOf entries) key (some new) := by
  funext asked
  induction entries generalizing link with
  | nil => cases found
  | cons entry entries inductionHypothesis =>
      rw [findLink] at found
      by_cases first : keyOf entry = key
      · rw [if_pos first] at found
        cases found
        rw [List.set_cons_zero, lookup_cons]
        by_cases other : asked = key
        · rw [other, if_pos same, Function.update_self]
        · rw [same, if_neg (Ne.symm other), Function.update_of_ne other, lookup_cons, first, if_neg (Ne.symm other)]
      · rw [if_neg first] at found
        obtain ⟨inner, foundInner, rfl⟩ := Option.map_eq_some_iff.mp found
        rw [List.set_cons_succ, lookup_cons, inductionHypothesis foundInner]
        by_cases other : asked = key
        · rw [other, if_neg first, Function.update_self, Function.update_self]
        · rw [Function.update_of_ne other, Function.update_of_ne other, lookup_cons]

theorem map_set {new : Entry} (found : findLink keyOf entries key = some link) (same : keyOf new = key) :
    (entries.set link.1 new).map keyOf = entries.map keyOf := by
  obtain ⟨before, after, rfl, position, sameLink⟩ := findLink_split found
  rw [List.set_append_right _ _ position.le, ← position, Nat.sub_self, List.set_cons_zero]
  simp [same, sameLink]

theorem distinct_set {new : Entry} (distinct : Distinct keyOf entries)
    (found : findLink keyOf entries key = some link) (same : keyOf new = key) :
    Distinct keyOf (entries.set link.1 new) := by
  rw [Distinct, map_set found same]
  exact distinct

/-- A found entry that is unlinked leaves the map. -/
theorem lookup_eraseIdx (distinct : Distinct keyOf entries) (found : findLink keyOf entries key = some link) :
    lookup keyOf (entries.eraseIdx link.1) = Function.update (lookup keyOf entries) key none := by
  funext asked
  induction entries generalizing link with
  | nil => cases found
  | cons entry entries inductionHypothesis =>
      obtain ⟨fresh, others⟩ := distinct_cons.mp distinct
      rw [findLink] at found
      by_cases first : keyOf entry = key
      · rw [if_pos first] at found
        cases found
        rw [List.eraseIdx_cons_zero]
        by_cases other : asked = key
        · rw [other, Function.update_self, ← first]
          exact lookup_eq_none_iff.mpr fresh
        · rw [Function.update_of_ne other, lookup_cons, first, if_neg (Ne.symm other)]
      · rw [if_neg first] at found
        obtain ⟨inner, foundInner, rfl⟩ := Option.map_eq_some_iff.mp found
        rw [List.eraseIdx_cons_succ, lookup_cons, inductionHypothesis others foundInner]
        by_cases other : asked = key
        · rw [other, if_neg first, Function.update_self, Function.update_self]
        · rw [Function.update_of_ne other, Function.update_of_ne other, lookup_cons]

omit [DecidableEq Key] in
theorem distinct_eraseIdx (distinct : Distinct keyOf entries) (index : Nat) :
    Distinct keyOf (entries.eraseIdx index) :=
  distinct.sublist ((List.eraseIdx_sublist entries index).map keyOf)

end Lookup

section Owned

variable {Entry Item : Type*} {owned : Entry → List Item}

/-- The items of a replaced entry are exchanged for those of its successor. -/
theorem flatMap_replace (before after : List Entry) (old new : Entry) :
    (owned old ++ (before ++ new :: after).flatMap owned).Perm
      (owned new ++ (before ++ old :: after).flatMap owned) := by
  rw [List.flatMap_append, List.flatMap_append, List.flatMap_cons, List.flatMap_cons]
  have outward := (List.perm_append_comm_assoc (owned old) (before.flatMap owned) (owned new ++ after.flatMap owned))
  have exchanged := (List.perm_append_comm_assoc (owned old) (owned new) (after.flatMap owned)).append_left
    (before.flatMap owned)
  have inward := (List.perm_append_comm_assoc (before.flatMap owned) (owned new) (owned old ++ after.flatMap owned))
  exact (outward.trans exchanged).trans inward

/-- The items of an entry that is taken out are those by which the list was longer. -/
theorem flatMap_takeOut (before after : List Entry) (old : Entry) :
    (owned old ++ (before ++ after).flatMap owned).Perm ((before ++ old :: after).flatMap owned) := by
  rw [List.flatMap_append, List.flatMap_append, List.flatMap_cons]
  exact List.perm_append_comm_assoc _ _ _

variable {count : Nat}

/-- The items of all lists of a family. -/
def allOwned (owned : Entry → List Item) (lists : Fin count → List Entry) : List Item :=
  (List.finRange count).flatMap fun index => (lists index).flatMap owned

/-- One list of a family contributes its items, whatever the others do. -/
theorem allOwned_update (owned : Entry → List Item) (lists : Fin count → List Entry) (index : Fin count) :
    ∃ others, ∀ entries, (allOwned owned (Function.update lists index entries)).Perm
      (entries.flatMap owned ++ others) := by
  refine ⟨((List.finRange count).erase index).flatMap fun other => (lists other).flatMap owned, fun entries => ?_⟩
  have away : index ∉ (List.finRange count).erase index := (List.nodup_finRange count).not_mem_erase
  have same : ((List.finRange count).erase index).flatMap
        (fun other => (Function.update lists index entries other).flatMap owned) =
      ((List.finRange count).erase index).flatMap fun other => (lists other).flatMap owned := by
    apply List.flatMap_congr
    intro other among
    rw [Function.update_of_ne]
    rintro rfl
    exact away among
  have first := (List.perm_cons_erase (List.mem_finRange index)).flatMap_right
    fun other => (Function.update lists index entries other).flatMap owned
  rw [List.flatMap_cons, Function.update_self, same] at first
  exact first

/-- An exchange of items in one list of a family is an exchange in the family. -/
theorem allOwned_exchange {lists : Fin count → List Entry} {index : Fin count} {entries : List Entry}
    {leaving entering : List Item}
    (exchange : (leaving ++ entries.flatMap owned).Perm (entering ++ (lists index).flatMap owned)) :
    (leaving ++ allOwned owned (Function.update lists index entries)).Perm (entering ++ allOwned owned lists) := by
  obtain ⟨others, contributes⟩ := allOwned_update owned lists index
  have before := contributes (lists index)
  rw [Function.update_eq_self] at before
  have after := (contributes entries).append_left leaving
  rw [← List.append_assoc] at after
  refine (after.trans (exchange.append_right others)).trans ?_
  rw [List.append_assoc]
  exact before.symm.append_left entering

section Balance

variable {handed first second held heldAfter out entering : List Item}

/-- Items that were handed over and are still there, or have left by one of two ways, stay balanced when items leave
by the first way and others are handed over. -/
theorem balance_put (balance : handed.Perm (first ++ second ++ held))
    (exchange : (out ++ heldAfter).Perm (entering ++ held)) :
    (handed ++ entering).Perm ((first ++ out) ++ second ++ heldAfter) := by
  classical
  rw [List.perm_iff_count] at balance exchange ⊢
  intro item
  have balanced := balance item
  have exchanged := exchange item
  simp only [List.count_append] at balanced exchanged ⊢
  omega

theorem balance_first (balance : handed.Perm (first ++ second ++ held)) (leaving : (out ++ heldAfter).Perm held) :
    handed.Perm ((first ++ out) ++ second ++ heldAfter) := by
  have put := balance_put balance (show (out ++ heldAfter).Perm ([] ++ held) from leaving)
  rwa [List.append_nil] at put

theorem balance_second (balance : handed.Perm (first ++ second ++ held)) (leaving : (out ++ heldAfter).Perm held) :
    handed.Perm (first ++ (second ++ out) ++ heldAfter) := by
  have kept := leaving.symm.append_left (first ++ second)
  have regrouped : first ++ (second ++ out) ++ heldAfter = first ++ second ++ (out ++ heldAfter) := by
    simp only [List.append_assoc]
  rw [regrouped]
  exact balance.trans kept

end Balance

end Owned

end Foundation.Keyed
