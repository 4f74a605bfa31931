import Mathlib.Data.List.Basic
import Mathlib.Tactic.Common

/-
This file develops the reassembly of items whose texts arrive one after the other in pieces.
-/

namespace Foundation.Reassembly

variable {Item Symbol : Type*} (text : Item → List Symbol)

/-- The items whose texts have been received as a whole leave. What remains are the other items, and the beginning of
the first one's text. -/
def settle : List Item → List Symbol → List Item × List Symbol
  | [], received => ([], received)
  | item :: rest, received =>
      if (text item).length ≤ received.length then settle rest (received.drop (text item).length)
      else (item :: rest, received)

/-- The received symbols begin the texts of the items and end before the first one is whole. -/
structure Partial (items : List Item) (received : List Symbol) : Prop where
  begins : received <+: items.flatMap text
  short : ∀ item ∈ items.head?, received.length < (text item).length

variable {text} {item : Item} {items rest : List Item} {received more : List Symbol}

theorem settle_whole (whole : (text item).length ≤ received.length) :
    settle text (item :: rest) received = settle text rest (received.drop (text item).length) := by
  rw [settle, if_pos whole]

theorem settle_short (short : received.length < (text item).length) :
    settle text (item :: rest) received = (item :: rest, received) := by
  rw [settle, if_neg (Nat.not_le_of_lt short)]

theorem mem_of_settled (among : item ∈ (settle text items received).1) : item ∈ items := by
  induction items generalizing received with
  | nil => exact among
  | cons first rest ih =>
      rcases Nat.lt_or_ge received.length (text first).length with short | whole
      · rw [settle_short short] at among
        exact among
      · rw [settle_whole whole] at among
        exact List.mem_cons_of_mem first (ih among)

theorem prefix_whole (begins : received <+: (item :: rest).flatMap text)
    (whole : (text item).length ≤ received.length) :
    ∃ more, received = text item ++ more ∧ more <+: rest.flatMap text := by
  rw [List.flatMap_cons] at begins
  obtain ⟨more, rfl⟩ := List.prefix_of_prefix_length_le (List.prefix_append _ _) begins whole
  exact ⟨more, rfl, (List.prefix_append_right_inj _).mp begins⟩

theorem prefix_short (begins : received <+: (item :: rest).flatMap text)
    (short : received.length ≤ (text item).length) : received <+: text item := by
  rw [List.flatMap_cons] at begins
  exact List.prefix_of_prefix_length_le begins (List.prefix_append _ _) short

/-- What has been received of the items that remain is the rest of what has been received. -/
theorem settle_partial (begins : received <+: items.flatMap text) :
    Partial text (settle text items received).1 (settle text items received).2 ∧
      ∃ left, received = left ++ (settle text items received).2 ∧
        items.flatMap text = left ++ (settle text items received).1.flatMap text := by
  induction items generalizing received with
  | nil => exact ⟨⟨begins, nofun⟩, [], rfl, rfl⟩
  | cons item rest ih =>
      rcases Nat.lt_or_ge received.length (text item).length with short | whole
      · rw [settle_short short]
        refine ⟨⟨begins, ?_⟩, [], rfl, rfl⟩
        rintro first same
        cases same
        exact short
      · obtain ⟨more, rfl, onward⟩ := prefix_whole begins whole
        rw [settle_whole whole, List.drop_left]
        obtain ⟨settled, left, isMore, isRest⟩ := ih onward
        refine ⟨settled, text item ++ left, ?_, ?_⟩
        · rw [List.append_assoc, ← isMore]
        · rw [List.flatMap_cons, List.append_assoc, ← isRest]

/-- When all texts have been received, no item remains. -/
theorem Partial.ended (settled : Partial text items received) (all : received = items.flatMap text) : items = [] := by
  cases items with
  | nil => rfl
  | cons item rest =>
      have short := settled.short item rfl
      rw [all, List.flatMap_cons, List.length_append] at short
      omega

end Foundation.Reassembly
