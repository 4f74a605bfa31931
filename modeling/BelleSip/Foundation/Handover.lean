import Mathlib.Data.List.Basic
import Mathlib.Tactic.Common

/-
This file develops queues whose items are held for a while after they leave and then go out in order.
-/

namespace Foundation

variable {Item : Type*}

/-- The items that have entered have left the queue from its front or are still in it, and they have gone out
in that order. The items that are held may go out next. -/
def Handover (entered queue sent : List Item) (held : Item → Prop) : Prop :=
  ∃ gone : List Item, (gone ++ queue).Sublist entered ∧ sent.Sublist gone ∧
    ∀ item, held item → (sent ++ [item]).Sublist gone

namespace Handover

variable {entered queue sent : List Item} {held : Item → Prop} {item : Item}

theorem nil (held : Item → Prop) (nothing : ∀ item, ¬held item) : Handover [] [] [] held :=
  ⟨[], .refl [], .refl [], fun item holds => absurd holds (nothing item)⟩

/-- What has gone out keeps the order in which it entered. -/
theorem ordered (handover : Handover entered queue sent held) : sent.Sublist entered := by
  obtain ⟨gone, within, out, _⟩ := handover
  exact out.trans ((List.sublist_append_left gone queue).trans within)

theorem mono {fewer : Item → Prop} (handover : Handover entered queue sent held)
    (implies : ∀ item, fewer item → held item) : Handover entered queue sent fewer := by
  obtain ⟨gone, within, out, next⟩ := handover
  exact ⟨gone, within, out, fun item holds => next item (implies item holds)⟩

theorem enter (handover : Handover entered queue sent held) (more : List Item) :
    Handover (entered ++ more) queue sent held := by
  obtain ⟨gone, within, out, next⟩ := handover
  exact ⟨gone, within.trans (List.sublist_append_left entered more), out, next⟩

theorem enqueue (handover : Handover entered queue sent held) (item : Item) :
    Handover (entered ++ [item]) (queue ++ [item]) sent held := by
  obtain ⟨gone, within, out, next⟩ := handover
  refine ⟨gone, ?_, out, next⟩
  rw [← List.append_assoc]
  exact within.append (.refl [item])

/-- The queue is given up. -/
theorem abandon (handover : Handover entered queue sent held) : Handover entered [] sent held := by
  obtain ⟨gone, within, out, next⟩ := handover
  refine ⟨gone, ?_, out, next⟩
  rw [List.append_nil]
  exact (List.sublist_append_left gone queue).trans within

/-- The first item leaves the queue and may be held. -/
theorem dequeue (handover : Handover entered (item :: queue) sent held) :
    Handover entered queue sent fun next => held next ∨ next = item := by
  obtain ⟨gone, within, out, next⟩ := handover
  have grown : gone.Sublist (gone ++ [item]) := List.sublist_append_left gone [item]
  refine ⟨gone ++ [item], ?_, out.trans grown, ?_⟩
  · rw [List.append_assoc]
    exact within
  · intro other holds
    rcases holds with held | rfl
    · exact (next other held).trans grown
    · exact out.append (.refl [other])

/-- An item that enters an empty queue leaves it at once. -/
theorem pass (handover : Handover entered [] sent held) (item : Item) :
    Handover (entered ++ [item]) [] sent fun next => held next ∨ next = item :=
  (handover.enqueue item).dequeue

/-- The only item that is held goes out. -/
theorem release (handover : Handover entered queue sent held) (holds : held item) {fewer : Item → Prop}
    (nothing : ∀ other, ¬fewer other) : Handover entered queue (sent ++ [item]) fewer := by
  obtain ⟨gone, within, _, next⟩ := handover
  exact ⟨gone, within, next item holds, fun other among => absurd among (nothing other)⟩

end Handover

end Foundation
