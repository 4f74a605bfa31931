import BelleSip.Foundation.Machine

/-
This file develops endless runs of deterministic machines, and queues whose first item is taken again and again.
-/

namespace Foundation

variable {State Input Item : Type*}

/-- The states of an endless run. -/
def Machine.trace (step : State → Input → State) (state : State) (inputs : Nat → Input) : Nat → State
  | 0 => state
  | time + 1 => step (Machine.trace step state inputs time) (inputs time)

/-- An invariant kept by every guarded step holds throughout an endless run. -/
theorem Machine.trace_invariant {step : State → Input → State} {guard : State → Input → Prop}
    {invariant : State → Prop}
    (preserved : ∀ state input, invariant state → guard state input → invariant (step state input))
    {state : State} (initial : invariant state) {inputs : Nat → Input}
    (guarded : ∀ time, guard (Machine.trace step state inputs time) (inputs time)) (time : Nat) :
    invariant (Machine.trace step state inputs time) := by
  induction time with
  | zero => exact initial
  | succ time ih => exact preserved _ _ ih (guarded time)

/-- A run that has come to rest stays there. -/
theorem Machine.trace_rest {step : State → Input → State} {state rest : State} {inputs : Nat → Input} {start : Nat}
    (reached : Machine.trace step state inputs start = rest)
    (stays : ∀ time, start ≤ time → step rest (inputs time) = rest) {time : Nat} (later : start ≤ time) :
    Machine.trace step state inputs time = rest := by
  induction later with
  | refl => exact reached
  | @step time later ih => exact (congrArg (step · (inputs time)) ih).trans (stays time later)

/-- New items come to the end of a queue, and its first item is taken again and again while it has one, until all is
over. -/
structure Turns (queue : Nat → List Item) (closes : Nat → Prop) (takes : Nat → Item → Prop) : Prop where
  first : ∀ {time item}, takes time item → queue time = item :: queue (time + 1)
  moves : ∀ time, closes (time + 1) ∨ (∃ item, takes time item) ∨ ∃ more, queue (time + 1) = queue time ++ more
  progress : ∀ time, queue time ≠ [] →
    ∃ later ≥ time, closes later ∨ queue later = [] ∨ ∃ item, takes later item

namespace Turns

variable {queue : Nat → List Item} {closes : Nat → Prop} {takes : Nat → Item → Prop}

/-- The next item is taken before any other has left. -/
theorem next (turns : Turns queue closes takes) {time : Nat} (waits : queue time ≠ []) :
    ∃ later ≥ time, closes later ∨ (∃ more, queue later = queue time ++ more) ∧ ∃ item, takes later item := by
  by_contra never
  push Not at never
  have keeps : ∀ later ≥ time, ∃ more, queue later = queue time ++ more := by
    intro later reached
    induction reached with
    | refl => exact ⟨[], (List.append_nil _).symm⟩
    | @step later reached ih =>
        obtain ⟨more, same⟩ := ih
        rcases turns.moves later with ended | ⟨item, taken⟩ | ⟨new, added⟩
        · exact absurd ended (never (later + 1) (Nat.le_succ_of_le reached)).1
        · exact absurd taken ((never later reached).2 ⟨more, same⟩ item)
        · exact ⟨more ++ new, by rw [added, same, List.append_assoc]⟩
  obtain ⟨later, reached, outcome⟩ := turns.progress time waits
  obtain ⟨more, same⟩ := keeps later reached
  rcases outcome with ended | empty | ⟨item, taken⟩
  · exact (never later reached).1 ended
  · rw [same] at empty
    exact waits (List.append_eq_nil_iff.mp empty).1
  · exact (never later reached).2 ⟨more, same⟩ item taken

/-- Each item of the queue is taken, or all is over before. -/
theorem taken (turns : Turns queue closes takes) {time : Nat} {item : Item} (waits : item ∈ queue time) :
    ∃ later ≥ time, closes later ∨ takes later item := by
  obtain ⟨front, back, split⟩ := List.append_of_mem waits
  clear waits
  induction front generalizing time back with
  | nil =>
      obtain ⟨later, reached, outcome⟩ := turns.next (by rw [split]; exact List.cons_ne_nil _ _)
      refine ⟨later, reached, ?_⟩
      rcases outcome with ended | ⟨⟨more, same⟩, other, served⟩
      · exact Or.inl ended
      · have here := turns.first served
        rw [same, split] at here
        obtain ⟨rfl, _⟩ := List.cons.inj here
        exact Or.inr served
  | cons before front ih =>
      obtain ⟨later, reached, outcome⟩ := turns.next (by rw [split]; exact List.cons_ne_nil _ _)
      rcases outcome with ended | ⟨⟨more, same⟩, other, served⟩
      · exact ⟨later, reached, Or.inl ended⟩
      · have here := turns.first served
        rw [same, split] at here
        obtain ⟨_, left⟩ := List.cons.inj here
        have behind : queue (later + 1) = front ++ item :: (back ++ more) := by
          rw [← left]
          simp
        obtain ⟨last, after, outcome⟩ := ih (back ++ more) behind
        exact ⟨last, Nat.le_trans reached (Nat.le_trans (Nat.le_succ later) after), outcome⟩

end Turns

end Foundation
