import Mathlib.Data.List.Basic
import Mathlib.Tactic.Common

/-
This file develops runs of deterministic machines over arbitrary states and inputs.
-/

namespace Foundation.Machine

variable {State Input : Type*} (step : State → Input → State)

/-- A run applies the step to each input in order. -/
def run (state : State) (inputs : List Input) : State := inputs.foldl step state

@[simp] theorem run_nil (state : State) : run step state [] = state := rfl

@[simp] theorem run_cons (state : State) (input : Input) (rest : List Input) :
    run step state (input :: rest) = run step (step state input) rest := rfl

theorem run_append (state : State) (first second : List Input) :
    run step state (first ++ second) = run step (run step state first) second :=
  List.foldl_append

/-- The guard holds at every step of the run, at the state before that step. -/
def Along (guard : State → Input → Prop) : State → List Input → Prop
  | _, [] => True
  | state, input :: rest => guard state input ∧ Along guard (step state input) rest

instance Along.decidable (guard : State → Input → Prop) [∀ state input, Decidable (guard state input)] :
    ∀ (state : State) (inputs : List Input), Decidable (Along step guard state inputs)
  | _, [] => inferInstanceAs (Decidable True)
  | state, input :: rest =>
      have := Along.decidable guard (step state input) rest
      inferInstanceAs (Decidable (_ ∧ _))

variable {step}

@[simp] theorem along_nil {guard : State → Input → Prop} {state : State} :
    Along step guard state [] := trivial

@[simp] theorem along_cons {guard : State → Input → Prop} {state : State} {input : Input}
    {rest : List Input} :
    Along step guard state (input :: rest) ↔
      guard state input ∧ Along step guard (step state input) rest := Iff.rfl

/-- A guarded run splits at any point. -/
theorem along_append {guard : State → Input → Prop} {state : State} {first second : List Input} :
    Along step guard state (first ++ second) ↔
      Along step guard state first ∧ Along step guard (run step state first) second := by
  induction first generalizing state with
  | nil => simp
  | cons input rest ih => simp [ih, and_assoc]

/-- What all inputs satisfy may be added to the guard. -/
theorem Along.among {guard : State → Input → Prop} {allowed : Input → Prop} {state : State} {inputs : List Input}
    (along : Along step guard state inputs) (all : ∀ input ∈ inputs, allowed input) :
    Along step (fun state input => guard state input ∧ allowed input) state inputs := by
  induction inputs generalizing state with
  | nil => trivial
  | cons input rest ih =>
      have others := ih along.2 fun input among => all input (List.mem_cons_of_mem _ among)
      exact ⟨⟨along.1, all input List.mem_cons_self⟩, others⟩

/-- An invariant kept by every guarded step holds at the end of every guarded run. -/
theorem run_invariant {guard : State → Input → Prop} {invariant : State → Prop}
    (preserved : ∀ state input, invariant state → guard state input → invariant (step state input))
    {state : State} (initial : invariant state) {inputs : List Input}
    (along : Along step guard state inputs) : invariant (run step state inputs) := by
  induction inputs generalizing state with
  | nil => exact initial
  | cons input rest ih => exact ih (preserved state input initial along.1) along.2

/-- Where an invariant is kept by every guarded step, what a guarded step does from it holds along the run. -/
theorem Along.entails {guard conclusion : State → Input → Prop} {invariant : State → Prop}
    (preserved : ∀ state input, invariant state → guard state input → invariant (step state input))
    (entails : ∀ state input, invariant state → guard state input → conclusion state input)
    {state : State} (initial : invariant state) {inputs : List Input} (along : Along step guard state inputs) :
    Along step conclusion state inputs := by
  induction inputs generalizing state with
  | nil => trivial
  | cons input rest ih =>
      exact ⟨entails state input initial along.1, ih (preserved state input initial along.1) along.2⟩

/-- An invariant kept by every step holds at the end of every run. -/
theorem run_preserves {invariant : State → Prop}
    (preserved : ∀ state input, invariant state → invariant (step state input))
    {state : State} (initial : invariant state) (inputs : List Input) :
    invariant (run step state inputs) := by
  induction inputs generalizing state with
  | nil => exact initial
  | cons input rest ih => exact ih (preserved state input initial)

/-- A relation to the first state that every guarded step keeps holds at the end of the run. -/
theorem run_related {guard : State → Input → Prop} {invariant : State → Prop}
    {related : State → State → Prop} (reflexive : ∀ state, related state state)
    (transitive : ∀ first second third, related first second → related second third →
      related first third)
    (preserved : ∀ state input, invariant state → guard state input → invariant (step state input))
    (advances : ∀ state input, invariant state → guard state input → related state (step state input))
    {state : State} (initial : invariant state) {inputs : List Input}
    (along : Along step guard state inputs) : related state (run step state inputs) := by
  induction inputs generalizing state with
  | nil => exact reflexive state
  | cons input rest ih =>
      exact transitive _ _ _ (advances state input initial along.1)
        (ih (preserved state input initial along.1) along.2)

end Foundation.Machine
