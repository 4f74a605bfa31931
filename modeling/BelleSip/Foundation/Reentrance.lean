import BelleSip.Foundation.Checked
import BelleSip.Foundation.Machine

/-
This file develops programs that call outside code, which may call them again before it returns.
-/

namespace Foundation.Reentrance

open Foundation.Checked (OnReturn)

/-- What is on the stack: outside code that has not returned yet, or work that the program has still to do. -/
inductive Frame (Task : Type) where
  | outside
  | task (task : Task)
deriving DecidableEq, Repr

structure Config (State Task : Type) where
  state : State
  stack : List (Frame Task) := []
deriving DecidableEq, Repr

/-- A task changes the state and leaves more work. Outside code enters by a call, the surroundings by an event. -/
structure Program (State Task Call Event : Type) where
  perform : Task → State → Checked (State × List (Frame Task))
  enter : Call → Task
  begin : Event → Task

/-- The program does the first task of the stack, the outside code returns or makes a call, or an event begins. -/
inductive Input (Call Event : Type) where
  | tick
  | back
  | call (call : Call)
  | event (event : Event)
deriving DecidableEq, Repr

variable {State Task Call Event : Type}

/-- Outside code runs: the program has nothing to do, or waits for outside code to return. -/
def Config.Waits (config : Config State Task) : Prop := config.stack.head?.all (· matches .outside)

instance (config : Config State Task) : Decidable config.Waits := inferInstanceAs (Decidable (_ = true))

namespace Program

variable (program : Program State Task Call Event)

/-- The first task of the stack is done. A program that a fault has stopped does nothing any more. -/
def tick (config : Config State Task) : Config State Task :=
  match config.stack with
  | .task task :: rest =>
      match program.perform task config.state with
      | .ok (state, frames) => ⟨state, frames ++ rest⟩
      | .error _ => config
  | _ => config

def back (config : Config State Task) : Config State Task :=
  match config.stack with
  | .outside :: rest => { config with stack := rest }
  | _ => config

/-- A call can be made while outside code runs, and an event begins only when nothing is pending. -/
def step (config : Config State Task) : Input Call Event → Config State Task
  | .tick => program.tick config
  | .back => back config
  | .call call =>
      if config.Waits then { config with stack := .task (program.enter call) :: config.stack } else config
  | .event event => if config.stack.isEmpty then { config with stack := [.task (program.begin event)] } else config

/-- The condition holds of the task that is done, in the state and on the stack before it. -/
def Guarded (guard : State → Task → List (Frame Task) → Prop) (config : Config State Task) :
    Input Call Event → Prop
  | .tick =>
      match config.stack with
      | .task task :: rest => guard config.state task rest
      | _ => True
  | _ => True

instance (guard : State → Task → List (Frame Task) → Prop)
    [∀ state task rest, Decidable (guard state task rest)] (config : Config State Task)
    (input : Input Call Event) : Decidable (Guarded guard config input) :=
  match input, config with
  | .tick, ⟨state, .task task :: rest⟩ => inferInstanceAs (Decidable (guard state task rest))
  | .tick, ⟨_, []⟩ => inferInstanceAs (Decidable True)
  | .tick, ⟨_, .outside :: _⟩ => inferInstanceAs (Decidable True)
  | .back, _ => inferInstanceAs (Decidable True)
  | .call _, _ => inferInstanceAs (Decidable True)
  | .event _, _ => inferInstanceAs (Decidable True)

variable {program}

theorem tick_ok {state after : State} {task : Task} {rest frames : List (Frame Task)}
    (ended : program.perform task state = .ok (after, frames)) :
    program.tick ⟨state, .task task :: rest⟩ = ⟨after, frames ++ rest⟩ := by
  simp only [tick, ended]

theorem tick_error {state : State} {task : Task} {rest : List (Frame Task)} {fault : Fault}
    (stopped : program.perform task state = .error fault) :
    program.tick ⟨state, .task task :: rest⟩ = ⟨state, .task task :: rest⟩ := by
  simp only [tick, stopped]

/-- What has to be shown of an invariant of the state and of the stack: each task keeps it, and it survives that outside
code returns or makes a call, and that the first call is made or an event begins. -/
structure Keeps (program : Program State Task Call Event) (guard : State → Task → List (Frame Task) → Prop)
    (invariant : State → List (Frame Task) → Prop) : Prop where
  done : ∀ state task rest, invariant state (.task task :: rest) → guard state task rest →
    OnReturn (program.perform task state) fun (after, frames) => invariant after (frames ++ rest)
  returned : ∀ state rest, invariant state (.outside :: rest) → invariant state rest
  called : ∀ state call rest, invariant state (.outside :: rest) →
    invariant state (.task (program.enter call) :: .outside :: rest)
  entered : ∀ state call, invariant state [] → invariant state [.task (program.enter call)]
  began : ∀ state event, invariant state [] → invariant state [.task (program.begin event)]

namespace Keeps

variable {guard : State → Task → List (Frame Task) → Prop} {invariant : State → List (Frame Task) → Prop}

theorem step (keeps : program.Keeps guard invariant) (config : Config State Task) (input : Input Call Event)
    (holds : invariant config.state config.stack) (guarded : Guarded guard config input) :
    invariant (program.step config input).state (program.step config input).stack := by
  rcases config with ⟨state, stack⟩
  cases input with
  | tick =>
      match stack, holds, guarded with
      | [], holds, _ => exact holds
      | .outside :: _, holds, _ => exact holds
      | .task task :: rest, holds, guarded =>
          have kept := keeps.done state task rest holds guarded
          change invariant (program.tick ⟨state, .task task :: rest⟩).state
            (program.tick ⟨state, .task task :: rest⟩).stack
          cases ended : program.perform task state with
          | error fault =>
              rw [tick_error ended]
              exact holds
          | ok result =>
              rw [tick_ok ended]
              exact kept.elim ended
  | back =>
      match stack, holds with
      | [], holds => exact holds
      | .task _ :: _, holds => exact holds
      | .outside :: rest, holds => exact keeps.returned state rest holds
  | call call =>
      match stack, holds with
      | [], holds => exact keeps.entered state call holds
      | .task _ :: _, holds => exact holds
      | .outside :: rest, holds => exact keeps.called state call rest holds
  | event event =>
      match stack, holds with
      | [], holds => exact keeps.began state event holds
      | .task _ :: _, holds => exact holds
      | .outside :: _, holds => exact holds

/-- An invariant that is kept so holds at the end of every guarded run. -/
theorem run (keeps : program.Keeps guard invariant) {config : Config State Task}
    (initial : invariant config.state config.stack) {inputs : List (Input Call Event)}
    (along : Machine.Along program.step (Guarded guard) config inputs) :
    invariant (Machine.run program.step config inputs).state (Machine.run program.step config inputs).stack := by
  have kept : ∀ config input, (fun config : Config State Task => invariant config.state config.stack) config →
      Guarded guard config input → invariant (program.step config input).state (program.step config input).stack :=
    keeps.step
  exact Machine.run_invariant kept initial along

end Keeps

end Program

end Foundation.Reentrance
