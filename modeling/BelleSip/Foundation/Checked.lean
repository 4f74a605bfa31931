import Mathlib.Tactic.Common

/-
This file develops computations that stop the program when they read through a null pointer or behind the end of a text.
-/

namespace Foundation

/-- The ways in which a computation stops the program. -/
inductive Fault where
  | nullPointer
  | overread
  | fatal
deriving DecidableEq, Repr

abbrev Checked (Value : Type) := Except Fault Value

namespace Checked

variable {Value Result : Type}

/-- A pointer is read. -/
def deref : Option Value → Checked Value
  | some value => .ok value
  | none => .error .nullPointer

/-- This is `strcmp` on two pointers, as a test of equality. -/
def sameText (first second : Option String) : Checked Bool :=
  match first, second with
  | some first, some second => .ok (first = second)
  | _, _ => .error .nullPointer

@[simp] theorem deref_some (value : Value) : deref (some value) = .ok value := rfl

@[simp] theorem ok_bind (value : Value) (rest : Value → Checked Result) :
    ((.ok value : Checked Value) >>= rest) = rest value := rfl

/-- The computation returns a value with the given property. -/
def Returns (computation : Checked Value) (property : Value → Prop) : Prop :=
  ∃ value, computation = .ok value ∧ property value

variable {property : Value → Prop} {computation : Checked Value} {value : Value}

theorem returns_ok :
    Returns (.ok value) property ↔ property value := by simp [Returns]

@[simp] theorem returns_pure :
    Returns (pure value) property ↔ property value := returns_ok

/-- A sequence returns when its first part returns a value from which the rest returns. -/
@[simp] theorem returns_bind {rest : Value → Checked Result} {property : Result → Prop} :
    Returns (computation >>= rest) property ↔
      Returns computation fun value => Returns (rest value) property := by
  cases computation with
  | ok value =>
      change Returns (rest value) property ↔ _
      rw [returns_ok]
  | error fault =>
      constructor
      · rintro ⟨value, stopped, _⟩
        cases stopped
      · rintro ⟨value, stopped, _⟩
        cases stopped

@[simp] theorem returns_deref {pointer : Option Value} :
    Returns (deref pointer) property ↔ ∃ value, pointer = some value ∧ property value := by
  cases pointer <;> simp [deref, Returns]

theorem Returns.mono {property weaker : Value → Prop} (returns : Returns computation property)
    (implies : ∀ value, property value → weaker value) :
    Returns computation weaker := by
  obtain ⟨value, ended, holds⟩ := returns
  exact ⟨value, ended, implies value holds⟩

/-- Whenever the computation returns, its value has the given property. -/
def OnReturn (computation : Checked Value) (property : Value → Prop) : Prop :=
  match computation with
  | .ok value => property value
  | .error _ => True

theorem onReturn_ok :
    OnReturn (.ok value) property ↔ property value := Iff.rfl

@[simp] theorem onReturn_error {fault : Fault} :
    OnReturn (.error fault : Checked Value) property := trivial

@[simp] theorem onReturn_pure :
    OnReturn (pure value) property ↔ property value := Iff.rfl

@[simp] theorem onReturn_bind {rest : Value → Checked Result} {property : Result → Prop} :
    OnReturn (computation >>= rest) property ↔
      OnReturn computation fun value => OnReturn (rest value) property := by
  cases computation <;> rfl

@[simp] theorem onReturn_deref {pointer : Option Value} :
    OnReturn (deref pointer) property ↔ ∀ value, pointer = some value → property value := by
  cases pointer <;> simp [deref, OnReturn]

theorem OnReturn.elim (onReturn : OnReturn computation property) (ended : computation = .ok value) :
    property value := by
  rw [ended] at onReturn
  exact onReturn

theorem OnReturn.mono {property weaker : Value → Prop} (onReturn : OnReturn computation property)
    (implies : ∀ value, property value → weaker value) :
    OnReturn computation weaker := by
  cases computation with
  | ok value => exact implies value onReturn
  | error fault => trivial

theorem OnReturn.and {first second : Value → Prop} (onReturn : OnReturn computation first)
    (also : OnReturn computation second) :
    OnReturn computation fun value => first value ∧ second value := by
  cases computation with
  | ok value => exact ⟨onReturn, also⟩
  | error fault => trivial

/-- The computation reads through no null pointer and behind no end, and whenever it returns, its value has the given
property. -/
def Safe (computation : Checked Value) (property : Value → Prop) : Prop :=
  match computation with
  | .ok value => property value
  | .error .nullPointer | .error .overread => False
  | .error .fatal => True

theorem safe_ok : Safe (.ok value) property ↔ property value :=
  Iff.rfl

@[simp] theorem safe_pure :
    Safe (pure value) property ↔ property value := Iff.rfl

@[simp] theorem safe_bind {rest : Value → Checked Result} {property : Result → Prop} :
    Safe (computation >>= rest) property ↔ Safe computation fun value => Safe (rest value) property := by
  cases computation with
  | ok value => rfl
  | error fault => cases fault <;> rfl

theorem safe_sameText {first second : String} {property : Bool → Prop} :
    Safe (sameText (some first) (some second)) property ↔ property (first = second) := Iff.rfl

theorem Safe.mono {property weaker : Value → Prop} (safe : Safe computation property)
    (implies : ∀ value, property value → weaker value) :
    Safe computation weaker := by
  cases computation with
  | ok value => exact implies value safe
  | error fault =>
      cases fault with
      | nullPointer | overread => exact safe.elim
      | fatal => trivial

theorem Safe.elim (safe : Safe computation property) (ended : computation = .ok value) : property value := by
  rw [ended] at safe
  exact safe

end Checked

end Foundation
