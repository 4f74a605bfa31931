import BelleSip.Foundation.Text
import Mathlib.Data.List.Nodup

/-
This file defines the parameter lists of headers, with the look-up and the update by name.
-/

namespace BelleSip

/-- This is `belle_sip_parameters_t`; `belle_sip_parameters_set_parameter` keeps the names distinct. -/
structure Parameters where
  pairs : List (String × Option String)
  distinct : (pairs.map Prod.fst).Nodup
deriving DecidableEq, Repr

namespace Parameters

def empty : Parameters := ⟨[], List.nodup_nil⟩

/-- This is `belle_sip_list_find_custom` with `belle_sip_param_pair_comp_func`. -/
def find (parameters : Parameters) (name : String) : Option (String × Option String) :=
  parameters.pairs.find? fun pair => pair.1 = name

/-- This is `belle_sip_parameters_get_parameter`: null when the parameter is absent or has no value. -/
def getParameter (parameters : Parameters) (name : String) : Option String :=
  (parameters.find name).bind Prod.snd

/-- This is `belle_sip_parameters_has_parameter`. -/
def hasParameter (parameters : Parameters) (name : String) : Bool := (parameters.find name).isSome

/-- The list without the parameter that has the name. -/
def without (pairs : List (String × Option String)) (name : String) : List (String × Option String) :=
  pairs.eraseP fun pair => pair.1 = name

theorem without_sublist (pairs : List (String × Option String)) (name : String) :
    (without pairs name).Sublist pairs := List.eraseP_sublist

theorem name_not_mem_without {pairs : List (String × Option String)} (name : String)
    (distinct : (pairs.map Prod.fst).Nodup) : name ∉ (without pairs name).map Prod.fst := by
  induction pairs with
  | nil => simp [without]
  | cons pair rest ih =>
      rw [List.map_cons, List.nodup_cons] at distinct
      by_cases same : pair.1 = name
      · rw [without, List.eraseP_cons_of_pos (by simpa using same)]
        rw [same] at distinct
        exact distinct.1
      · rw [without, List.eraseP_cons_of_neg (by simpa using same), List.map_cons, List.mem_cons]
        rintro (first | later)
        · exact same first.symm
        · exact ih distinct.2 later

/-- This is `belle_sip_parameters_set_parameter`. -/
def setParameter (parameters : Parameters) (name : String) (value : Option String) : Parameters where
  pairs := without parameters.pairs name ++ [(name, value)]
  distinct := by
    rw [List.map_append, List.nodup_append]
    refine ⟨parameters.distinct.sublist ((without_sublist _ _).map _), by simp, ?_⟩
    intro first among second last same
    rw [List.mem_singleton.mp last] at same
    rw [same] at among
    exact name_not_mem_without name parameters.distinct among

theorem find_without (parameters : Parameters) (name : String) :
    (without parameters.pairs name).find? (fun pair => pair.1 = name) = none := by
  apply List.find?_eq_none.mpr
  intro pair among same
  have named : pair.1 = name := by simpa using same
  have listed := List.mem_map_of_mem (f := Prod.fst) among
  rw [named] at listed
  exact name_not_mem_without name parameters.distinct listed

theorem find_setParameter (parameters : Parameters) (name : String) (value : Option String) :
    (parameters.setParameter name value).find name = some (name, value) := by
  rw [find, setParameter, List.find?_append, find_without]
  simp

@[simp] theorem getParameter_setParameter (parameters : Parameters) (name : String) (value : Option String) :
    (parameters.setParameter name value).getParameter name = value := by
  rw [getParameter, find_setParameter]
  rfl

/-- This is `belle_sip_parameters_remove_parameter`. -/
def removeParameter (parameters : Parameters) (name : String) : Parameters where
  pairs := without parameters.pairs name
  distinct := parameters.distinct.sublist ((without_sublist _ _).map _)

@[simp] theorem getParameter_removeParameter (parameters : Parameters) (name : String) :
    (parameters.removeParameter name).getParameter name = none := by
  rw [getParameter, find, removeParameter, find_without]
  rfl

/-- An integer parameter of a header is −1 when it is absent or has no value. -/
def getInt (parameters : Parameters) (name : String) : Int :=
  match parameters.getParameter name with
  | none => -1
  | some value => Foundation.Text.atoi value

theorem getInt_of_absent {parameters : Parameters} {name : String}
    (absent : parameters.hasParameter name = false) : parameters.getInt name = -1 := by
  have missing : parameters.find name = none := by
    simpa [hasParameter] using absent
  rw [getInt, getParameter, missing]
  rfl

/-- A small number that was written into a parameter is read back. -/
theorem getInt_setParameter (parameters : Parameters) (name : String) {number : Nat}
    (small : number < UInt16.size) :
    (parameters.setParameter name (some number.repr)).getInt name = number := by
  rw [getInt, getParameter_setParameter]
  apply Foundation.Text.atoi_repr
  exact Nat.lt_trans small (by decide)

end Parameters

end BelleSip
