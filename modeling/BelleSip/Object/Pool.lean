import BelleSip.Foundation.Machine
import BelleSip.Utils.Links

/-
This file models the reference counts and the pools of `belle_sip_object.c` in one thread. Weak-reference notifications
and destructors are code of the application, which has the control while an object is destroyed.
-/

namespace BelleSip.Object

open Foundation

/-- This is the part of `belle_sip_object_t` that its references and its pool are about. Its `int` of references does
not wrap below 2^31 of them. -/
structure Header where
  ref : Int := 0
  initiallyUnowned : Bool := false
  pool : Option Nat := none
  poolIterator : Option Nat := none
deriving DecidableEq, Repr

/-- A function that is being executed: `belle_sip_object_delete` while notifications and destructors run, or
`belle_sip_object_pool_clean` at an element. -/
inductive Frame where
  | deleting (obj : Nat)
  | cleaning (pool : Nat) (elem : Nat)
deriving DecidableEq, Repr

/-- The objects and the list elements that were ever created, and the list of each pool. `deletions` counts the calls of
`belle_sip_object_delete`. -/
structure Memory where
  created : Nat := 0
  object : Nat → Header := fun _ => {}
  freed : Nat → Bool := fun _ => false
  deletions : Nat → Nat := fun _ => 0
  allocated : Nat := 0
  live : Nat → Bool := fun _ => false
  links : Links Nat := fun _ => {}
  data : Nat → Nat := fun _ => 0
  objects : Nat → Option Nat := fun _ => none
  frames : List Frame := []

namespace Memory

variable (memory : Memory)

/-- An access to an object that was freed counts as one through a null pointer. -/
def access (obj : Nat) : Checked Unit := if memory.freed obj then .error .nullPointer else .ok ()

def setFrames (frames : List Frame) : Memory := { memory with frames }

def setObject (obj : Nat) (header : Header) : Memory :=
  { memory with object := Function.update memory.object obj header }

/-- This is `belle_sip_object_pool_add`. -/
def poolAdd (pool obj : Nat) : Checked Memory :=
  if (memory.object obj).pool ≠ none then .error .fatal
  else do
    let prepended ← Links.prepend memory.live memory.links (memory.objects pool) memory.allocated
    let added := memory.setObject obj
      { memory.object obj with pool := some pool, poolIterator := some memory.allocated }
    return { added with
      allocated := memory.allocated + 1
      live := Function.update memory.live memory.allocated true
      links := prepended.1
      data := Function.update memory.data memory.allocated obj
      objects := Function.update memory.objects pool prepended.2 }

/-- This is `belle_sip_object_pool_remove`. -/
def poolRemove (pool obj : Nat) : Checked Memory :=
  if (memory.object obj).pool ≠ some pool then .error .fatal
  else do
    let elem ← Checked.deref (memory.object obj).poolIterator
    let removed ← Links.removeLink memory.live memory.links (memory.objects pool) elem
    let cleared := memory.setObject obj { memory.object obj with pool := none, poolIterator := none }
    return { cleared with
      live := Function.update memory.live elem false
      links := removed.1
      objects := Function.update memory.objects pool removed.2 }

/-- This is `_belle_sip_object_new`, with the current pool of the thread. -/
def objectNew (initiallyUnowned : Bool) (current : Option Nat) : Checked Memory :=
  let header : Header := { ref := if initiallyUnowned then 0 else 1, initiallyUnowned }
  let created := Memory.setObject { memory with created := memory.created + 1 } memory.created header
  if header.ref = 0 then
    match current with
    | some pool => created.poolAdd pool memory.created
    | none => .ok created
  else .ok created

/-- This is `belle_sip_object_clone`; the functions that copy the members of the object have been executed before. -/
def clone (obj : Nat) (current : Option Nat) : Checked Memory := do
  memory.access obj
  memory.objectNew (memory.object obj).initiallyUnowned current

/-- This is `belle_sip_object_ref`. -/
def ref (obj : Nat) : Checked Memory := do
  memory.access obj
  let o := memory.object obj
  let removed ← match if o.ref = 0 then o.pool else none with
    | some pool => memory.poolRemove pool obj
    | none => pure memory
  return removed.setObject obj { removed.object obj with ref := (removed.object obj).ref + 1 }

/-- This is `belle_sip_object_delete` until the application gets the control. -/
def delete (obj : Nat) : Memory :=
  let dying := memory.setObject obj { memory.object obj with ref := -1 }
  { dying with
    deletions := Function.update memory.deletions obj (memory.deletions obj + 1)
    frames := .deleting obj :: memory.frames }

/-- This is `belle_sip_object_unref`. -/
def unref (obj : Nat) : Checked Memory := do
  memory.access obj
  let o := memory.object obj
  if o.ref = -1 then .error .fatal
  else match if o.ref = 0 then o.pool else none with
    | some pool => do
        let removed ← memory.poolRemove pool obj
        return removed.delete obj
    | none =>
        let dropped := memory.setObject obj { o with ref := o.ref - 1 }
        if o.ref - 1 = 0 then return dropped.delete obj else return dropped

/-- The loop of `belle_sip_object_pool_clean` turns to an element, or it ends. -/
def visit (pool : Nat) (elem : Option Nat) : Checked Memory :=
  match elem with
  | none => .ok { memory with objects := Function.update memory.objects pool none }
  | some elem => do
      Links.access memory.live elem
      memory.access (memory.data elem)
      if (memory.object (memory.data elem)).ref = 0 then
        return (memory.setFrames (.cleaning pool elem :: memory.frames)).delete (memory.data elem)
      else .error .fatal

/-- This is `belle_sip_object_pool_clean`, for a pool of this thread. -/
def poolClean (pool : Nat) : Checked Memory := memory.visit pool (memory.objects pool)

/-- The functions that are being executed go on: the last destructor of an object returns, or the loop turns to its next
element. -/
def proceed : Checked Memory :=
  match memory.frames with
  | [] => .ok memory
  | .deleting obj :: frames => do
      memory.access obj
      return { memory with freed := Function.update memory.freed obj true, frames }
  | .cleaning pool elem :: frames => do
      Links.access memory.live elem
      let next := (memory.links elem).next
      Memory.visit { memory with live := Function.update memory.live elem false, frames } pool next

/-- The application has the control. -/
def inApplication : Bool :=
  match memory.frames with
  | .cleaning .. :: _ => false
  | _ => true

/-- The object may be used. -/
def usable (obj : Nat) : Bool := obj < memory.created && !memory.freed obj

/-- The pool is being cleaned. -/
def isCleaned (pool : Nat) : Bool :=
  memory.frames.any fun frame =>
    match frame with
    | .cleaning other _ => other = pool
    | .deleting _ => false

end Memory

/-- What the application does where it has the control, and the return to the functions of objects. -/
inductive Event where
  | new (initiallyUnowned : Bool) (current : Option Nat)
  | clone (obj : Nat) (current : Option Nat)
  | ref (obj : Nat)
  | unref (obj : Nat)
  | poolClean (pool : Nat)
  | proceed
deriving DecidableEq, Repr

/-- The application uses objects that were not freed, and its destructors do not clean the pool that destroys them. -/
def Memory.act (memory : Memory) : Event → Checked Memory
  | .new initiallyUnowned current => memory.objectNew initiallyUnowned current
  | .clone obj current => if memory.usable obj then memory.clone obj current else .ok memory
  | .ref obj => if memory.usable obj then memory.ref obj else .ok memory
  | .unref obj => if memory.usable obj then memory.unref obj else .ok memory
  | .poolClean pool => if memory.isCleaned pool then .ok memory else memory.poolClean pool
  | .proceed => memory.proceed

def step (memory : Checked Memory) (event : Event) : Checked Memory := do
  let memory ← memory
  if memory.inApplication || event = .proceed then memory.act event else return memory

end BelleSip.Object
