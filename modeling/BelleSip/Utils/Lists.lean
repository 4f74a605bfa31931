import BelleSip.Utils.Links
import Mathlib.Data.List.Perm.Basic
import Mathlib.Data.List.Sort
import Mathlib.Data.List.TakeWhile

/-
This file models the lists of `belle_sip_utils.c` in a memory whose elements are allocated and freed, and proves what
each function makes of the items of a list, while it leaves the elements of other lists alone.
-/

namespace BelleSip

open Foundation

/-- The elements of all lists, with their data and their pointers. -/
structure ListHeap (Data : Type) where
  links : Links Nat
  data : Nat → Data
  live : List Nat

namespace ListHeap

variable {Data : Type} (malloc : List Nat → Nat) (heap : ListHeap Data)

def isLive (elem : Nat) : Bool := elem ∈ heap.live

/-- A walk visits each element at most once, so that it takes no more steps than there are elements. -/
def bound : Nat := heap.live.length

/-- This is `belle_sip_free` of an element. -/
def release (elem : Nat) : ListHeap Data := { heap with live := heap.live.erase elem }

/-- This is `belle_sip_list_new`. -/
def create (data : Data) : ListHeap Data × Nat :=
  let elem := malloc heap.live
  ({ links := Function.update heap.links elem {}
     data := Function.update heap.data elem data
     live := elem :: heap.live }, elem)

/-- This is `belle_sip_list_append`. -/
def append (list : Option Nat) (data : Data) : Checked (ListHeap Data × Option Nat) := do
  let (heap, elem) := heap.create malloc data
  let (links, list) ← Links.appendLink heap.isLive heap.links heap.bound list elem
  return ({ heap with links }, list)

/-- This is `belle_sip_list_prepend`. -/
def prepend (list : Option Nat) (data : Data) : Checked (ListHeap Data × Option Nat) := do
  let (heap, elem) := heap.create malloc data
  let (links, list) ← Links.prepend heap.isLive heap.links list elem
  return ({ heap with links }, list)

/-- This is `belle_sip_list_concat`. -/
def concat (first second : Option Nat) : Checked (ListHeap Data × Option Nat) :=
  match first, second with
  | none, second => .ok (heap, second)
  | first, none => .ok (heap, first)
  | first, some second => do
      let (links, list) ← Links.appendLink heap.isLive heap.links heap.bound first second
      return ({ heap with links }, list)

/--
This is the loop of `belle_sip_list_free` and `belle_sip_list_free_with_data`. It returns the data of the elements that
it frees, in this order.
-/
def freeElems : Nat → Option Nat → ListHeap Data → Checked (ListHeap Data × List Data)
  | _, none, heap => .ok (heap, [])
  | 0, some _, _ => .error .nullPointer
  | bound + 1, some elem, heap => do
      Links.access heap.isLive elem
      let (after, freed) ← freeElems bound (heap.links elem).next (heap.release elem)
      return (after, heap.data elem :: freed)

/-- This is `belle_sip_list_free`. -/
def free (list : Option Nat) : Checked (ListHeap Data × Option Nat) := do
  let (heap, _) ← freeElems heap.bound list heap
  return (heap, none)

/-- This is `belle_sip_list_free_with_data`, with the data that `freefunc` gets. -/
def freeWithData (list : Option Nat) : Checked (ListHeap Data × Option Nat × List Data) := do
  let (heap, freed) ← freeElems heap.bound list heap
  return (heap, none, freed)

/-- This is `belle_sip_list_delete_link`. -/
def deleteLink (list : Option Nat) (elem : Nat) : Checked (ListHeap Data × Option Nat) := do
  let (links, list) ← Links.removeLink heap.isLive heap.links list elem
  return ({ heap with links }.release elem, list)

/-- This is `belle_sip_list_delete_custom`. -/
def deleteCustom (list : Option Nat) (test : Data → Bool) : Checked (ListHeap Data × Option Nat) := do
  let found ← Links.find heap.isLive heap.links (fun elem => .ok (test (heap.data elem))) heap.bound list
  match found with
  | some elem => heap.deleteLink list elem
  | none => return (heap, list)

/-- This is `belle_sip_list_remove`, which compares the pointers to the data. -/
def remove [DecidableEq Data] (list : Option Nat) (data : Data) : Checked (ListHeap Data × Option Nat) := do
  let found ← Links.find heap.isLive heap.links (fun elem => .ok (heap.data elem = data)) heap.bound list
  match found with
  | some elem => heap.deleteLink list elem
  | none => return (heap, list)

/-- This is `belle_sip_list_pop_front`. -/
def popFront (list : Option Nat) : Checked (ListHeap Data × Option Nat × Option Data) :=
  match list with
  | none => .ok (heap, none, none)
  | some front => do
      Links.access heap.isLive front
      let data := heap.data front
      let (heap, list) ← heap.deleteLink list front
      return (heap, list, some data)

/-- The new element points to its neighbours. -/
def between (links : Links Nat) (prev : Option Nat) (it newElem : Nat) : Links Nat :=
  Function.update links newElem { prev := prev, next := some it }

/-- The new element is linked before another one; `ret` is the list when there is none before that one. -/
def linkBefore (links : Links Nat) (list ret : Option Nat) (it newElem : Nat) : Checked (Links Nat × Option Nat) := do
  let prev := (links it).prev
  let linked := between links prev it newElem
  match prev with
  | some prev => do
      Links.access heap.isLive prev
      return ((linked.setNext prev (some newElem)).setPrev it (some newElem), list)
  | none => return (linked.setPrev it (some newElem), ret)

/-- This is the loop of `belle_sip_list_insert_sorted`. -/
def place (compare : Data → Data → Int) (list : Option Nat) (newElem : Nat) :
    Nat → Option Nat → Option Nat → Checked (Links Nat × Option Nat)
  | _, none, previt => do
      let last ← Checked.deref previt
      Links.access heap.isLive last
      return ((heap.links.setNext last (some newElem)).setPrev newElem (some last), list)
  | 0, some _, _ => .error .nullPointer
  | bound + 1, some it, _ => do
      Links.access heap.isLive it
      if compare (heap.data newElem) (heap.data it) ≤ 0 then heap.linkBefore heap.links list (some newElem) it newElem
      else place compare list newElem bound (heap.links it).next (some it)

/-- This is `belle_sip_list_insert_sorted`. -/
def insertSorted (list : Option Nat) (data : Data) (compare : Data → Data → Int) :
    Checked (ListHeap Data × Option Nat) :=
  match list with
  | none => heap.append malloc none data
  | some first => do
      let (heap, elem) := heap.create malloc data
      let (links, list) ← heap.place compare (some first) elem heap.bound (some first) none
      return ({ heap with links }, list)

/-- This is the loop of `belle_sip_list_insert`. It goes on behind the element that it has found. -/
def insertAt (before : Nat) (data : Data) (list : Option Nat) :
    Nat → Option Nat → ListHeap Data → Checked (ListHeap Data × Option Nat)
  | _, none, heap => .ok (heap, list)
  | 0, some _, _ => .error .nullPointer
  | bound + 1, some elem, heap => do
      Links.access heap.isLive elem
      if elem = before then
        if (heap.links elem).prev = none then heap.prepend malloc list data
        else
          let (heap, newElem) := heap.create malloc data
          let (links, _) ← heap.linkBefore heap.links list list elem newElem
          insertAt before data list bound (links elem).next { heap with links }
      else insertAt before data list bound (heap.links elem).next heap

/-- This is `belle_sip_list_insert`. -/
def insert (list before : Option Nat) (data : Data) : Checked (ListHeap Data × Option Nat) :=
  match list, before with
  | some first, some before => insertAt malloc before data (some first) heap.bound (some first) heap
  | _, _ => heap.append malloc list data

/-- A caller inserts data before the element that `belle_sip_list_find_custom` finds. -/
def insertFound (list : Option Nat) (test : Data → Bool) (data : Data) : Checked (ListHeap Data × Option Nat) := do
  let found ← Links.find heap.isLive heap.links (fun elem => .ok (test (heap.data elem))) heap.bound list
  heap.insert malloc list found data

/-- This is the loop of `belle_sip_list_copy` and `belle_sip_list_copy_with_data`. -/
def copyFrom (copyfunc : Data → Data) :
    Nat → Option Nat → ListHeap Data → Option Nat → Checked (ListHeap Data × Option Nat)
  | _, none, heap, copy => .ok (heap, copy)
  | 0, some _, _, _ => .error .nullPointer
  | bound + 1, some iter, heap, copy => do
      Links.access heap.isLive iter
      let (after, copy) ← heap.append malloc copy (copyfunc (heap.data iter))
      copyFrom copyfunc bound (after.links iter).next after copy

/-- This is `belle_sip_list_copy_with_data`. -/
def copyWithData (list : Option Nat) (copyfunc : Data → Data) : Checked (ListHeap Data × Option Nat) :=
  copyFrom malloc copyfunc heap.bound list heap none

/-- This is `belle_sip_list_copy`. -/
def copy (list : Option Nat) : Checked (ListHeap Data × Option Nat) := copyFrom malloc id heap.bound list heap none

/-- This is `belle_sip_list_for_each`, with the data that `func` gets. -/
def forEach (list : Option Nat) : Checked (List Data) := do
  let elems ← Links.elements heap.isLive heap.links heap.bound list
  return elems.map heap.data

/-- This is `belle_sip_list_size`. Its `int` and that of the next two functions do not wrap below 2^31 items. -/
def size : Nat → Option Nat → Checked Int
  | _, none => .ok 0
  | 0, some _ => .error .nullPointer
  | bound + 1, some elem => do
      Links.access heap.isLive elem
      let rest ← size bound (heap.links elem).next
      return rest + 1

/-- This is `belle_sip_list_nth_data` from the element with the number `i`. -/
def nthData (index : Int) : Nat → Option Nat → Int → Checked (Option Data)
  | _, none, _ => .ok none
  | 0, some _, _ => .error .nullPointer
  | bound + 1, some elem, i => do
      Links.access heap.isLive elem
      if i = index then return some (heap.data elem) else nthData index bound (heap.links elem).next (i + 1)

/-- This is `belle_sip_list_index` from the element with the number `i`. -/
def index [DecidableEq Data] (data : Data) : Nat → Option Nat → Int → Checked Int
  | _, none, _ => .ok (-1)
  | 0, some _, _ => .error .nullPointer
  | bound + 1, some elem, i => do
      Links.access heap.isLive elem
      if data = heap.data elem then return i else index data bound (heap.links elem).next (i + 1)

/-- A list has elements of its own; the elements of all other lists are given as `others`. -/
structure Has (heap : ListHeap Data) (list : Option Nat) (elems others : List Nat) : Prop where
  holds : Links.Holds heap.links list elems
  live : heap.live.Perm (elems ++ others)
  nodup : heap.live.Nodup

/-- The elements of other lists are left alone. -/
def Spares (heap after : ListHeap Data) (others : List Nat) : Prop :=
  ∀ elem ∈ others, after.links elem = heap.links elem ∧ after.data elem = heap.data elem

/-- A function makes a list of the items, and leaves the other lists alone. -/
def Makes (heap : ListHeap Data) (others : List Nat) (items : List Data)
    (result : Checked (ListHeap Data × Option Nat)) : Prop :=
  Checked.Returns result fun (after, list) =>
    ∃ elems, after.Has list elems others ∧ elems.map after.data = items ∧ heap.Spares after others

variable {malloc : List Nat → Nat} {heap after : ListHeap Data} {list : Option Nat} {elems others : List Nat}

theorem Spares.refl (heap : ListHeap Data) (others : List Nat) : heap.Spares heap others := fun _ _ => ⟨rfl, rfl⟩

theorem Spares.trans {last : ListHeap Data} (first : heap.Spares after others) (second : after.Spares last others) :
    heap.Spares last others := fun elem among =>
  ⟨(second elem among).1.trans (first elem among).1, (second elem among).2.trans (first elem among).2⟩

namespace Has

theorem alive (has : heap.Has list elems others) : ∀ elem ∈ elems ++ others, heap.isLive elem = true :=
  fun _ among => decide_eq_true (has.live.mem_iff.mpr among)

theorem members (has : heap.Has list elems others) : ∀ elem ∈ elems, heap.isLive elem = true :=
  fun elem inside => has.alive elem (List.mem_append_left _ inside)

theorem apart (has : heap.Has list elems others) : (elems ++ others).Nodup := has.live.nodup_iff.mp has.nodup

theorem length_le (has : heap.Has list elems others) : elems.length ≤ heap.bound := by
  rw [bound, has.live.length_eq, List.length_append]
  exact Nat.le_add_right _ _

/-- A list that is left alone has the same items. -/
theorem spared (has : heap.Has list elems others) {more : List Nat} (spares : heap.Spares after elems)
    (live : after.live.Perm (elems ++ more)) (nodup : after.live.Nodup) :
    after.Has list elems more ∧ elems.map after.data = elems.map heap.data :=
  ⟨⟨⟨has.holds.head, has.holds.strung.congr fun elem among => (spares elem among).1, has.holds.nodup⟩, live, nodup⟩,
    List.map_congr_left fun elem among => (spares elem among).2⟩

end Has

section Allocation

variable (fresh : ∀ live, malloc live ∉ live) (data : Data)

include fresh

/-- A new element is alive, belongs to no list, and has no neighbours. -/
theorem created (has : heap.Has list elems others) :
    (heap.create malloc data).1.Has list elems (malloc heap.live :: others) ∧
    malloc heap.live ∉ elems ++ others ∧
    (heap.create malloc data).1.links (malloc heap.live) = {} ∧
    (heap.create malloc data).1.data (malloc heap.live) = data ∧
    heap.Spares (heap.create malloc data).1 (elems ++ others) := by
  have absent : malloc heap.live ∉ elems ++ others := fun among => fresh heap.live (has.live.mem_iff.mpr among)
  have spares : heap.Spares (heap.create malloc data).1 (elems ++ others) := by
    intro elem among
    have differs : elem ≠ malloc heap.live := fun same => absent (same ▸ among)
    exact ⟨Function.update_of_ne differs _ _, Function.update_of_ne differs _ _⟩
  refine ⟨(has.spared (fun elem among => spares elem (List.mem_append_left _ among)) ?_ ?_).1, absent,
    Function.update_self .., Function.update_self .., spares⟩
  · exact (has.live.cons _).trans List.perm_middle.symm
  · exact List.nodup_cons.mpr ⟨fresh heap.live, has.nodup⟩

/-- A list that the new element has been linked into. -/
theorem linked (has : heap.Has list elems others) {links : Links Nat} {ret : Option Nat} {front back : List Nat}
    (parts : elems = front ++ back) (holds : Links.Holds links ret (front ++ malloc heap.live :: back))
    (frame : ∀ other ∉ front ++ malloc heap.live :: back, links other = (heap.create malloc data).1.links other) :
    heap.Makes others (front.map heap.data ++ data :: back.map heap.data)
      (.ok ({ (heap.create malloc data).1 with links }, ret)) := by
  obtain ⟨made, absent, -, own, spares⟩ := created fresh data has
  have among {elem : Nat} (outside : elem ∈ others) : elem ∉ front ++ malloc heap.live :: back := by
    have apart := has.apart
    rw [parts] at apart absent
    intro inside
    have disjoint := List.disjoint_of_nodup_append apart
    rcases List.mem_append.mp inside with before | behind
    · exact disjoint (List.mem_append_left _ before) outside
    · rcases List.mem_cons.mp behind with rfl | behind
      · exact absent (List.mem_append_right _ outside)
      · exact disjoint (List.mem_append_right _ behind) outside
  have same (elem : Nat) (inside : elem ∈ elems) : (heap.create malloc data).1.data elem = heap.data elem :=
    (spares elem (List.mem_append_left _ inside)).2
  refine Checked.returns_ok.mpr ⟨front ++ malloc heap.live :: back, ⟨holds, ?_, made.nodup⟩, ?_, ?_⟩
  · refine made.live.trans ?_
    rw [parts]
    simp only [List.append_assoc, List.cons_append]
    refine List.Perm.append_left front ?_
    exact List.perm_middle
  · rw [List.map_append, List.map_cons]
    have fronts : front.map (heap.create malloc data).1.data = front.map heap.data :=
      List.map_congr_left fun elem inside => same elem (parts ▸ List.mem_append_left _ inside)
    have backs : back.map (heap.create malloc data).1.data = back.map heap.data :=
      List.map_congr_left fun elem inside => same elem (parts ▸ List.mem_append_right _ inside)
    rw [fronts, backs, own]
  · intro elem outside
    have spared := spares elem (List.mem_append_right _ outside)
    exact ⟨(frame elem (among outside)).trans spared.1, spared.2⟩

theorem append_makes (has : heap.Has list elems others) :
    heap.Makes others (elems.map heap.data ++ [data]) (heap.append malloc list data) := by
  obtain ⟨made, absent, unlinked, -, -⟩ := created fresh data has
  have outside : malloc heap.live ∉ elems := fun inside => absent (List.mem_append_left _ inside)
  refine Checked.returns_bind.mpr ((Links.appendLink_returns made.holds outside unlinked
    made.members
    (made.alive _ (List.mem_append_right _ List.mem_cons_self)) made.length_le).mono ?_)
  intro (links, ret) ⟨holds, frame⟩
  have parts : elems = elems ++ [] := (List.append_nil elems).symm
  exact linked fresh data has parts holds frame

theorem prepend_makes (has : heap.Has list elems others) :
    heap.Makes others (data :: elems.map heap.data) (heap.prepend malloc list data) := by
  obtain ⟨made, absent, unlinked, -, -⟩ := created fresh data has
  have outside : malloc heap.live ∉ elems := fun inside => absent (List.mem_append_left _ inside)
  refine Checked.returns_bind.mpr ((Links.prepend_returns made.holds outside
    made.members).mono ?_)
  intro (links, ret) ⟨holds, frame⟩
  exact linked fresh data has (List.nil_append elems).symm holds frame

end Allocation

/-- An element is removed and freed. -/
theorem deleteLink_makes {front back : List Nat} {elem : Nat} (has : heap.Has list (front ++ elem :: back) others) :
    heap.Makes others (front.map heap.data ++ back.map heap.data) (heap.deleteLink list elem) := by
  have apart := has.apart
  have absent : elem ∉ front := by
    have disjoint := (List.nodup_append.mp has.holds.nodup).2.2
    exact fun inside => disjoint elem inside elem List.mem_cons_self rfl
  refine Checked.returns_bind.mpr ((Links.removeLink_returns has.holds has.members).mono ?_)
  intro (links, ret) ⟨holds, _, frame⟩
  refine Checked.returns_pure.mpr ⟨front ++ back, ⟨holds, ?_, has.nodup.erase elem⟩, List.map_append .., ?_⟩
  · have erased := has.live.erase elem
    rw [List.append_assoc, List.erase_append_right _ absent, List.cons_append, List.erase_cons_head,
      ← List.append_assoc] at erased
    exact erased
  · intro other outside
    exact ⟨frame other fun inside => List.disjoint_of_nodup_append apart inside outside, rfl⟩

theorem unchanged_makes (has : heap.Has list elems others) :
    heap.Makes others (elems.map heap.data) (.ok (heap, list)) :=
  Checked.returns_ok.mpr ⟨elems, has, rfl, Spares.refl heap others⟩

/-- The first item that passes the test is removed. -/
theorem deleteCustom_makes (has : heap.Has list elems others) (test : Data → Bool) :
    heap.Makes others ((elems.map heap.data).eraseP test) (heap.deleteCustom list test) := by
  have alive := has.members
  rw [List.eraseP_map, deleteCustom]
  by_cases passes : ∃ elem ∈ elems, (test ∘ heap.data) elem = true
  · obtain ⟨first, inside, passed⟩ := passes
    obtain ⟨elem, front, back, refused, accepted, parts, erased⟩ := List.exists_of_eraseP inside passed
    subst parts
    have refuses : ∀ other ∈ front, (.ok (test (heap.data other)) : Checked Bool) = .ok false :=
      fun other before => congrArg Except.ok (Bool.eq_false_iff.mpr (refused other before))
    have accepts : (.ok (test (heap.data elem)) : Checked Bool) = .ok true := congrArg Except.ok accepted
    rw [erased, List.map_append, Links.find_returns has.holds alive refuses accepts has.length_le]
    exact deleteLink_makes has
  · have refused : ∀ elem ∈ elems, ¬ (test ∘ heap.data) elem = true := fun elem inside passed =>
      passes ⟨elem, inside, passed⟩
    have refuses : ∀ elem ∈ elems, (.ok (test (heap.data elem)) : Checked Bool) = .ok false :=
      fun elem inside => congrArg Except.ok (Bool.eq_false_iff.mpr (refused elem inside))
    rw [List.eraseP_of_forall_not refused, Links.find_nothing has.holds alive refuses has.length_le]
    exact unchanged_makes has

theorem remove_makes [DecidableEq Data] (has : heap.Has list elems others) (data : Data) :
    heap.Makes others ((elems.map heap.data).erase data) (heap.remove list data) := by
  have same : heap.remove list data = heap.deleteCustom list fun other => other = data := rfl
  rw [same, List.erase_eq_eraseP']
  exact deleteCustom_makes has _

theorem popFront_makes (has : heap.Has list elems others) :
    Checked.Returns (heap.popFront list) fun (after, ret, front) =>
      front = (elems.map heap.data).head? ∧
      heap.Makes others (elems.map heap.data).tail (.ok (after, ret)) := by
  have head := has.holds.head
  cases elems with
  | nil =>
      rw [head]
      exact Checked.returns_ok.mpr ⟨rfl, unchanged_makes (head ▸ has)⟩
  | cons front back =>
      rw [head, List.head?_cons, popFront, Checked.returns_bind,
        Links.returns_access (has.alive front (List.mem_append_left _ List.mem_cons_self))]
      rw [head, List.head?_cons] at has
      have begins : heap.Has (some front) ([] ++ front :: back) others := has
      refine Checked.returns_bind.mpr ((deleteLink_makes begins).mono fun (after, ret) makes => ?_)
      exact Checked.returns_pure.mpr ⟨rfl, Checked.returns_ok.mpr makes⟩

/-- All elements of a list are freed. -/
theorem freeElems_returns {before : Option Nat} {bound : Nat} (strung : Links.Strung heap.links before elems none)
    (live : heap.live.Perm (elems ++ others)) (nodup : heap.live.Nodup) (enough : elems.length ≤ bound) :
    Checked.Returns (freeElems bound elems.head? heap) fun (after, freed) =>
      freed = elems.map heap.data ∧
      after.live.Perm others ∧ after.live.Nodup ∧ after.links = heap.links ∧ after.data = heap.data := by
  induction elems generalizing heap before bound with
  | nil =>
      have done : freeElems bound ([] : List Nat).head? heap = .ok (heap, []) := by cases bound <;> rfl
      rw [done]
      exact Checked.returns_ok.mpr ⟨rfl, live, nodup, rfl, rfl⟩
  | cons elem rest ih =>
      obtain ⟨bound, rfl⟩ : ∃ smaller, bound = smaller + 1 := ⟨bound - 1, by simp at enough; omega⟩
      have alive : heap.isLive elem = true := decide_eq_true (live.mem_iff.mpr List.mem_cons_self)
      have next : (heap.links elem).next = rest.head? := by rw [strung.1, Option.or_none]
      have erased : (heap.release elem).live.Perm (rest ++ others) := by
        have fewer := live.erase elem
        rw [List.cons_append, List.erase_cons_head] at fewer
        exact fewer
      rw [List.head?_cons, freeElems, Checked.returns_bind, Links.returns_access alive, next, Checked.returns_bind]
      have strung : Links.Strung (heap.release elem).links (some elem) rest none := strung.2
      refine (ih strung erased (nodup.erase elem) (by simpa using enough)).mono ?_
      intro (after, freed) ⟨given, others⟩
      exact Checked.returns_pure.mpr ⟨congrArg (heap.data elem :: ·) given, others⟩

/-- The elements that are not freed stay as they are. -/
theorem emptied (live : after.live.Perm others) (nodup : after.live.Nodup) (links : after.links = heap.links)
    (data : after.data = heap.data) : heap.Makes others [] (.ok (after, none)) :=
  Checked.returns_ok.mpr ⟨[], ⟨⟨rfl, trivial, List.nodup_nil⟩, live, nodup⟩, rfl, fun elem _ =>
    ⟨congrFun links elem, congrFun data elem⟩⟩

theorem free_makes (has : heap.Has list elems others) : heap.Makes others [] (heap.free list) := by
  rw [free, has.holds.head, Makes, Checked.returns_bind]
  refine (freeElems_returns has.holds.strung has.live has.nodup has.length_le).mono ?_
  intro (after, freed) ⟨_, live, nodup, links, data⟩
  exact emptied live nodup links data

/-- The data of each element is given to `freefunc` once, in the order of the list. -/
theorem freeWithData_makes (has : heap.Has list elems others) :
    Checked.Returns (heap.freeWithData list) fun (after, ret, freed) =>
      freed = elems.map heap.data ∧ heap.Makes others [] (.ok (after, ret)) := by
  rw [freeWithData, has.holds.head, Checked.returns_bind]
  refine (freeElems_returns has.holds.strung has.live has.nodup has.length_le).mono ?_
  intro (after, freed) ⟨given, live, nodup, links, data⟩
  exact Checked.returns_pure.mpr ⟨given, emptied live nodup links data⟩

/-- The last of some elements and the first of some others are made neighbours. -/
theorem joined {links : Links Nat} {front back : List Nat} {last newElem : Nat}
    (strung : Links.Strung links none (front ++ [last]) none)
    (holds : Links.Holds links (some newElem) (newElem :: back)) (nodup : (front ++ [last] ++ newElem :: back).Nodup) :
    Links.Holds ((links.setNext last (some newElem)).setPrev newElem (some last)) (front ++ [last]).head?
      (front ++ [last] ++ newElem :: back) ∧
    ∀ other ∉ front ++ [last] ++ newElem :: back,
      (links.setNext last (some newElem)).setPrev newElem (some last) other = links other := by
  have apart := List.nodup_append.mp nodup
  have unlike : ∀ elem ∈ front ++ [last], elem ≠ newElem := fun elem inside =>
    apart.2.2 elem inside newElem List.mem_cons_self
  have written : ∀ other, other ≠ newElem →
      (links.setNext last (some newElem)).setPrev newElem (some last) other =
        links.setNext last (some newElem) other :=
    fun other differs => Function.update_of_ne differs _ _
  have kept : ∀ other, other ≠ newElem → other ≠ last →
      (links.setNext last (some newElem)).setPrev newElem (some last) other = links other := by
    intro other notNew notLast
    rw [written other notNew, Links.setNext, Function.update_of_ne notLast]
  have own : links newElem = { next := back.head?, prev := none } := by rw [holds.strung.1, Option.or_none]
  have newOwn : (links.setNext last (some newElem)).setPrev newElem (some last) newElem =
      { next := back.head?.or none, prev := some last } := by
    rw [Links.setPrev, Function.update_self, Links.setNext,
      Function.update_of_ne (unlike last (by simp)).symm, own, Option.or_none]
  have notLast : ∀ other ∈ newElem :: back, other ≠ last := fun other inside same =>
    apart.2.2 last (by simp) other inside same.symm
  refine ⟨⟨?_, Links.strung_append.mpr ⟨?_, ?_, ?_⟩, nodup⟩, fun other outside => ?_⟩
  · cases front <;> rfl
  · exact (strung.setNext apart.1).congr fun other inside => written other (unlike other inside)
  · rw [List.getLast?_concat]
    exact newOwn
  · refine holds.strung.2.congr fun other inside => kept other ?_ (notLast other (List.mem_cons_of_mem _ inside))
    exact fun same => (List.nodup_cons.mp holds.nodup).1 (same ▸ inside)
  · exact kept other (fun same => outside (by simp [same])) fun same => outside (by simp [same])

/-- A list is put behind another one, whose elements it gets. -/
theorem concat_makes {second : Option Nat} {behind : List Nat} (has : heap.Has list elems (behind ++ others))
    (holds : Links.Holds heap.links second behind) :
    heap.Makes others (elems.map heap.data ++ behind.map heap.data) (heap.concat list second) := by
  have live : heap.live.Perm ((elems ++ behind) ++ others) := by
    rw [List.append_assoc]
    exact has.live
  have apart := live.nodup_iff.mp has.nodup
  have alive : ∀ elem ∈ elems ++ behind, heap.isLive elem = true := fun elem inside =>
    decide_eq_true (live.mem_iff.mpr (List.mem_append_left _ inside))
  rcases List.eq_nil_or_concat elems with rfl | ⟨front, last, rfl⟩
  · have unlisted : list = none := has.holds.head
    subst unlisted
    exact Checked.returns_ok.mpr ⟨behind, ⟨holds, live, has.nodup⟩, rfl, Spares.refl heap others⟩
  · rw [List.concat_eq_append] at *
    cases behind with
    | nil =>
        have unlisted : second = none := holds.head
        subst unlisted
        have same : heap.concat list none = .ok (heap, list) := by cases list <;> rfl
        rw [same, List.map_nil, List.append_nil]
        exact unchanged_makes has
    | cons newElem back =>
        obtain ⟨first, rest, whole⟩ := List.exists_cons_of_ne_nil (show front ++ [last] ≠ [] by simp)
        have strung := has.holds.strung
        have ends : (first :: rest).getLast? = some last := by rw [← whole, List.getLast?_concat]
        have head : list = some first := by rw [has.holds.head, whole, List.head?_cons]
        have start : second = some newElem := holds.head
        subst head start
        have walked : Checked.Returns (Links.lastElem heap.isLive heap.links heap.bound first) fun found =>
            found = last := by
          refine Links.lastElem_returns (whole ▸ strung) (fun elem inside => alive elem ?_) ends ?_
          · exact List.mem_append_left _ (whole ▸ inside)
          · have enough := has.length_le
            rw [whole, List.length_cons] at enough
            omega
        obtain ⟨found, walks, rfl⟩ := walked
        have entered : heap.concat (some first) (some newElem) = (do
            let (links, list) ← Links.appendLink heap.isLive heap.links heap.bound (some first) newElem
            return ({ heap with links }, list)) := rfl
        rw [entered, Links.appendLink, walks, Checked.ok_bind,
          Links.access_live (alive newElem (List.mem_append_right _ List.mem_cons_self)), Checked.ok_bind]
        obtain ⟨joins, frame⟩ := joined strung holds (List.nodup_append.mp apart).1
        rw [whole, List.head?_cons] at joins
        refine Checked.returns_ok.mpr ⟨front ++ [found] ++ newElem :: back, ⟨whole ▸ joins, live, has.nodup⟩,
          List.map_append .., fun elem outside => ⟨frame elem fun inside => ?_, rfl⟩⟩
        exact List.disjoint_of_nodup_append apart inside outside

/-- The items of a list are counted. -/
theorem size_returns {before : Option Nat} {bound : Nat} (strung : Links.Strung heap.links before elems none)
    (alive : ∀ elem ∈ elems, heap.isLive elem = true) (enough : elems.length ≤ bound) :
    heap.size bound elems.head? = .ok elems.length := by
  induction elems generalizing before bound with
  | nil => cases bound <;> rfl
  | cons elem rest ih =>
      obtain ⟨bound, rfl⟩ : ∃ smaller, bound = smaller + 1 := ⟨bound - 1, by simp at enough; omega⟩
      rw [List.head?_cons, size, Links.access_live (alive elem List.mem_cons_self), Checked.ok_bind, strung.1,
        Option.or_none, ih strung.2 (fun other inside => alive other (List.mem_cons_of_mem _ inside))
          (by simpa using enough), Checked.ok_bind, List.length_cons]
      rfl

/-- A negative index has no item. -/
theorem nthData_returns {before : Option Nat} {bound : Nat} (strung : Links.Strung heap.links before elems none)
    (alive : ∀ elem ∈ elems, heap.isLive elem = true) (enough : elems.length ≤ bound) (place start : Int) :
    heap.nthData place bound elems.head? start =
      .ok (if place < start then none else (elems.map heap.data)[(place - start).toNat]?) := by
  induction elems generalizing before bound start with
  | nil =>
      have ended : heap.nthData place bound ([] : List Nat).head? start = .ok none := by cases bound <;> rfl
      rw [ended, List.map_nil, List.getElem?_nil, ite_self]
  | cons elem rest ih =>
      obtain ⟨bound, rfl⟩ : ∃ smaller, bound = smaller + 1 := ⟨bound - 1, by simp at enough; omega⟩
      have later := ih strung.2 (fun other inside => alive other (List.mem_cons_of_mem _ inside))
        (by simpa using enough) (start + 1)
      rw [List.head?_cons, nthData, Links.access_live (alive elem List.mem_cons_self), Checked.ok_bind, strung.1,
        Option.or_none]
      rcases Int.lt_trichotomy place start with before | rfl | behind
      · rw [if_neg (by omega)]
        refine later.trans ?_
        rw [if_pos (by omega), if_pos before]
      · rw [if_pos rfl, if_neg (Int.lt_irrefl _), Int.sub_self]
        rfl
      · rw [if_neg (by omega)]
        refine later.trans ?_
        have passed : (place - start).toNat = (place - (start + 1)).toNat + 1 := by omega
        rw [if_neg (by omega), if_neg (by omega), passed, List.map_cons, List.getElem?_cons_succ]

theorem index_returns [DecidableEq Data] {before : Option Nat} {bound : Nat}
    (strung : Links.Strung heap.links before elems none) (alive : ∀ elem ∈ elems, heap.isLive elem = true)
    (enough : elems.length ≤ bound) (data : Data) (start : Nat) :
    heap.index data bound elems.head? start =
      .ok (if data ∈ elems.map heap.data then (start + (elems.map heap.data).idxOf data : Nat) else -1) := by
  induction elems generalizing before bound start with
  | nil => cases bound <;> rfl
  | cons elem rest ih =>
      obtain ⟨bound, rfl⟩ : ∃ smaller, bound = smaller + 1 := ⟨bound - 1, by simp at enough; omega⟩
      rw [List.head?_cons, index, Links.access_live (alive elem List.mem_cons_self), Checked.ok_bind, strung.1,
        Option.or_none]
      by_cases same : data = heap.data elem
      · rw [if_pos same, if_pos (by simp [same]), same, List.map_cons, List.idxOf_cons_self]
        rfl
      · have later := ih strung.2 (fun other inside => alive other (List.mem_cons_of_mem _ inside))
          (by simpa using enough) (start + 1)
        rw [if_neg same]
        refine later.trans ?_
        rw [List.map_cons, List.idxOf_cons_ne _ (Ne.symm same)]
        simp only [List.mem_cons, same, false_or]
        congr 2
        omega

/-- A loop over a list visits its items in their order. -/
theorem forEach_returns (has : heap.Has list elems others) : heap.forEach list = .ok (elems.map heap.data) := by
  rw [forEach, has.holds.head, Links.elements_returns has.holds.strung has.members has.length_le]
  rfl

section Insertion

/-- A new element is linked between the elements before another one and that one. -/
theorem linkBefore_returns (ret : Option Nat) {links : Links Nat} {front back : List Nat} {it newElem : Nat}
    (strung : Links.Strung links none (front ++ it :: back) none) (nodup : (front ++ it :: back).Nodup)
    (absent : newElem ∉ front ++ it :: back) (head : list = (front ++ it :: back).head?)
    (first : front = [] → ret = some newElem) (alive : ∀ elem ∈ front, heap.isLive elem = true) :
    Checked.Returns (heap.linkBefore links list ret it newElem) fun (linked, result) =>
      Links.Holds linked result (front ++ newElem :: it :: back) ∧
        ∀ other ∉ front ++ newElem :: it :: back, linked other = links other := by
  obtain ⟨ahead, own, behind⟩ := Links.strung_append.mp strung
  have apart := List.nodup_append.mp nodup
  have unlike : it ≠ newElem := fun same => absent (by simp [same])
  have longer : (front ++ newElem :: it :: back).Nodup := by
    rw [List.nodup_middle, List.nodup_cons]
    exact ⟨absent, nodup⟩
  rw [Option.or_none] at own ahead
  rcases List.eq_nil_or_concat front with rfl | ⟨before, last, rfl⟩
  · have prev : (links it).prev = none := by rw [own]; rfl
    rw [linkBefore, prev, first rfl]
    have others : ∀ other, other ≠ it → other ≠ newElem →
        (between links none it newElem).setPrev it (some newElem) other =
          links other := by
      intro other notIt notNew
      rw [Links.setPrev, Function.update_of_ne notIt, between, Function.update_of_ne notNew]
    refine Checked.returns_ok.mpr ⟨⟨rfl, ⟨?_, ?_, ?_⟩, longer⟩, fun other outside => ?_⟩
    · rw [Links.setPrev, Function.update_of_ne unlike.symm, between, Function.update_self]
      rfl
    · rw [Links.setPrev, Function.update_self, between, Function.update_of_ne unlike, own]
      simp only [Option.or_none]
    · refine behind.congr fun other inside => others other ?_ ?_
      · exact fun same => (List.nodup_cons.mp nodup).1 (same ▸ inside)
      · exact fun same => absent (by simp [← same, inside])
    · exact others other (fun same => outside (by simp [same])) fun same => outside (by simp [same])
  · rw [List.concat_eq_append] at *
    have prev : (links it).prev = some last := by rw [own]; simp
    have notLast : last ≠ it := apart.2.2 last (by simp) it List.mem_cons_self
    have lastOld : last ≠ newElem := fun same => absent (by simp [← same])
    rw [linkBefore, prev]
    rw [Checked.returns_bind, Links.returns_access (alive last (by simp))]
    have others : ∀ other, other ≠ it → other ≠ newElem → other ≠ last →
        ((between links (some last) it newElem).setNext last (some newElem)).setPrev it
          (some newElem) other = links other := by
      intro other notIt notNew notLast
      rw [Links.setPrev, Function.update_of_ne notIt, Links.setNext, Function.update_of_ne notLast,
        between, Function.update_of_ne notNew]
    have frontNew : Links.Strung (between links (some last) it newElem) none
        (before ++ [last]) (some it) :=
      ahead.congr fun other inside => Function.update_of_ne (fun same => absent (by
        rw [← same]
        exact List.mem_append_left _ inside)) _ _
    refine Checked.returns_pure.mpr ⟨⟨?_, Links.strung_append.mpr ⟨?_, ?_, ?_, ?_⟩, longer⟩, fun other outside => ?_⟩
    · rw [head]
      cases before <;> rfl
    · rw [List.head?_cons, Option.some_or]
      refine (frontNew.setNext apart.1).congr fun other inside => Function.update_of_ne ?_ _ _
      exact fun same => apart.2.2 other inside it List.mem_cons_self same
    · rw [Links.setPrev, Function.update_of_ne unlike.symm, Links.setNext, Function.update_of_ne lastOld.symm,
        between, Function.update_self, List.getLast?_concat]
      rfl
    · rw [Links.setPrev, Function.update_self, Links.setNext, Function.update_of_ne notLast.symm,
        between, Function.update_of_ne unlike, own]
      simp only [Option.or_none]
    · refine behind.congr fun other inside => others other ?_ ?_ ?_
      · exact fun same => (List.nodup_cons.mp apart.2.1).1 (same ▸ inside)
      · exact fun same => absent (by simp [← same, inside])
      · exact fun same => apart.2.2 last (by simp) other (List.mem_cons_of_mem _ inside) same.symm
    · exact others other (fun same => outside (by simp [same])) (fun same => outside (by simp [same]))
        fun same => outside (by simp [same])

/-- The new element is put before the first element that does not precede it, and at the end otherwise. -/
theorem place_returns {compare : Data → Data → Int} {front rest : List Nat} {newElem bound : Nat}
    (strung : Links.Strung heap.links none (front ++ rest) none) (nodup : (front ++ rest).Nodup)
    (some_elem : front ++ rest ≠ []) (absent : newElem ∉ front ++ rest) (unlinked : heap.links newElem = {})
    (head : list = (front ++ rest).head?) (alive : ∀ elem ∈ front ++ rest, heap.isLive elem = true)
    (enough : rest.length ≤ bound) :
    Checked.Returns (heap.place compare list newElem bound rest.head? front.getLast?) fun (linked, result) =>
      ∃ before behind, front ++ rest = before ++ behind ∧
        before ++ newElem :: behind =
          front ++ rest.orderedInsert (fun first second => compare (heap.data first) (heap.data second) ≤ 0) newElem ∧
        Links.Holds linked result (before ++ newElem :: behind) ∧
        ∀ other ∉ before ++ newElem :: behind, linked other = heap.links other := by
  induction rest generalizing front bound with
  | nil =>
      rcases List.eq_nil_or_concat front with rfl | ⟨before, last, rfl⟩
      · exact absurd rfl some_elem
      · rw [List.concat_eq_append, List.append_nil] at *
        have ended : heap.place compare list newElem bound ([] : List Nat).head? (before ++ [last]).getLast? = (do
            let last ← Checked.deref (before ++ [last]).getLast?
            Links.access heap.isLive last
            return ((heap.links.setNext last (some newElem)).setPrev newElem (some last), list)) := by
          cases bound <;> rfl
        rw [ended, List.getLast?_concat, Checked.deref_some, Checked.ok_bind,
          Links.access_live (alive last (by simp)), Checked.ok_bind]
        have alone : Links.Holds heap.links (some newElem) [newElem] :=
          ⟨rfl, ⟨unlinked, trivial⟩, List.nodup_singleton _⟩
        have longer : (before ++ [last] ++ [newElem]).Nodup := by
          rw [List.nodup_append]
          refine ⟨nodup, List.nodup_singleton _, fun first inside second own => ?_⟩
          rw [List.mem_singleton.mp own]
          exact fun same => absent (same ▸ inside)
        obtain ⟨holds, frame⟩ := joined strung alone longer
        rw [head]
        exact Checked.returns_ok.mpr ⟨before ++ [last], [], (List.append_nil _).symm, rfl, holds, frame⟩
  | cons it rest ih =>
      obtain ⟨bound, rfl⟩ : ∃ smaller, bound = smaller + 1 := ⟨bound - 1, by simp at enough; omega⟩
      rw [List.head?_cons, place, Checked.returns_bind, Links.returns_access (alive it (by simp))]
      by_cases precedes : compare (heap.data newElem) (heap.data it) ≤ 0
      · rw [if_pos precedes, List.orderedInsert_cons, if_pos precedes]
        refine (linkBefore_returns (some newElem) strung nodup absent head (fun _ => rfl) fun elem inside =>
          alive elem (List.mem_append_left _ inside)).mono ?_
        intro (linked, result) ⟨holds, frame⟩
        exact ⟨front, it :: rest, rfl, rfl, holds, frame⟩
      · obtain ⟨_, own, _⟩ := Links.strung_append.mp strung
        have next : (heap.links it).next = rest.head? := by rw [own, Option.or_none]
        have moved : front ++ it :: rest = (front ++ [it]) ++ rest := by simp
        rw [if_neg precedes, List.orderedInsert_cons, if_neg precedes, next]
        rw [moved] at strung nodup some_elem absent head alive ⊢
        have later := ih strung nodup some_elem absent head alive (by simpa using enough)
        rw [List.getLast?_concat] at later
        simpa only [List.append_assoc, List.cons_append, List.nil_append] using later

variable (fresh : ∀ live, malloc live ∉ live) (data : Data)

include fresh

/-- The data is put before the first item that it does not follow. -/
theorem insertSorted_makes (has : heap.Has list elems others) (compare : Data → Data → Int) :
    heap.Makes others ((elems.map heap.data).orderedInsert (fun first second => compare first second ≤ 0) data)
      (heap.insertSorted malloc list data compare) := by
  obtain ⟨made, absent, unlinked, own, spares⟩ := created fresh data has
  have head := has.holds.head
  cases elems with
  | nil =>
      rw [List.head?_nil] at head
      subst head
      exact append_makes fresh data has
  | cons first rest =>
      rw [List.head?_cons] at head
      subst head
      have outside : malloc heap.live ∉ first :: rest := fun inside => absent (List.mem_append_left _ inside)
      have strung : Links.Strung (heap.create malloc data).1.links none ([] ++ first :: rest) none := made.holds.strung
      refine Checked.returns_bind.mpr ((place_returns strung made.holds.nodup (by simp) outside unlinked
        made.holds.head made.members made.length_le).mono ?_)
      intro (links, ret) ⟨before, behind, parts, ordered, holds, frame⟩
      have parts : first :: rest = before ++ behind := parts
      have same (part : List Nat) (among : ∀ elem ∈ part, elem ∈ first :: rest) :
          part.map (heap.create malloc data).1.data = part.map heap.data :=
        List.map_congr_left fun elem inside => (spares elem (List.mem_append_left _ (among elem inside))).2
      have mapped := List.map_orderedInsert
        (fun first second =>
          compare ((heap.create malloc data).1.data first) ((heap.create malloc data).1.data second) ≤ 0)
        (fun first second => compare first second ≤ 0) (heap.create malloc data).1.data (first :: rest)
        (malloc heap.live) (fun _ _ => Iff.rfl) fun _ _ => Iff.rfl
      have items : before.map heap.data ++ data :: behind.map heap.data =
          ((first :: rest).map heap.data).orderedInsert (fun first second => compare first second ≤ 0) data := by
        rw [← same (first :: rest) fun _ inside => inside, ← same before fun elem inside => parts ▸
            List.mem_append_left _ inside, ← same behind fun elem inside => parts ▸ List.mem_append_right _ inside]
        rw [own, ← ordered.trans (List.nil_append _), List.map_append, List.map_cons, own] at mapped
        exact mapped
      rw [← items]
      exact linked fresh data has parts holds frame

omit fresh in
/-- The walk passes the elements that it does not look for. -/
theorem insertAt_behind (malloc : List Nat → Nat) (list : Option Nat) {prev after : Option Nat} {before : Nat}
    (front rest : List Nat) (bound : Nat)
    (strung : Links.Strung heap.links prev (front ++ rest) after) (absent : before ∉ front)
    (alive : ∀ elem ∈ front, heap.isLive elem = true) :
    insertAt malloc before data list (front.length + bound) ((front ++ rest).head?.or after) heap =
      insertAt malloc before data list bound (rest.head?.or after) heap := by
  induction front generalizing prev with
  | nil => rw [List.length_nil, Nat.zero_add, List.nil_append]
  | cons elem front ih =>
      have differs : elem ≠ before := fun same => absent (same ▸ List.mem_cons_self)
      rw [List.length_cons, Nat.add_right_comm, List.cons_append, List.head?_cons, Option.some_or, insertAt,
        Links.access_live (alive elem List.mem_cons_self), Checked.ok_bind, if_neg differs, strung.1]
      exact ih strung.2 (fun inside => absent (List.mem_cons_of_mem _ inside)) fun other inside =>
        alive other (List.mem_cons_of_mem _ inside)

omit fresh in
theorem insertAt_absent (malloc : List Nat → Nat) (list : Option Nat) {prev : Option Nat} {before bound : Nat}
    {rest : List Nat} (strung : Links.Strung heap.links prev rest none) (absent : before ∉ rest)
    (alive : ∀ elem ∈ rest, heap.isLive elem = true) (enough : rest.length ≤ bound) :
    insertAt malloc before data list bound rest.head? heap = .ok (heap, list) := by
  obtain ⟨spare, rfl⟩ := Nat.exists_eq_add_of_le enough
  have passed := insertAt_behind data malloc list rest [] spare ((List.append_nil rest).symm ▸ strung)
    absent alive
  rw [List.append_nil, Option.or_none] at passed
  rw [passed]
  cases spare <;> rfl

/-- The data is put before the given element. -/
theorem insert_makes {front back : List Nat} {it : Nat} (has : heap.Has list (front ++ it :: back) others) :
    heap.Makes others (front.map heap.data ++ data :: heap.data it :: back.map heap.data)
      (heap.insert malloc list (some it) data) := by
  obtain ⟨made, absent, -, -, spares⟩ := created fresh data has
  have alive := has.members
  have apart := List.nodup_append.mp has.holds.nodup
  have notFront : it ∉ front := fun inside => apart.2.2 it inside it List.mem_cons_self rfl
  obtain ⟨first, rest, whole⟩ := List.exists_cons_of_ne_nil (show front ++ it :: back ≠ [] by simp)
  have head : list = some first := by rw [has.holds.head, whole, List.head?_cons]
  have entered : heap.insert malloc list (some it) data = insertAt malloc it data list heap.bound list heap := by
    rw [head]
    rfl
  obtain ⟨spare, enough⟩ : ∃ spare, heap.bound = front.length + (spare + 1 + back.length) :=
    ⟨heap.bound - (front ++ it :: back).length, by
      have enough := has.length_le
      rw [List.length_append, List.length_cons] at *
      omega⟩
  have passed := insertAt_behind data malloc list front (it :: back) (spare + 1 + back.length)
    has.holds.strung notFront fun elem inside => alive elem (List.mem_append_left _ inside)
  rw [Option.or_none, ← has.holds.head, ← enough, Option.or_none, List.head?_cons, Nat.add_right_comm] at passed
  rw [entered, passed, insertAt, Links.access_live (alive it (by simp)), Checked.ok_bind, if_pos rfl]
  obtain ⟨ahead, own, behind⟩ := Links.strung_append.mp has.holds.strung
  rcases List.eq_nil_or_concat front with rfl | ⟨before, last, rfl⟩
  · have prev : (heap.links it).prev = none := by rw [own]; rfl
    rw [if_pos prev]
    exact prepend_makes fresh data has
  · rw [List.concat_eq_append] at *
    have prev : (heap.links it).prev ≠ none := by rw [own]; simp
    have outside : malloc heap.live ∉ before ++ [last] ++ it :: back := fun inside =>
      absent (List.mem_append_left _ inside)
    obtain ⟨⟨links, ret⟩, returned, holds, frame⟩ := linkBefore_returns list made.holds.strung
      made.holds.nodup outside made.holds.head (by simp)
      fun elem inside => made.members elem (List.mem_append_left _ inside)
    have same : ret = list := by
      rw [holds.head, has.holds.head, List.append_assoc, List.append_assoc]
      cases before <;> rfl
    obtain ⟨_, _, later⟩ := Links.strung_append.mp holds.strung
    have next : (links it).next = back.head? := by rw [later.1, Option.or_none]
    have walked : insertAt malloc it data list (spare + back.length) back.head?
        { (heap.create malloc data).1 with links } = .ok ({ (heap.create malloc data).1 with links }, list) :=
      insertAt_absent data malloc list later.2 (List.nodup_cons.mp apart.2.1).1
        (fun elem inside => made.members elem (by simp [inside])) (Nat.le_add_left _ _)
    rw [if_neg prev]
    refine Checked.returns_bind.mpr ⟨(links, ret), returned, ?_⟩
    show heap.Makes others _ (insertAt malloc it data list (spare + back.length) (links it).next
      { (heap.create malloc data).1 with links })
    rw [next, walked]
    exact linked fresh data has rfl (same ▸ holds) frame

/-- The data is put before the first item that passes a test, and behind all items when none does. -/
theorem insertFound_makes (has : heap.Has list elems others) (test : Data → Bool) :
    heap.Makes others
      ((elems.map heap.data).takeWhile (fun item => !test item) ++
        data :: (elems.map heap.data).dropWhile fun item => !test item)
      (heap.insertFound malloc list test data) := by
  have alive := has.members
  rw [List.takeWhile_map, List.dropWhile_map, insertFound]
  generalize taken : elems.takeWhile ((fun item => !test item) ∘ heap.data) = front
  generalize dropped : elems.dropWhile ((fun item => !test item) ∘ heap.data) = behind
  have parts : front ++ behind = elems := taken ▸ dropped ▸ List.takeWhile_append_dropWhile
  have refuses : ∀ elem ∈ front, (.ok (test (heap.data elem)) : Checked Bool) = .ok false := by
    intro elem inside
    have refused := List.mem_takeWhile_imp (taken ▸ inside)
    exact congrArg Except.ok (by simpa using refused)
  cases behind with
  | nil =>
      rw [List.append_nil] at parts
      subst parts
      have same : heap.insert malloc list none data = heap.append malloc list data := by cases list <;> rfl
      rw [Links.find_nothing has.holds alive refuses has.length_le, Checked.ok_bind, same]
      exact append_makes fresh data has
  | cons it back =>
      subst parts
      have stops := List.head?_dropWhile_not ((fun item => !test item) ∘ heap.data) (front ++ it :: back)
      rw [dropped] at stops
      have accepts : (.ok (test (heap.data it)) : Checked Bool) = .ok true :=
        congrArg Except.ok (by simpa using stops)
      rw [Links.find_returns has.holds alive refuses accepts has.length_le, Checked.ok_bind]
      exact insert_makes fresh data has

omit fresh data in
theorem Makes.perm {items : List Data} {result : Checked (ListHeap Data × Option Nat)} {more : List Nat}
    (makes : heap.Makes others items result) (same : others.Perm more) : heap.Makes more items result :=
  Checked.Returns.mono makes fun _ ⟨elems, has, content, spares⟩ =>
    ⟨elems, ⟨has.holds, has.live.trans (same.append_left elems), has.nodup⟩, content,
      fun elem among => spares elem (same.mem_iff.mpr among)⟩

omit data in
/-- The items that are left are put behind those that have been copied. -/
theorem copyFrom_makes {copyfunc : Data → Data} {prev copy : Option Nat} {rest copied : List Nat} {bound : Nat}
    (has : heap.Has copy copied others) (strung : Links.Strung heap.links prev rest none)
    (among : ∀ elem ∈ rest, elem ∈ others) (enough : rest.length ≤ bound) :
    heap.Makes others (copied.map heap.data ++ (rest.map heap.data).map copyfunc)
      (copyFrom malloc copyfunc bound rest.head? heap copy) := by
  induction rest generalizing heap prev copy copied bound with
  | nil =>
      have done : copyFrom malloc copyfunc bound ([] : List Nat).head? heap copy = .ok (heap, copy) := by
        cases bound <;> rfl
      rw [done, List.map_nil, List.map_nil, List.append_nil]
      exact unchanged_makes has
  | cons iter rest ih =>
      obtain ⟨bound, rfl⟩ : ∃ smaller, bound = smaller + 1 := ⟨bound - 1, by simp at enough; omega⟩
      have alive : heap.isLive iter = true :=
        has.alive iter (List.mem_append_right _ (among iter List.mem_cons_self))
      rw [List.head?_cons, copyFrom, Makes, Checked.returns_bind, Links.returns_access alive, Checked.returns_bind]
      refine (append_makes fresh (copyfunc (heap.data iter)) has).mono ?_
      intro (after, ret) ⟨more, hasMore, content, spares⟩
      have kept := strung.congr fun elem inside => (spares elem (among elem inside)).1
      have next : (after.links iter).next = rest.head? := by rw [kept.1, Option.or_none]
      have items : rest.map after.data = rest.map heap.data :=
        List.map_congr_left fun elem inside => (spares elem (among elem (List.mem_cons_of_mem _ inside))).2
      have later := ih hasMore kept.2 (fun elem inside => among elem (List.mem_cons_of_mem _ inside))
        (by simpa using enough)
      rw [content, items, List.append_assoc] at later
      show Checked.Returns (copyFrom malloc copyfunc bound (after.links iter).next after ret) _
      rw [next]
      refine later.mono fun _ ⟨elems, hasElems, contents, sparesMore⟩ => ⟨elems, hasElems, contents, ?_⟩
      exact spares.trans sparesMore

omit data in
theorem copyWithData_makes (has : heap.Has list elems others) (copyfunc : Data → Data) :
    heap.Makes (elems ++ others) ((elems.map heap.data).map copyfunc) (heap.copyWithData malloc list copyfunc) := by
  have empty : heap.Has none [] (elems ++ others) := ⟨⟨rfl, trivial, List.nodup_nil⟩, has.live, has.nodup⟩
  rw [copyWithData, has.holds.head]
  exact copyFrom_makes fresh empty has.holds.strung (fun _ inside => List.mem_append_left _ inside) has.length_le

omit data in
theorem copy_makes (has : heap.Has list elems others) :
    heap.Makes (elems ++ others) (elems.map heap.data) (heap.copy malloc list) := by
  have copied := copyWithData_makes fresh has id
  rw [List.map_id] at copied
  exact copied

end Insertion

end ListHeap

end BelleSip
