import BelleSip.Foundation.Checked
import Mathlib.Data.List.Basic
import Mathlib.Data.List.Nodup
import Mathlib.Logic.Function.Basic

/-
This file models the linked lists of `belle_sip_utils.c`, whose elements have pointers to their neighbours, and relates
them to lists. An element that is not live has been freed, and an access to it counts as one through a null pointer.
-/

namespace BelleSip

open Foundation

/-- The pointers of a `belle_sip_list_t`. -/
structure Link (Element : Type) where
  next : Option Element := none
  prev : Option Element := none
deriving DecidableEq, Repr

abbrev Links (Element : Type) := Element → Link Element

namespace Links

variable {Element : Type} [DecidableEq Element]

def setNext (links : Links Element) (elem : Element) (next : Option Element) : Links Element :=
  Function.update links elem { links elem with next }

def setPrev (links : Links Element) (elem : Element) (prev : Option Element) : Links Element :=
  Function.update links elem { links elem with prev }

variable (live : Element → Bool) (links : Links Element)

def access (elem : Element) : Checked Unit := if live elem then .ok () else .error .nullPointer

/-- The pointer to the element before an element is written, when there is an element. -/
def writePrev (elem : Option Element) (prev : Option Element) : Checked (Links Element) :=
  match elem with
  | some elem => do
      access live elem
      return links.setPrev elem prev
  | none => .ok links

/-- This is `belle_sip_list_remove_link`. -/
def removeLink (list : Option Element) (elem : Element) : Checked (Links Element × Option Element) := do
  access live elem
  if list = some elem then
    let ret := (links elem).next
    let written ← writePrev live (Function.update links elem {}) ret none
    return (written, ret)
  else
    let prev ← Checked.deref (links elem).prev
    access live prev
    let bridged := links.setNext prev (links elem).next
    let written ← writePrev live bridged (bridged elem).next (bridged elem).prev
    return (Function.update written elem {}, list)

/-- The walk to the last element. A walk over more elements than there are does not end. -/
def lastElem : Nat → Element → Checked Element
  | 0, _ => .error .nullPointer
  | bound + 1, it => do
      access live it
      match (links it).next with
      | some next => lastElem bound next
      | none => return it

/-- This is `belle_sip_list_append_link`. -/
def appendLink (bound : Nat) (list : Option Element) (newElem : Element) : Checked (Links Element × Option Element) :=
  match list with
  | none => .ok (links, some newElem)
  | some first => do
      let last ← lastElem live links bound first
      access live newElem
      return ((links.setNext last (some newElem)).setPrev newElem (some last), some first)

/-- This is `belle_sip_list_prepend`, whose new element has been allocated. -/
def prepend (list : Option Element) (newElem : Element) : Checked (Links Element × Option Element) := do
  let written ← writePrev live (Function.update links newElem { next := list }) list (some newElem)
  return (written, some newElem)

/-- The elements that a loop over a list visits. -/
def elements : Nat → Option Element → Checked (List Element)
  | _, none => .ok []
  | 0, some _ => .error .nullPointer
  | bound + 1, some elem => do
      access live elem
      let rest ← elements bound (links elem).next
      return elem :: rest

/-- This is `belle_sip_list_find_custom`. -/
def find (test : Element → Checked Bool) : Nat → Option Element → Checked (Option Element)
  | _, none => .ok none
  | 0, some _ => .error .nullPointer
  | bound + 1, some elem => do
      access live elem
      if ← test elem then return some elem
      else find test bound (links elem).next

omit [DecidableEq Element] in
/-- The elements point to each other, the first one to `before` and the last one to `after`. -/
def Strung (links : Links Element) : Option Element → List Element → Option Element → Prop
  | _, [], _ => True
  | before, elem :: rest, after =>
      links elem = { next := rest.head?.or after, prev := before } ∧ Strung links (some elem) rest after

/-- A list of elements in memory. -/
structure Holds (links : Links Element) (list : Option Element) (elems : List Element) : Prop where
  head : list = elems.head?
  strung : Strung links none elems none
  nodup : elems.Nodup

variable {live links}

omit [DecidableEq Element] in
theorem Strung.congr {before after : Option Element} {elems : List Element} {others : Links Element}
    (strung : Strung links before elems after) (same : ∀ elem ∈ elems, others elem = links elem) :
    Strung others before elems after := by
  induction elems generalizing before with
  | nil => trivial
  | cons elem rest ih =>
      refine ⟨?_, ih strung.2 fun other among => same other (List.mem_cons_of_mem _ among)⟩
      rw [same elem List.mem_cons_self]
      exact strung.1

omit [DecidableEq Element] in
theorem strung_append {before after : Option Element} {elems others : List Element} :
    Strung links before (elems ++ others) after ↔
      Strung links before elems (others.head?.or after) ∧ Strung links (elems.getLast?.or before) others after := by
  induction elems generalizing before with
  | nil => simp [Strung]
  | cons elem rest ih =>
      rw [List.cons_append, Strung, Strung, ih, List.head?_append, Option.or_assoc, and_assoc]
      cases rest <;> simp [List.getLast?_cons]

omit [DecidableEq Element] in
theorem Strung.unique {before between : Option Element} {elems others : List Element}
    (strung : Strung links before elems none) (other : Strung links between others none)
    (head : elems.head? = others.head?) : elems = others := by
  induction elems generalizing before between others with
  | nil =>
      rw [List.head?_nil] at head
      exact (List.head?_eq_none_iff.mp head.symm).symm
  | cons elem rest ih =>
      cases others with
      | nil => exact absurd head (by simp)
      | cons first back =>
          obtain rfl : elem = first := Option.some.inj head
          have nexts := (Link.mk.inj (strung.1.symm.trans other.1)).1
          rw [Option.or_none, Option.or_none] at nexts
          rw [ih strung.2 other.2 nexts]

omit [DecidableEq Element] in
/-- The pointers determine the elements. -/
theorem Holds.unique {list : Option Element} {elems others : List Element} (holds : Holds links list elems)
    (other : Holds links list others) : elems = others :=
  holds.strung.unique other.strung (holds.head.symm.trans other.head)

omit [DecidableEq Element] in
theorem access_live {elem : Element} (alive : live elem = true) : access live elem = .ok () := by
  rw [access, if_pos alive]

omit [DecidableEq Element] in
theorem returns_access {elem : Element} {property : Unit → Prop} (alive : live elem = true) :
    Checked.Returns (access live elem) property ↔ property () := by
  rw [access_live alive, Checked.returns_ok]

/-- The element behind a removed one is joined to the elements before it. -/
theorem Strung.writePrev {before after prev : Option Element} {elems : List Element}
    (strung : Strung links before elems after) (nodup : elems.Nodup) (alive : ∀ elem ∈ elems, live elem = true) :
    Checked.Returns (Links.writePrev live links elems.head? prev) fun written =>
      Strung written prev elems after ∧ ∀ other, other ∉ elems.head? → written other = links other := by
  cases elems with
  | nil => exact Checked.returns_ok.mpr ⟨trivial, fun _ _ => rfl⟩
  | cons elem rest =>
      rw [List.head?_cons, Links.writePrev, Checked.returns_bind, returns_access (alive elem List.mem_cons_self),
        Checked.returns_pure]
      have others : ∀ other, other ≠ elem → links.setPrev elem prev other = links other :=
        fun other differs => Function.update_of_ne differs _ _
      refine ⟨⟨?_, strung.2.congr fun other among => others other fun same => ?_⟩,
        fun other differs => others other ?_⟩
      · rw [setPrev, Function.update_self, strung.1]
      · exact (List.nodup_cons.mp nodup).1 (same ▸ among)
      · rintro rfl
        exact differs rfl

/-- The last element of some is joined to what stands behind it. -/
theorem Strung.setNext {before after next : Option Element} {elems : List Element} {last : Element}
    (strung : Strung links before (elems ++ [last]) after) (nodup : (elems ++ [last]).Nodup) :
    Strung (links.setNext last next) before (elems ++ [last]) next := by
  have apart := List.nodup_append.mp nodup
  obtain ⟨front, back, -⟩ := strung_append.mp strung
  refine strung_append.mpr ⟨front.congr fun elem among => ?_, ?_, trivial⟩
  · apply Function.update_of_ne
    exact apart.2.2 elem among last List.mem_cons_self
  · rw [Links.setNext, Function.update_self, back]
    rfl

/-- An element that is removed behind another one leaves the others strung, whatever the list begins with. -/
theorem removeBehind_returns {list before : Option Element} {elems others : List Element} {last elem : Element}
    (strung : Strung links before (elems ++ [last] ++ elem :: others) none)
    (nodup : (elems ++ [last] ++ elem :: others).Nodup)
    (alive : ∀ other ∈ elems ++ [last] ++ elem :: others, live other = true) (notFirst : list ≠ some elem) :
    Checked.Returns (removeLink live links list elem) fun removed =>
      removed.2 = list ∧ Strung removed.1 before (elems ++ [last] ++ others) none ∧ removed.1 elem = {} ∧
        ∀ other ∉ elems ++ [last] ++ elem :: others, removed.1 other = links other := by
  have apart := List.nodup_append.mp nodup
  have fresh := List.nodup_cons.mp apart.2.1
  obtain ⟨front, own, back⟩ := strung_append.mp strung
  have differs : last ≠ elem := apart.2.2 last (by simp) elem List.mem_cons_self
  have own : links elem = { next := others.head?, prev := some last } := by
    rw [own]
    simp
  rw [removeLink, Checked.returns_bind, returns_access (alive elem (by simp)), if_neg notFirst, Checked.returns_bind,
    own, Checked.returns_deref]
  refine ⟨last, rfl, ?_⟩
  rw [Checked.returns_bind, returns_access (alive last (by simp))]
  have bridged : ∀ other, other ≠ last → links.setNext last others.head? other = links other :=
    fun other differs => Function.update_of_ne differs _ _
  have frontStrung : Strung (links.setNext last others.head?) before (elems ++ [last]) others.head? :=
    front.setNext apart.1
  have outside : ∀ other ∈ others, other ∉ elems ++ [last] := fun other among stands =>
    apart.2.2 other stands other (List.mem_cons_of_mem _ among) rfl
  have backStrung := back.congr fun other among => bridged other fun same => outside other among (by simp [same])
  rw [Checked.returns_bind, bridged elem differs.symm, own]
  refine (backStrung.writePrev fresh.2 fun other among => alive other (by simp [among])).mono ?_
  rintro written ⟨restStrung, same⟩
  rw [Checked.returns_pure]
  have cleared : ∀ other, other ≠ elem → Function.update written elem {} other = written other :=
    fun other differs => Function.update_of_ne differs _ _
  refine ⟨rfl, strung_append.mpr ⟨?_, ?_⟩, Function.update_self _ _ _, ?_⟩
  · rw [Option.or_none]
    refine frontStrung.congr fun other among => ?_
    show Function.update written elem {} other = _
    rw [cleared other fun equal => apart.2.2 other among elem List.mem_cons_self equal,
      same other fun stands => outside other (List.mem_of_mem_head? stands) among]
  · rw [List.getLast?_append, List.getLast?_singleton, Option.some_or, Option.some_or]
    exact restStrung.congr fun other among => cleared other fun equal => fresh.1 (equal ▸ among)
  · intro other absent
    show Function.update written elem {} other = links other
    rw [cleared other fun equal => absent (by simp [equal]),
      same other fun stands => absent (by simp [List.mem_of_mem_head? stands]),
      bridged other fun equal => absent (by simp [equal])]

/-- An element that is removed has no neighbours any more, and the other elements stay strung. -/
theorem removeLink_returns {list : Option Element} {elems others : List Element} {elem : Element}
    (holds : Holds links list (elems ++ elem :: others))
    (alive : ∀ other ∈ elems ++ elem :: others, live other = true) :
    Checked.Returns (removeLink live links list elem) fun removed =>
      Holds removed.1 removed.2 (elems ++ others) ∧ removed.1 elem = {} ∧
        ∀ other ∉ elems ++ elem :: others, removed.1 other = links other := by
  obtain ⟨head, strung, nodup⟩ := holds
  have apart := List.nodup_append.mp nodup
  have fresh := List.nodup_cons.mp apart.2.1
  rcases List.eq_nil_or_concat elems with rfl | ⟨before, last, rfl⟩
  · obtain ⟨-, own, back⟩ := strung_append.mp strung
    have behind : elem ∉ others.head? := fun stands => fresh.1 (List.mem_of_mem_head? stands)
    have cleared : ∀ other, other ≠ elem → Function.update links elem {} other = links other :=
      fun other differs => Function.update_of_ne differs _ _
    have strungRest := back.congr fun other among => cleared other fun same => fresh.1 (same ▸ among)
    rw [removeLink, Checked.returns_bind, returns_access (alive elem (by simp)), if_pos (by rw [head]; rfl), own,
      Option.or_none, Checked.returns_bind]
    refine (strungRest.writePrev fresh.2 fun other among => alive other (by simp [among])).mono ?_
    rintro written ⟨restStrung, same⟩
    rw [Checked.returns_pure]
    refine ⟨⟨rfl, restStrung, fresh.2⟩, ?_, ?_⟩
    · show written elem = {}
      rw [same elem behind, Function.update_self]
    · intro other outside
      show written other = links other
      rw [same other fun stands => outside (by simp [List.mem_of_mem_head? stands]),
        cleared other fun equal => outside (by simp [equal])]
  · rw [List.concat_eq_append] at *
    have first : (before ++ [last] ++ elem :: others).head? = (before ++ [last] ++ others).head? := by
      rw [List.append_assoc, List.append_assoc]
      cases before <;> rfl
    have notFirst : list ≠ some elem := by
      intro same
      rw [head, first, List.append_assoc] at same
      have among : elem ∈ before ++ [last] := by
        cases before <;> simp_all
      exact apart.2.2 elem among elem List.mem_cons_self rfl
    refine (removeBehind_returns strung nodup alive notFirst).mono ?_
    rintro removed ⟨same, rest, alone, others⟩
    refine ⟨⟨?_, rest, nodup.sublist (by simp)⟩, alone, others⟩
    rw [same, head, first]

/-- A new element is put before the others. -/
theorem prepend_returns {list : Option Element} {elems : List Element} {newElem : Element}
    (holds : Holds links list elems) (fresh : newElem ∉ elems) (alive : ∀ elem ∈ elems, live elem = true) :
    Checked.Returns (prepend live links list newElem) fun prepended =>
      Holds prepended.1 prepended.2 (newElem :: elems) ∧
        ∀ other ∉ newElem :: elems, prepended.1 other = links other := by
  obtain ⟨head, strung, nodup⟩ := holds
  have others : ∀ other, other ≠ newElem → Function.update links newElem { next := list } other = links other :=
    fun other differs => Function.update_of_ne differs _ _
  have kept := strung.congr fun other among => others other fun same => fresh (same ▸ among)
  rw [prepend, Checked.returns_bind, head]
  rw [head] at kept others
  refine (kept.writePrev nodup alive).mono ?_
  rintro written ⟨rest, same⟩
  rw [Checked.returns_pure]
  refine ⟨⟨rfl, ⟨?_, rest⟩, List.nodup_cons.mpr ⟨fresh, nodup⟩⟩, ?_⟩
  · show written newElem = _
    rw [same newElem fun stands => fresh (List.mem_of_mem_head? stands), Function.update_self, Option.or_none]
  · intro other absent
    show written other = links other
    rw [same other fun stands => absent (List.mem_cons_of_mem _ (List.mem_of_mem_head? stands)),
      others other fun equal => absent (by simp [equal])]

omit [DecidableEq Element] in
theorem lastElem_returns {before : Option Element} {first last : Element} {elems : List Element} {bound : Nat}
    (strung : Strung links before (first :: elems) none) (alive : ∀ elem ∈ first :: elems, live elem = true)
    (ends : (first :: elems).getLast? = some last) (enough : elems.length < bound) :
    Checked.Returns (lastElem live links bound first) fun found => found = last := by
  induction elems generalizing before first bound with
  | nil =>
      obtain ⟨bound, rfl⟩ : ∃ smaller, bound = smaller + 1 := ⟨bound - 1, by simp at enough; omega⟩
      rw [lastElem, Checked.returns_bind, returns_access (alive first List.mem_cons_self), strung.1]
      exact Checked.returns_pure.mpr (Option.some.inj ends)
  | cons second elems ih =>
      obtain ⟨bound, rfl⟩ : ∃ smaller, bound = smaller + 1 := ⟨bound - 1, by simp at enough; omega⟩
      rw [lastElem, Checked.returns_bind, returns_access (alive first List.mem_cons_self), strung.1]
      exact ih strung.2 (fun elem among => alive elem (List.mem_cons_of_mem _ among)) (by simpa using ends)
        (by simp at enough; omega)

/-- An element without neighbours is appended. -/
theorem appendLink_returns {list : Option Element} {elems : List Element} {newElem : Element} {bound : Nat}
    (holds : Holds links list elems) (fresh : newElem ∉ elems) (unlinked : links newElem = {})
    (alive : ∀ elem ∈ elems, live elem = true) (aliveNew : live newElem = true) (enough : elems.length ≤ bound) :
    Checked.Returns (appendLink live links bound list newElem) fun appended =>
      Holds appended.1 appended.2 (elems ++ [newElem]) ∧
        ∀ other ∉ elems ++ [newElem], appended.1 other = links other := by
  obtain ⟨head, strung, nodup⟩ := holds
  have longer : (elems ++ [newElem]).Nodup := by
    rw [List.nodup_append]
    refine ⟨nodup, List.nodup_singleton _, fun first among second last => ?_⟩
    rw [List.mem_singleton.mp last]
    exact fun same => fresh (same ▸ among)
  rcases List.eq_nil_or_concat elems with rfl | ⟨before, last, rfl⟩
  · rw [head, List.head?_nil, appendLink]
    exact Checked.returns_ok.mpr ⟨⟨rfl, ⟨unlinked, trivial⟩, longer⟩, fun _ _ => rfl⟩
  · rw [List.concat_eq_append] at *
    obtain ⟨first, elems, whole⟩ := List.exists_cons_of_ne_nil (show before ++ [last] ≠ [] by simp)
    have differs : newElem ≠ last := fun same => fresh (by simp [same])
    have ends : (first :: elems).getLast? = some last := by rw [← whole, List.getLast?_concat]
    rw [head, whole, List.head?_cons, appendLink, Checked.returns_bind]
    refine (lastElem_returns (whole ▸ strung) (whole ▸ alive) ends ?_).mono ?_
    · rw [whole, List.length_cons] at enough
      omega
    rintro found rfl
    rw [Checked.returns_bind, returns_access aliveNew, Checked.returns_pure]
    have written : ∀ other, other ≠ newElem →
        (links.setNext found (some newElem)).setPrev newElem (some found) other =
          links.setNext found (some newElem) other :=
      fun other differs => Function.update_of_ne differs _ _
    rw [← whole]
    refine ⟨⟨?_, ?_, longer⟩, ?_⟩
    · rw [List.head?_append, whole]
      rfl
    · refine strung_append.mpr ⟨?_, ?_, trivial⟩
      · exact (strung.setNext nodup).congr fun other among => written other fun same => fresh (same ▸ among)
      · have own : (links.setNext found (some newElem)).setPrev newElem (some found) newElem =
            { next := none, prev := some found } := by
          rw [Links.setPrev, Function.update_self, Links.setNext, Function.update_of_ne differs, unlinked]
        rw [List.getLast?_concat]
        exact own
    · intro other absent
      show (links.setNext found (some newElem)).setPrev newElem (some found) other = links other
      rw [written other fun same => absent (by simp [same]), Links.setNext,
        Function.update_of_ne fun same => absent (by simp [same])]

omit [DecidableEq Element] in
/-- A loop over a list visits its elements. -/
theorem elements_returns {before : Option Element} {elems : List Element} {bound : Nat}
    (strung : Strung links before elems none) (alive : ∀ elem ∈ elems, live elem = true)
    (enough : elems.length ≤ bound) :
    elements live links bound elems.head? = .ok elems := by
  induction elems generalizing before bound with
  | nil => cases bound <;> rfl
  | cons elem rest ih =>
      obtain ⟨bound, rfl⟩ : ∃ smaller, bound = smaller + 1 := ⟨bound - 1, by simp at enough; omega⟩
      rw [List.head?_cons, elements, access_live (alive elem List.mem_cons_self), Checked.ok_bind, strung.1,
        Option.or_none, ih strung.2 (fun other among => alive other (List.mem_cons_of_mem _ among))
          (by simp at enough; omega)]
      rfl

omit [DecidableEq Element] in
/-- A search passes the elements that the test refuses. -/
theorem find_behind {test : Element → Checked Bool} {before after : Option Element} {elems others : List Element}
    (bound : Nat) (strung : Strung links before (elems ++ others) after)
    (alive : ∀ elem ∈ elems, live elem = true) (refused : ∀ elem ∈ elems, test elem = .ok false) :
    find live links test (elems.length + bound) ((elems ++ others).head?.or after) =
      find live links test bound (others.head?.or after) := by
  induction elems generalizing before with
  | nil => rw [List.length_nil, Nat.zero_add, List.nil_append]
  | cons elem rest ih =>
      rw [List.length_cons, Nat.add_right_comm, List.cons_append, List.head?_cons, Option.some_or, find,
        access_live (alive elem List.mem_cons_self), Checked.ok_bind, refused elem List.mem_cons_self,
        Checked.ok_bind, strung.1]
      exact ih strung.2 (fun other among => alive other (List.mem_cons_of_mem _ among))
        fun other among => refused other (List.mem_cons_of_mem _ among)

omit [DecidableEq Element] in
/-- A search finds the first element that the test accepts. -/
theorem find_returns {test : Element → Checked Bool} {list : Option Element} {elems others : List Element}
    {elem : Element} {bound : Nat} (holds : Holds links list (elems ++ elem :: others))
    (alive : ∀ other ∈ elems ++ elem :: others, live other = true)
    (refused : ∀ other ∈ elems, test other = .ok false) (accepted : test elem = .ok true)
    (enough : (elems ++ elem :: others).length ≤ bound) : find live links test bound list = .ok (some elem) := by
  obtain ⟨spare, rfl⟩ : ∃ spare, bound = elems.length + (spare + 1) := ⟨bound - elems.length - 1, by
    rw [List.length_append, List.length_cons] at enough
    omega⟩
  have passed := find_behind (spare + 1) holds.strung
    (fun other among => alive other (List.mem_append_left _ among)) refused
  rw [Option.or_none] at passed
  rw [holds.head, passed, Option.or_none, List.head?_cons, find, access_live (alive elem (by simp)), Checked.ok_bind,
    accepted]
  rfl

omit [DecidableEq Element] in
/-- A search without match ends behind the last element. -/
theorem find_nothing {test : Element → Checked Bool} {list : Option Element} {elems : List Element} {bound : Nat}
    (holds : Holds links list elems) (alive : ∀ elem ∈ elems, live elem = true)
    (refused : ∀ elem ∈ elems, test elem = .ok false) (enough : elems.length ≤ bound) :
    find live links test bound list = .ok none := by
  obtain ⟨spare, rfl⟩ : ∃ spare, bound = elems.length + spare := ⟨bound - elems.length, by omega⟩
  have passed := @find_behind _ live links test none none elems [] spare (by simpa using holds.strung) alive refused
  rw [Option.or_none, List.append_nil] at passed
  rw [holds.head, passed]
  cases spare <;> rfl

end Links

end BelleSip
