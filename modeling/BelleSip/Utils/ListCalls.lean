import BelleSip.Utils.Lists

/-
This file proves that any calls of the list functions, on lists that different variables hold, do what the same calls
do on lists of items, without an access to an element that has been freed and without an element that is lost.
-/

namespace BelleSip

open Foundation

/-- A call of a list function. Each list is in a variable, and the variable is assigned what the function returns. -/
inductive ListCall (Var Data : Type) where
  | append (list : Var) (data : Data)
  | prepend (list : Var) (data : Data)
  | concat (first second : Var) (distinct : first ≠ second)
  | insert (list : Var) (test : Data → Bool) (data : Data)
  | insertSorted (list : Var) (data : Data) (compare : Data → Data → Int)
  | remove (list : Var) (data : Data)
  | deleteCustom (list : Var) (test : Data → Bool)
  | popFront (list : Var)
  | free (list : Var)
  | freeWithData (list : Var)
  | copy (list target : Var) (distinct : list ≠ target)
  | copyWithData (list target : Var) (distinct : list ≠ target) (copyfunc : Data → Data)
  | size (list : Var)
  | nthData (list : Var) (index : Int)
  | index (list : Var) (data : Data)
  | forEach (list : Var)

/-- What a call tells its caller, besides the list. -/
inductive ListAnswer (Data : Type) where
  | nothing
  | number (value : Int)
  | item (data : Option Data)
  | items (data : List Data)

/-- The elements of all lists, and the variables that hold the lists. -/
structure ListMemory (Var Data : Type) where
  heap : ListHeap Data
  vars : Var → Option Nat

variable {Var Data : Type} [DecidableEq Var] [DecidableEq Data]

namespace ListMemory

variable (malloc : List Nat → Nat) (memory : ListMemory Var Data)

omit [DecidableEq Data] in
/-- A list is assigned to a variable. -/
def assign (var : Var) (result : Checked (ListHeap Data × Option Nat)) :
    Checked (ListMemory Var Data × ListAnswer Data) := do
  let (heap, list) ← result
  return ({ heap, vars := Function.update memory.vars var list }, .nothing)

/-- The target of a copy is freed, before it is assigned. -/
def assignCopy (target : Var) (copied : ListHeap Data → Checked (ListHeap Data × Option Nat)) :
    Checked (ListMemory Var Data × ListAnswer Data) := do
  let (freed, _) ← memory.heap.free (memory.vars target)
  memory.assign target (copied freed)

def call : ListCall Var Data → Checked (ListMemory Var Data × ListAnswer Data)
  | .append list data => memory.assign list (memory.heap.append malloc (memory.vars list) data)
  | .prepend list data => memory.assign list (memory.heap.prepend malloc (memory.vars list) data)
  | .concat first second _ => do
      let (heap, list) ← memory.heap.concat (memory.vars first) (memory.vars second)
      return ({ heap, vars := Function.update (Function.update memory.vars first list) second none }, .nothing)
  | .insert list test data => memory.assign list (memory.heap.insertFound malloc (memory.vars list) test data)
  | .insertSorted list data compare =>
      memory.assign list (memory.heap.insertSorted malloc (memory.vars list) data compare)
  | .remove list data => memory.assign list (memory.heap.remove (memory.vars list) data)
  | .deleteCustom list test => memory.assign list (memory.heap.deleteCustom (memory.vars list) test)
  | .popFront list => do
      let (heap, rest, data) ← memory.heap.popFront (memory.vars list)
      return ({ heap, vars := Function.update memory.vars list rest }, .item data)
  | .free list => memory.assign list (memory.heap.free (memory.vars list))
  | .freeWithData list => do
      let (heap, empty, freed) ← memory.heap.freeWithData (memory.vars list)
      return ({ heap, vars := Function.update memory.vars list empty }, .items freed)
  | .copy list target _ => memory.assignCopy target fun heap => heap.copy malloc (memory.vars list)
  | .copyWithData list target _ copyfunc =>
      memory.assignCopy target fun heap => heap.copyWithData malloc (memory.vars list) copyfunc
  | .size list => do
      let count ← memory.heap.size memory.heap.bound (memory.vars list)
      return (memory, .number count)
  | .nthData list index => do
      let data ← memory.heap.nthData index memory.heap.bound (memory.vars list) 0
      return (memory, .item data)
  | .index list data => do
      let place ← memory.heap.index data memory.heap.bound (memory.vars list) 0
      return (memory, .number place)
  | .forEach list => do
      let data ← memory.heap.forEach (memory.vars list)
      return (memory, .items data)

def calls : ListMemory Var Data → List (ListCall Var Data) → Checked (ListMemory Var Data × List (ListAnswer Data))
  | memory, [] => .ok (memory, [])
  | memory, next :: rest => do
      let (memory, answer) ← memory.call malloc next
      let (memory, answers) ← calls memory rest
      return (memory, answer :: answers)

end ListMemory

/-- What a call does when each variable holds its items. -/
def ListCall.perform (items : Var → List Data) : ListCall Var Data → (Var → List Data) × ListAnswer Data
  | .append list data => (Function.update items list (items list ++ [data]), .nothing)
  | .prepend list data => (Function.update items list (data :: items list), .nothing)
  | .concat first second _ =>
      (Function.update (Function.update items first (items first ++ items second)) second [], .nothing)
  | .insert list test data =>
      (Function.update items list ((items list).takeWhile (fun item => !test item) ++
        data :: (items list).dropWhile fun item => !test item), .nothing)
  | .insertSorted list data compare =>
      (Function.update items list ((items list).orderedInsert (fun first second => compare first second ≤ 0) data),
        .nothing)
  | .remove list data => (Function.update items list ((items list).erase data), .nothing)
  | .deleteCustom list test => (Function.update items list ((items list).eraseP test), .nothing)
  | .popFront list => (Function.update items list (items list).tail, .item (items list).head?)
  | .free list => (Function.update items list [], .nothing)
  | .freeWithData list => (Function.update items list [], .items (items list))
  | .copy list target _ => (Function.update items target (items list), .nothing)
  | .copyWithData list target _ copyfunc => (Function.update items target ((items list).map copyfunc), .nothing)
  | .size list => (items, .number (items list).length)
  | .nthData list place => (items, .item (if place < 0 then none else (items list)[place.toNat]?))
  | .index list data => (items, .number (if data ∈ items list then (items list).idxOf data else -1))
  | .forEach list => (items, .items (items list))

def ListCall.performAll : (Var → List Data) → List (ListCall Var Data) → (Var → List Data) × List (ListAnswer Data)
  | items, [] => (items, [])
  | items, next :: rest =>
      let (items, answer) := next.perform items
      let (items, answers) := performAll items rest
      (items, answer :: answers)

namespace ListMemory

omit [DecidableEq Var] [DecidableEq Data] in
/-- The lists have different elements, which are all the elements that are alive. -/
structure Layout (memory : ListMemory Var Data) (items : Var → List Data) (cells : Var → List Nat) : Prop where
  holds (var : Var) : Links.Holds memory.heap.links (memory.vars var) (cells var)
  content (var : Var) : (cells var).map memory.heap.data = items var
  apart (first second : Var) : first ≠ second → (cells first).Disjoint (cells second)
  live (elem : Nat) : elem ∈ memory.heap.live ↔ ∃ var, elem ∈ cells var
  nodup : memory.heap.live.Nodup

def Represents (memory : ListMemory Var Data) (items : Var → List Data) : Prop := ∃ cells, memory.Layout items cells

variable {malloc : List Nat → Nat} {memory : ListMemory Var Data} {items : Var → List Data} {cells : Var → List Nat}

namespace Layout

omit [DecidableEq Var] [DecidableEq Data] in
/-- The other elements are those of the lists that some variables hold. -/
theorem has (layout : memory.Layout items cells) {var : Var} {others : List Nat} (apart : others.Nodup)
    (among : ∀ elem, elem ∈ others ↔ ∃ other, other ≠ var ∧ elem ∈ cells other) :
    memory.heap.Has (memory.vars var) (cells var) others := by
  refine ⟨layout.holds var, ?_, layout.nodup⟩
  refine (List.perm_ext_iff_of_nodup layout.nodup ?_).mpr fun elem => ?_
  · refine List.nodup_append.mpr ⟨(layout.holds var).nodup, apart, fun elem inside other outside same => ?_⟩
    obtain ⟨owner, differs, owned⟩ := (among other).mp outside
    exact layout.apart var owner differs.symm inside (same ▸ owned)
  · rw [layout.live, List.mem_append, among]
    constructor
    · intro ⟨owner, owned⟩
      by_cases same : owner = var
      · exact Or.inl (same ▸ owned)
      · exact Or.inr ⟨owner, same, owned⟩
    · intro owned
      rcases owned with owned | ⟨owner, _, owned⟩
      · exact ⟨var, owned⟩
      · exact ⟨owner, owned⟩

omit [DecidableEq Var] [DecidableEq Data] in
/-- A list is made for a variable. Other variables keep their lists, or become empty. -/
theorem rebuild (layout : memory.Layout items cells) (var : Var) {others : List Nat} {after : ListMemory Var Data}
    {changed : Var → List Data} {moved : Var → List Nat}
    (has : after.heap.Has (after.vars var) (moved var) others)
    (content : (moved var).map after.heap.data = changed var) (spares : memory.heap.Spares after.heap others)
    (among : ∀ elem, elem ∈ others ↔ ∃ other, other ≠ var ∧ elem ∈ moved other)
    (kept : ∀ other, other ≠ var →
      after.vars other = memory.vars other ∧ changed other = items other ∧ moved other = cells other ∨
      after.vars other = none ∧ changed other = [] ∧ moved other = []) :
    after.Layout changed moved := by
  have outside {other : Var} (differs : other ≠ var) {elem : Nat} (inside : elem ∈ moved other) : elem ∈ others :=
    (among elem).mpr ⟨other, differs, inside⟩
  have apart := List.disjoint_of_nodup_append has.apart
  refine ⟨fun other => ?_, fun other => ?_, fun first second differs => ?_, fun elem => ?_, has.nodup⟩
  · by_cases same : other = var
    · exact same ▸ has.holds
    · rcases kept other same with ⟨vars, _, whole⟩ | ⟨vars, _, empty⟩
      · rw [vars, whole]
        have holds := layout.holds other
        exact ⟨holds.head, holds.strung.congr fun elem inside => (spares elem (outside same (whole ▸ inside))).1,
          holds.nodup⟩
      · rw [vars, empty]
        exact ⟨rfl, trivial, List.nodup_nil⟩
  · by_cases same : other = var
    · exact same ▸ content
    · rcases kept other same with ⟨_, unchanged, whole⟩ | ⟨_, none, empty⟩
      · rw [unchanged, ← layout.content other, whole]
        exact List.map_congr_left fun elem inside => (spares elem (outside same (whole ▸ inside))).2
      · rw [none, empty]
        rfl
  · intro elem inFirst inSecond
    by_cases firstSame : first = var
    · subst firstSame
      exact apart inFirst (outside differs.symm inSecond)
    · by_cases secondSame : second = var
      · subst secondSame
        exact apart inSecond (outside firstSame inFirst)
      · rcases kept first firstSame with ⟨_, _, wholeFirst⟩ | ⟨_, _, empty⟩
        · rcases kept second secondSame with ⟨_, _, wholeSecond⟩ | ⟨_, _, empty⟩
          · exact layout.apart first second differs (wholeFirst ▸ inFirst) (wholeSecond ▸ inSecond)
          · exact List.not_mem_nil (empty ▸ inSecond)
        · exact List.not_mem_nil (empty ▸ inFirst)
  · rw [has.live.mem_iff, List.mem_append, among]
    constructor
    · intro owned
      rcases owned with owned | ⟨owner, _, owned⟩
      · exact ⟨var, owned⟩
      · exact ⟨owner, owned⟩
    · intro ⟨owner, owned⟩
      by_cases same : owner = var
      · exact Or.inl (same ▸ owned)
      · exact Or.inr ⟨owner, same, owned⟩

omit [DecidableEq Var] [DecidableEq Data] in
/-- The elements of the lists that other variables hold. -/
theorem others_of (layout : memory.Layout items cells) (var : Var) :
    ∃ others : List Nat, (∀ elem, elem ∈ others ↔ ∃ other, other ≠ var ∧ elem ∈ cells other) ∧
      memory.heap.Has (memory.vars var) (cells var) others := by
  have among (elem : Nat) : elem ∈ memory.heap.live.filter (fun elem => elem ∉ cells var) ↔
      ∃ other, other ≠ var ∧ elem ∈ cells other := by
    rw [List.mem_filter, layout.live, decide_eq_true_iff]
    constructor
    · intro ⟨⟨owner, owned⟩, absent⟩
      exact ⟨owner, fun same => absent (same ▸ owned), owned⟩
    · intro ⟨owner, differs, owned⟩
      exact ⟨⟨owner, owned⟩, fun inside => layout.apart owner var differs owned inside⟩
  exact ⟨_, among, layout.has (layout.nodup.filter _) among⟩

omit [DecidableEq Data] in
/-- A variable is assigned a list that has been made. -/
theorem assigned (layout : memory.Layout items cells) {var : Var} {others elems : List Nat} {heap : ListHeap Data}
    {list : Option Nat} {changed : List Data}
    (among : ∀ elem, elem ∈ others ↔ ∃ other, other ≠ var ∧ elem ∈ cells other) (has : heap.Has list elems others)
    (content : elems.map heap.data = changed) (spares : memory.heap.Spares heap others) :
    ListMemory.Represents { heap, vars := Function.update memory.vars var list }
      (Function.update items var changed) := by
  refine ⟨Function.update cells var elems, layout.rebuild var ?_ ?_ spares ?_ ?_⟩
  · simpa only [Function.update_self] using has
  · simpa only [Function.update_self] using content
  · intro elem
    rw [among]
    refine exists_congr fun other => and_congr_right fun differs => ?_
    rw [Function.update_of_ne differs]
  · intro other differs
    exact Or.inl ⟨Function.update_of_ne differs _ _, Function.update_of_ne differs _ _,
      Function.update_of_ne differs _ _⟩

end Layout

omit [DecidableEq Data] in
/-- A function makes the new list of a variable. -/
theorem assign_represents {var : Var} {changed : List Data} {result : Checked (ListHeap Data × Option Nat)}
    (represents : memory.Represents items)
    (makes : ∀ elems others, memory.heap.Has (memory.vars var) elems others → elems.map memory.heap.data = items var →
      memory.heap.Makes others changed result) :
    Checked.Returns (memory.assign var result) fun (after, answer) =>
      after.Represents (Function.update items var changed) ∧ answer = .nothing := by
  obtain ⟨cells, layout⟩ := represents
  obtain ⟨others, among, has⟩ := layout.others_of var
  refine Checked.returns_bind.mpr ((makes _ _ has (layout.content var)).mono ?_)
  intro (heap, list) ⟨elems, made, content, spares⟩
  exact Checked.returns_pure.mpr ⟨layout.assigned among made content spares, rfl⟩

omit [DecidableEq Data] in
/-- The copy of a list is made beside all lists, once the target is empty. -/
theorem assignCopy_represents {list target : Var} {changed : List Data}
    {copied : ListHeap Data → Checked (ListHeap Data × Option Nat)} (represents : memory.Represents items)
    (distinct : list ≠ target)
    (makes : ∀ (heap : ListHeap Data) elems others, heap.Has (memory.vars list) elems others →
      elems.map heap.data = items list → heap.Makes (elems ++ others) changed (copied heap)) :
    Checked.Returns (memory.assignCopy target copied) fun (after, answer) =>
      after.Represents (Function.update items target changed) ∧ answer = .nothing := by
  obtain ⟨cells, layout⟩ := represents
  obtain ⟨others, among, has⟩ := layout.others_of target
  refine Checked.returns_bind.mpr ((ListHeap.free_makes has).mono ?_)
  intro (freed, empty) ⟨elems, made, content, spares⟩
  have emptied := layout.assigned among made content spares
  have same : Function.update items target [] list = items list := Function.update_of_ne distinct _ _
  obtain ⟨_, between⟩ := emptied
  obtain ⟨_, _, hasList⟩ := between.others_of list
  have hasCopied : freed.Has (Function.update memory.vars target empty list) _ _ := hasList
  rw [Function.update_of_ne distinct] at hasCopied
  have copies := makes freed _ _ hasCopied ((between.content list).trans same)
  have again : ListMemory.assign { heap := freed, vars := Function.update memory.vars target empty } target
      (copied freed) = memory.assign target (copied freed) := by
    simp only [assign, Function.update_idem]
  have idem : Function.update (Function.update items target []) target changed = Function.update items target changed :=
    Function.update_idem ..
  show Checked.Returns (memory.assign target (copied freed)) _
  rw [← again, ← idem]
  refine assign_represents ⟨_, between⟩ fun elems others hasTarget none => ?_
  have unlisted : elems = [] := by
    rw [Function.update_self] at none
    exact List.map_eq_nil_iff.mp none
  subst unlisted
  exact copies.perm (hasList.live.symm.trans hasTarget.live)

omit [DecidableEq Data] in
/-- The first list gets the elements of the second one, which becomes empty. -/
theorem concat_represents {first second : Var} (distinct : first ≠ second) (represents : memory.Represents items) :
    Checked.Returns (memory.heap.concat (memory.vars first) (memory.vars second)) fun (heap, list) =>
      ListMemory.Represents
        { heap, vars := Function.update (Function.update memory.vars first list) second none }
        (Function.update (Function.update items first (items first ++ items second)) second []) := by
  obtain ⟨cells, layout⟩ := represents
  have rest (elem : Nat) :
      elem ∈ memory.heap.live.filter (fun elem => elem ∉ cells first ∧ elem ∉ cells second) ↔
        ∃ other, other ≠ first ∧ other ≠ second ∧ elem ∈ cells other := by
    rw [List.mem_filter, layout.live, decide_eq_true_iff]
    constructor
    · intro ⟨⟨owner, owned⟩, notFirst, notSecond⟩
      exact ⟨owner, fun same => notFirst (same ▸ owned), fun same => notSecond (same ▸ owned), owned⟩
    · intro ⟨owner, notFirst, notSecond, owned⟩
      exact ⟨⟨owner, owned⟩, layout.apart owner first notFirst owned, layout.apart owner second notSecond owned⟩
  have apart := layout.nodup.filter fun elem => elem ∉ cells first ∧ elem ∉ cells second
  generalize memory.heap.live.filter (fun elem => elem ∉ cells first ∧ elem ∉ cells second) = others at rest apart
  have has : memory.heap.Has (memory.vars first) (cells first) (cells second ++ others) := by
    refine layout.has ?_ fun elem => ?_
    · refine List.nodup_append.mpr ⟨(layout.holds second).nodup, apart, fun elem inside other outside same => ?_⟩
      obtain ⟨owner, _, differs, owned⟩ := (rest other).mp outside
      exact layout.apart second owner differs.symm inside (same ▸ owned)
    · rw [List.mem_append, rest]
      constructor
      · intro owned
        rcases owned with owned | ⟨owner, notFirst, _, owned⟩
        · exact ⟨second, distinct.symm, owned⟩
        · exact ⟨owner, notFirst, owned⟩
      · intro ⟨owner, notFirst, owned⟩
        by_cases same : owner = second
        · exact Or.inl (same ▸ owned)
        · exact Or.inr ⟨owner, notFirst, same, owned⟩
  refine (ListHeap.concat_makes has (layout.holds second)).mono ?_
  intro (heap, list) ⟨elems, made, content, spares⟩
  refine ⟨Function.update (Function.update cells first elems) second [], layout.rebuild first
    ?_ ?_ spares ?_ ?_⟩
  · simpa only [Function.update_of_ne distinct, Function.update_self] using made
  · simp only [Function.update_of_ne distinct, Function.update_self]
    rw [content, layout.content, layout.content]
  · intro elem
    rw [rest]
    refine exists_congr fun other => and_congr_right fun differs => ?_
    by_cases same : other = second
    · simp [same]
    · rw [Function.update_of_ne same, Function.update_of_ne differs]
      exact and_iff_right same
  · intro other differs
    by_cases same : other = second
    · subst same
      exact Or.inr ⟨Function.update_self .., Function.update_self .., Function.update_self ..⟩
    · simp only [Function.update_of_ne same, Function.update_of_ne differs, and_self, true_or]

omit [DecidableEq Var] [DecidableEq Data] in
/-- A function that leaves the lists alone answers from their elements. -/
theorem answers {Value : Type} (var : Var) {result : Checked Value} {value : Value}
    (represents : memory.Represents items)
    (reads : ∀ elems others, memory.heap.Has (memory.vars var) elems others → elems.map memory.heap.data = items var →
      result = .ok value) (answer : Value → ListAnswer Data) :
    Checked.Returns (do
      let value ← result
      return (memory, answer value)) fun (after, told) => after.Represents items ∧ told = answer value := by
  obtain ⟨cells, layout⟩ := represents
  obtain ⟨others, _, has⟩ := layout.others_of var
  rw [reads _ _ has (layout.content var)]
  exact Checked.returns_pure.mpr ⟨⟨cells, layout⟩, rfl⟩

/-- Each call does in memory what it does on items. -/
theorem call_performs (fresh : ∀ live, malloc live ∉ live) (represents : memory.Represents items)
    (next : ListCall Var Data) :
    Checked.Returns (memory.call malloc next) fun (after, answer) =>
      after.Represents (next.perform items).1 ∧ answer = (next.perform items).2 := by
  cases next with
  | append list data =>
      refine assign_represents represents fun elems others has content => ?_
      rw [← content]
      exact ListHeap.append_makes fresh data has
  | prepend list data =>
      refine assign_represents represents fun elems others has content => ?_
      rw [← content]
      exact ListHeap.prepend_makes fresh data has
  | concat first second distinct =>
      exact Checked.returns_bind.mpr ((concat_represents distinct represents).mono fun _ after =>
        Checked.returns_pure.mpr ⟨after, rfl⟩)
  | insert list test data =>
      refine assign_represents represents fun elems others has content => ?_
      rw [← content]
      exact ListHeap.insertFound_makes fresh data has test
  | insertSorted list data compare =>
      refine assign_represents represents fun elems others has content => ?_
      rw [← content]
      exact ListHeap.insertSorted_makes fresh data has compare
  | remove list data =>
      refine assign_represents represents fun elems others has content => ?_
      rw [← content]
      exact ListHeap.remove_makes has data
  | deleteCustom list test =>
      refine assign_represents represents fun elems others has content => ?_
      rw [← content]
      exact ListHeap.deleteCustom_makes has test
  | popFront list =>
      obtain ⟨cells, layout⟩ := represents
      obtain ⟨others, among, has⟩ := layout.others_of list
      refine Checked.returns_bind.mpr ((ListHeap.popFront_makes has).mono ?_)
      intro (heap, rest, data) ⟨front, makes⟩
      obtain ⟨elems, made, content, spares⟩ := Checked.returns_ok.mp makes
      rw [layout.content] at content front
      exact Checked.returns_pure.mpr ⟨layout.assigned among made content spares, congrArg ListAnswer.item front⟩
  | free list =>
      exact assign_represents represents fun elems others has _ => ListHeap.free_makes has
  | freeWithData list =>
      obtain ⟨cells, layout⟩ := represents
      obtain ⟨others, among, has⟩ := layout.others_of list
      refine Checked.returns_bind.mpr ((ListHeap.freeWithData_makes has).mono ?_)
      intro (heap, empty, freed) ⟨given, makes⟩
      obtain ⟨elems, made, content, spares⟩ := Checked.returns_ok.mp makes
      rw [layout.content] at given
      exact Checked.returns_pure.mpr ⟨layout.assigned among made content spares, congrArg ListAnswer.items given⟩
  | copy list target distinct =>
      show Checked.Returns (memory.assignCopy target fun heap => heap.copy malloc (memory.vars list)) _
      refine assignCopy_represents represents distinct fun heap elems others has content => ?_
      rw [← content]
      exact ListHeap.copy_makes fresh has
  | copyWithData list target distinct copyfunc =>
      show Checked.Returns
        (memory.assignCopy target fun heap => heap.copyWithData malloc (memory.vars list) copyfunc) _
      refine assignCopy_represents represents distinct fun heap elems others has content => ?_
      rw [← content]
      exact ListHeap.copyWithData_makes fresh has copyfunc
  | size list =>
      refine answers list represents (fun elems others has content => ?_) ListAnswer.number
      rw [has.holds.head, ← content, List.length_map]
      exact ListHeap.size_returns has.holds.strung has.members has.length_le
  | nthData list place =>
      refine answers list represents (fun elems others has content => ?_) ListAnswer.item
      have found := ListHeap.nthData_returns has.holds.strung has.members has.length_le place 0
      rw [has.holds.head, ← content, found, Int.sub_zero]
  | index list data =>
      refine answers list represents (fun elems others has content => ?_) ListAnswer.number
      have found := ListHeap.index_returns has.holds.strung has.members has.length_le data 0
      rw [has.holds.head, ← content]
      simpa using found
  | forEach list =>
      refine answers list represents (fun elems others has content => ?_) ListAnswer.items
      rw [← content]
      exact ListHeap.forEach_returns has

theorem calls_represent (fresh : ∀ live, malloc live ∉ live) (represents : memory.Represents items)
    (rest : List (ListCall Var Data)) :
    Checked.Returns (memory.calls malloc rest) fun (after, answers) =>
      after.Represents (ListCall.performAll items rest).1 ∧ answers = (ListCall.performAll items rest).2 := by
  induction rest generalizing memory items with
  | nil => exact Checked.returns_ok.mpr ⟨represents, rfl⟩
  | cons next rest ih =>
      refine Checked.returns_bind.mpr ((call_performs fresh represents next).mono ?_)
      intro (after, answer) ⟨kept, told⟩
      refine Checked.returns_bind.mpr ((ih kept).mono ?_)
      intro (last, answers) ⟨represented, toldAll⟩
      exact Checked.returns_pure.mpr ⟨represented, congrArg₂ List.cons told toldAll⟩

/--
Any calls return. Their answers and the items of each list are those that the calls have on lists of items, and each
element that is still alive is in a list that some variable holds.
-/
theorem calls_perform (fresh : ∀ live, malloc live ∉ live) (heap : ListHeap Data) (unused : heap.live = [])
    (sequence : List (ListCall Var Data)) :
    Checked.Returns (ListMemory.calls malloc { heap, vars := fun _ => none } sequence) fun (after, answers) =>
      answers = (ListCall.performAll (fun _ => []) sequence).2 ∧
      (∀ var, after.heap.forEach (after.vars var) = .ok ((ListCall.performAll (fun _ => []) sequence).1 var)) ∧
      ∀ elem ∈ after.heap.live, ∃ var elems,
        Links.elements after.heap.isLive after.heap.links after.heap.bound (after.vars var) = .ok elems ∧
          elem ∈ elems := by
  have empty : ListMemory.Represents { heap, vars := fun _ : Var => none } fun _ => [] :=
    ⟨fun _ => [],
      { holds := fun _ => ⟨rfl, trivial, List.nodup_nil⟩
        content := fun _ => rfl
        apart := fun _ _ _ => List.disjoint_nil_left _
        live := fun elem => by simp [unused]
        nodup := by simp [unused] }⟩
  refine (calls_represent fresh empty sequence).mono ?_
  intro (after, answers) ⟨⟨cells, layout⟩, told⟩
  refine ⟨told, fun var => ?_, fun elem alive => ?_⟩
  · obtain ⟨others, _, has⟩ := layout.others_of var
    rw [← layout.content var]
    exact ListHeap.forEach_returns has
  · obtain ⟨var, inside⟩ := (layout.live elem).mp alive
    obtain ⟨others, _, has⟩ := layout.others_of var
    refine ⟨var, cells var, ?_, inside⟩
    rw [has.holds.head]
    exact Links.elements_returns has.holds.strung has.members has.length_le

/-- An allocator, which takes an element beyond those that are alive. -/
def nextElem : List Nat → Nat
  | [] => 0
  | elem :: rest => elem + 1 + nextElem rest

omit [DecidableEq Var] [DecidableEq Data] in
theorem nextElem_absent (live : List Nat) : nextElem live ∉ live := by
  have beyond : ∀ elem ∈ live, elem < nextElem live := by
    induction live with
    | nil => simp
    | cons first rest ih =>
        intro elem inside
        rcases List.mem_cons.mp inside with rfl | inside
        · rw [nextElem]
          omega
        · have later := ih elem inside
          rw [nextElem]
          omega
  exact fun inside => Nat.lt_irrefl _ (beyond _ inside)

/-- A list that is kept in order is copied, before its first item is taken. -/
theorem calls_perform_sorted :
    Checked.Returns
      (ListMemory.calls nextElem
        { heap := { links := fun _ => {}, data := fun _ => 0, live := [] }, vars := fun _ : Bool => none }
        [.append true 3, .insertSorted true 1 (fun first second => (first : Int) - second),
          .insertSorted true 2 fun first second => (first : Int) - second,
          .copy true false (by decide), .popFront true, .nthData false 2])
      fun (after, answers) =>
        answers = [.nothing, .nothing, .nothing, .nothing, .item (some 1), .item (some 3)] ∧
        after.heap.forEach (after.vars true) = .ok [2, 3] ∧ after.heap.forEach (after.vars false) = .ok [1, 2, 3] :=
  (calls_perform nextElem_absent _ rfl _).mono fun _ told => ⟨told.1, told.2.1 true, told.2.1 false⟩

end ListMemory

end BelleSip
