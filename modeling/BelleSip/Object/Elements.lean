import BelleSip.Object.Pool

/-
This file relates the objects that are alive to the elements of the pools, and proves how the functions of the pools
change both.
-/

namespace BelleSip.Object

open Foundation

def Frame.deleted : Frame → Option Nat
  | .deleting obj => some obj
  | .cleaning _ _ => none

def Frame.cleaned : Frame → Option Nat
  | .deleting _ => none
  | .cleaning pool _ => some pool

namespace Memory

/-- The object was created, and its destruction has not begun. -/
def Alive (memory : Memory) (obj : Nat) : Prop := obj < memory.created ∧ memory.deletions obj = 0

/-- The list of a pool has the elements. Once the cleaning of a pool has freed an element, the pool points to an element
that was freed, until the cleaning ends; `opened` is the pool whose cleaning is between two elements. -/
inductive Lists (memory : Memory) (opened : Option Nat) (pool : Nat) (elems : List Nat) : Prop where
  | whole (holds : Links.Holds memory.links (memory.objects pool) elems)
  | begun (gone : Nat) (before : Option Nat) (points : memory.objects pool = some gone)
      (dead : memory.live gone = false) (known : gone < memory.allocated)
      (strung : Links.Strung memory.links before elems none) (nodup : elems.Nodup)
      (cleaning : opened = some pool ∨ ∃ elem ∈ elems.head?, .cleaning pool elem ∈ memory.frames)

/-- The objects that are alive and the elements of the pools belong together. -/
structure Linked (memory : Memory) (lists : Nat → List Nat) (opened : Option Nat) : Prop where
  strung : ∀ pool, memory.Lists opened pool (lists pool)
  live : ∀ pool, ∀ elem ∈ lists pool, memory.live elem = true
  fresh : ∀ elem, memory.allocated ≤ elem → memory.live elem = false
  apart : ∀ first second, ∀ elem ∈ lists first, elem ∈ lists second → first = second
  pooled : ∀ pool, ∀ elem ∈ lists pool,
    memory.Alive (memory.data elem) ∧ (memory.object (memory.data elem)).pool = some pool ∧
        (memory.object (memory.data elem)).poolIterator = some elem ∨
      .cleaning pool elem ∈ memory.frames
  listed : ∀ obj pool, memory.Alive obj → (memory.object obj).pool = some pool →
    ∃ elem ∈ lists pool, memory.data elem = obj
  cleaning : ∀ pool elem, .cleaning pool elem ∈ memory.frames →
    elem ∈ lists pool ∧ memory.deletions (memory.data elem) = 1
  nested : (memory.frames.filterMap Frame.cleaned).Nodup

/-- An object is in a pool where it has no references, and its destruction happens once. -/
structure Counted (memory : Memory) : Prop where
  alive : ∀ obj, memory.Alive obj → memory.freed obj = false ∧ 0 ≤ (memory.object obj).ref ∧
    ((memory.object obj).ref = 0 ↔ (memory.object obj).pool ≠ none)
  dying : ∀ obj, .deleting obj ∈ memory.frames → memory.deletions obj = 1 ∧ memory.freed obj = false ∧
    ((memory.object obj).ref = -1 ∨ (memory.object obj).ref = 0 ∧ (memory.object obj).pool = none)
  destroyed : ∀ obj, memory.deletions obj ≠ 0 →
    memory.deletions obj = 1 ∧ (memory.freed obj = true ∨ .deleting obj ∈ memory.frames)
  freed : ∀ obj, memory.freed obj = true → memory.deletions obj = 1
  fresh : ∀ obj, memory.created ≤ obj → memory.deletions obj = 0
  nested : (memory.frames.filterMap Frame.deleted).Nodup

variable {memory : Memory} {lists : Nat → List Nat} {opened : Option Nat} {pool obj elem : Nat}

theorem setObject_self (memory : Memory) (obj : Nat) (header : Header) :
    (memory.setObject obj header).object obj = header := Function.update_self _ _ _

theorem setObject_of_ne {other : Nat} (differs : other ≠ obj) (memory : Memory) (header : Header) :
    (memory.setObject obj header).object other = memory.object other := Function.update_of_ne differs _ _

theorem access_of_not_freed (stays : memory.freed obj = false) : memory.access obj = .ok () := by
  rw [Memory.access, stays]
  rfl

theorem mem_cleaned {frames : List Frame} :
    pool ∈ frames.filterMap Frame.cleaned ↔ ∃ elem, .cleaning pool elem ∈ frames := by
  rw [List.mem_filterMap]
  constructor
  · rintro ⟨frame, among, same⟩
    cases frame with
    | deleting obj => exact absurd same (by simp [Frame.cleaned])
    | cleaning other elem =>
        obtain rfl : other = pool := Option.some.inj same
        exact ⟨elem, among⟩
  · rintro ⟨elem, among⟩
    exact ⟨_, among, rfl⟩

theorem mem_deleted {frames : List Frame} : obj ∈ frames.filterMap Frame.deleted ↔ .deleting obj ∈ frames := by
  rw [List.mem_filterMap]
  constructor
  · rintro ⟨frame, among, same⟩
    cases frame with
    | deleting other =>
        obtain rfl : other = obj := Option.some.inj same
        exact among
    | cleaning pool elem => exact absurd same (by simp [Frame.deleted])
  · exact fun among => ⟨_, among, rfl⟩

/-- The memory of the elements of a list has not changed. -/
theorem Lists.congr {changed : Memory} {elems : List Nat} (listed : memory.Lists opened pool elems)
    (links : ∀ elem ∈ elems, changed.links elem = memory.links elem)
    (objects : changed.objects pool = memory.objects pool)
    (dead : ∀ elem < memory.allocated, memory.live elem = false → changed.live elem = false)
    (allocated : memory.allocated ≤ changed.allocated)
    (frames : ∀ elem, .cleaning pool elem ∈ memory.frames → .cleaning pool elem ∈ changed.frames) :
    changed.Lists opened pool elems := by
  cases listed with
  | whole holds => exact .whole ⟨objects.trans holds.head, holds.strung.congr links, holds.nodup⟩
  | begun gone before points deadGone known strung nodup cleaning =>
      refine .begun gone before (objects.trans points) (dead gone known deadGone) (by omega) (strung.congr links)
        nodup ?_
      exact cleaning.imp_right fun ⟨elem, head, among⟩ => ⟨elem, head, frames elem among⟩

/-- The references of an object change. -/
theorem Linked.setObject (linked : memory.Linked lists opened) {header : Header}
    (pool : header.pool = (memory.object obj).pool)
    (iterator : header.poolIterator = (memory.object obj).poolIterator) :
    (memory.setObject obj header).Linked lists opened := by
  have samePool : ∀ other, ((memory.setObject obj header).object other).pool = (memory.object other).pool := by
    intro other
    by_cases same : other = obj
    · rw [same, setObject_self, pool]
    · rw [setObject_of_ne same]
  have sameIterator : ∀ other,
      ((memory.setObject obj header).object other).poolIterator = (memory.object other).poolIterator := by
    intro other
    by_cases same : other = obj
    · rw [same, setObject_self, iterator]
    · rw [setObject_of_ne same]
  refine { linked with strung := ?_, pooled := ?_, listed := ?_ }
  · exact fun pool => (linked.strung pool).congr (fun _ _ => rfl) rfl (fun _ _ dead => dead) (Nat.le_refl _) fun _ => id
  · intro pool elem among
    rcases linked.pooled pool elem among with ⟨alive, inPool, points⟩ | cleaning
    · exact .inl ⟨alive, (samePool _).trans inPool, (sameIterator _).trans points⟩
    · exact .inr cleaning
  · intro other pool alive inPool
    exact linked.listed other pool alive ((samePool other).symm.trans inPool)

theorem Counted.setObject (counted : memory.Counted) {header : Header}
    (alive : memory.Alive obj → 0 ≤ header.ref ∧ (header.ref = 0 ↔ header.pool ≠ none))
    (dying : .deleting obj ∈ memory.frames → header.ref = -1 ∨ header.ref = 0 ∧ header.pool = none) :
    (memory.setObject obj header).Counted := by
  refine { counted with alive := ?_, dying := ?_ }
  · intro other living
    have living : memory.Alive other := living
    refine ⟨(counted.alive other living).1, ?_⟩
    by_cases same : other = obj
    · rw [same, setObject_self]
      exact alive (same ▸ living)
    · rw [setObject_of_ne same]
      exact (counted.alive other living).2
  · intro other deleting
    obtain ⟨once, stays, ref⟩ := counted.dying other deleting
    refine ⟨once, stays, ?_⟩
    by_cases same : other = obj
    · rw [same, setObject_self]
      exact dying (same ▸ deleting)
    · rw [setObject_of_ne same]
      exact ref

/-- The element of an object that is alive, in the pool of the object. -/
theorem Linked.element (linked : memory.Linked lists opened) (alive : memory.Alive obj)
    (inPool : (memory.object obj).pool = some pool) :
    ∃ elem ∈ lists pool, (memory.object obj).poolIterator = some elem ∧ memory.data elem = obj ∧
      .cleaning pool elem ∉ memory.frames := by
  obtain ⟨elem, among, rfl⟩ := linked.listed obj pool alive inPool
  have current : .cleaning pool elem ∉ memory.frames := by
    intro cleaning
    have once := (linked.cleaning pool elem cleaning).2
    rw [alive.2] at once
    exact absurd once (by decide)
  obtain ⟨-, -, points⟩ := (linked.pooled pool elem among).resolve_right current
  exact ⟨elem, among, points, rfl, current⟩

/-- An element that is not the first one of a cleaning leaves the list of its pool. -/
theorem Lists.remove {before others : List Nat} (listed : memory.Lists opened pool (before ++ elem :: others))
    (alive : ∀ other ∈ before ++ elem :: others, memory.live other = true)
    (opens : opened ≠ some pool) (current : .cleaning pool elem ∉ memory.frames) :
    Checked.Returns (Links.removeLink memory.live memory.links (memory.objects pool) elem) fun removed =>
      (∀ obj header, Lists { memory.setObject obj header with
        live := Function.update memory.live elem false
        links := removed.1
        objects := Function.update memory.objects pool removed.2 } opened pool (before ++ others)) ∧
      ∀ other ∉ before ++ elem :: others, removed.1 other = memory.links other := by
  cases listed with
  | whole holds =>
      refine (Links.removeLink_returns holds alive).mono ?_
      rintro ⟨links, first⟩ ⟨rest, -, same⟩
      refine ⟨fun obj header => .whole ?_, same⟩
      dsimp only
      rw [Function.update_self]
      exact rest
  | begun gone gap points dead known strung nodup cleaning =>
      obtain ⟨first, head, cleans⟩ := cleaning.resolve_left opens
      have notGone : memory.objects pool ≠ some elem := by
        rw [points]
        rintro same
        rw [Option.some.inj same, alive elem (by simp)] at dead
        exact absurd dead (by decide)
      rcases List.eq_nil_or_concat before with rfl | ⟨front, last, rfl⟩
      · obtain rfl : elem = first := Option.some.inj head
        exact absurd cleans current
      · rw [List.concat_eq_append] at *
        refine (Links.removeBehind_returns strung nodup alive notGone).mono ?_
        rintro ⟨links, list⟩ ⟨kept, rest, -, same⟩
        dsimp only at kept rest same
        refine ⟨fun obj header => .begun gone gap ?_ ?_ known rest (nodup.sublist (by simp)) ?_, same⟩
        · dsimp only
          rw [Function.update_self, kept, points]
        · show Function.update memory.live elem false gone = false
          by_cases equal : gone = elem
          · rw [equal, Function.update_self]
          · rw [Function.update_of_ne equal, dead]
        · refine .inr ⟨first, ?_, cleans⟩
          rw [List.append_assoc] at head ⊢
          cases front <;> exact head

/-- The element of an object that is alive is removed from its pool and freed. -/
theorem poolRemove_returns (linked : memory.Linked lists none) (alive : memory.Alive obj)
    (inPool : (memory.object obj).pool = some pool) :
    Checked.Returns (memory.poolRemove pool obj) fun removed =>
      (∃ live links objects, removed = { memory.setObject obj
          { memory.object obj with pool := none, poolIterator := none } with live, links, objects }) ∧
        ∃ others, removed.Linked others none := by
  obtain ⟨elem, among, points, data, current⟩ := linked.element alive inPool
  obtain ⟨before, rest, split⟩ := List.append_of_mem among
  have listed := linked.strung pool
  have live := linked.live pool
  rw [split] at listed live
  rw [poolRemove, if_neg (not_not_intro inPool), points, Checked.deref_some, Checked.ok_bind, Checked.returns_bind]
  refine (listed.remove live (by simp) current).mono ?_
  rintro ⟨links, first⟩ ⟨kept, same⟩
  rw [Checked.returns_pure]
  refine ⟨⟨_, _, _, rfl⟩, Function.update lists pool (before ++ rest), ?_⟩
  have nodup : (before ++ elem :: rest).Nodup := by
    cases listed with
    | whole holds => exact holds.nodup
    | begun _ _ _ _ _ _ nodup _ => exact nodup
  have absent : elem ∉ before ++ rest := by
    have apart := List.nodup_append.mp nodup
    simp only [List.mem_append, not_or]
    exact ⟨fun front => apart.2.2 elem front elem List.mem_cons_self rfl, (List.nodup_cons.mp apart.2.1).1⟩
  have sub : ∀ other, ∀ member ∈ Function.update lists pool (before ++ rest) other,
      member ∈ lists other ∧ member ≠ elem := by
    intro other member among
    by_cases equal : other = pool
    · rw [equal, Function.update_self] at among
      rw [equal, split]
      refine ⟨?_, fun gone => absent (gone ▸ among)⟩
      simp only [List.mem_append, List.mem_cons] at among ⊢
      tauto
    · rw [Function.update_of_ne equal] at among
      refine ⟨among, fun gone => equal ?_⟩
      apply linked.apart other pool member among
      rw [split, gone]
      simp
  have stays : ∀ other, ∀ member ∈ lists other, member ≠ elem →
      member ∈ Function.update lists pool (before ++ rest) other := by
    intro other member among differs
    by_cases equal : other = pool
    · rw [equal, split] at among
      rw [equal, Function.update_self]
      simp only [List.mem_append, List.mem_cons] at among ⊢
      tauto
    · rw [Function.update_of_ne equal]
      exact among
  have header : ∀ member, member ≠ elem → memory.Alive (memory.data member) →
      (memory.object (memory.data member)).poolIterator = some member → memory.data member ≠ obj := by
    intro member differs living own equal
    rw [equal, points] at own
    exact differs (Option.some.inj own).symm
  refine ⟨?_, ?_, ?_, ?_, ?_, ?_, ?_, linked.nested⟩
  · intro other
    by_cases equal : other = pool
    · rw [equal, Function.update_self]
      exact kept _ _
    · rw [Function.update_of_ne equal]
      refine (linked.strung other).congr ?_ ?_ ?_ (Nat.le_refl _) fun _ => id
      · intro member among
        apply same
        rw [← split]
        exact fun inBoth => equal (linked.apart other pool member among inBoth)
      · exact Function.update_of_ne equal _ _
      · intro member _ dead
        show Function.update memory.live elem false member = false
        by_cases gone : member = elem
        · rw [gone, Function.update_self]
        · rw [Function.update_of_ne gone, dead]
  · intro other member among
    obtain ⟨among, differs⟩ := sub other member among
    show Function.update memory.live elem false member = true
    rw [Function.update_of_ne differs]
    exact linked.live other member among
  · intro member beyond
    show Function.update memory.live elem false member = false
    by_cases gone : member = elem
    · rw [gone, Function.update_self]
    · rw [Function.update_of_ne gone]
      exact linked.fresh member beyond
  · intro one other member first second
    exact linked.apart one other member (sub one member first).1 (sub other member second).1
  · intro other member among
    obtain ⟨among, differs⟩ := sub other member among
    refine (linked.pooled other member among).imp_left ?_
    rintro ⟨living, inPool, own⟩
    have others : memory.data member ≠ obj := header member differs living own
    refine ⟨living, ?_, ?_⟩
    · show (Function.update memory.object obj _ (memory.data member)).pool = _
      rw [Function.update_of_ne others, inPool]
    · show (Function.update memory.object obj _ (memory.data member)).poolIterator = _
      rw [Function.update_of_ne others, own]
  · intro other place living inPlace
    have living : memory.Alive other := living
    have inPlace : (Function.update memory.object obj
        { memory.object obj with pool := none, poolIterator := none } other).pool = some place := inPlace
    have others : other ≠ obj := by
      rintro rfl
      rw [Function.update_self] at inPlace
      exact absurd inPlace (by simp)
    rw [Function.update_of_ne others] at inPlace
    obtain ⟨member, among, own⟩ := linked.listed other place living inPlace
    refine ⟨member, stays place member among ?_, own⟩
    rintro rfl
    exact others (own.symm.trans data)
  · intro place member cleans
    obtain ⟨among, once⟩ := linked.cleaning place member cleans
    refine ⟨stays place member among ?_, once⟩
    rintro rfl
    rw [data, alive.2] at once
    exact absurd once (by decide)

/-- A new object that is in no pool. -/
theorem Linked.create (linked : memory.Linked lists opened) {header : Header} (outside : header.pool = none) :
    (Memory.setObject { memory with created := memory.created + 1 } memory.created header).Linked lists opened := by
  refine ⟨?_, linked.live, linked.fresh, linked.apart, ?_, ?_, linked.cleaning, linked.nested⟩
  · exact fun pool => (linked.strung pool).congr (fun _ _ => rfl) rfl (fun _ _ dead => dead) (Nat.le_refl _) fun _ => id
  · intro pool elem among
    refine (linked.pooled pool elem among).imp_left ?_
    rintro ⟨⟨old, alive⟩, inPool, points⟩
    have differs : memory.data elem ≠ memory.created := Nat.ne_of_lt old
    refine ⟨⟨Nat.lt_succ_of_lt old, alive⟩, ?_, ?_⟩
    · show (Function.update memory.object memory.created header (memory.data elem)).pool = _
      rw [Function.update_of_ne differs, inPool]
    · show (Function.update memory.object memory.created header (memory.data elem)).poolIterator = _
      rw [Function.update_of_ne differs, points]
  · intro other pool alive inPool
    have inPool : (Function.update memory.object memory.created header other).pool = some pool := inPool
    by_cases same : other = memory.created
    · rw [same, Function.update_self, outside] at inPool
      exact absurd inPool (by simp)
    · rw [Function.update_of_ne same] at inPool
      exact linked.listed other pool ⟨Nat.lt_of_le_of_ne (Nat.le_of_lt_succ alive.1) same, alive.2⟩ inPool

theorem Counted.create (counted : memory.Counted) {header : Header} (positive : 0 ≤ header.ref)
    (pooled : header.ref = 0 ↔ header.pool ≠ none) :
    (Memory.setObject { memory with created := memory.created + 1 } memory.created header).Counted := by
  have untouched : ∀ obj, memory.deletions obj ≠ 0 → obj ≠ memory.created := by
    rintro obj begun rfl
    exact begun (counted.fresh memory.created (Nat.le_refl _))
  refine { counted with alive := ?_, dying := ?_, fresh := ?_ }
  · intro other alive
    show memory.freed other = false ∧ 0 ≤ (Function.update memory.object memory.created header other).ref ∧ _
    by_cases same : other = memory.created
    · rw [same, setObject_self, Function.update_self]
      refine ⟨?_, positive, pooled⟩
      by_contra freed
      exact untouched _ (by rw [counted.freed memory.created (by simpa using freed)]; decide) rfl
    · rw [setObject_of_ne same, Function.update_of_ne same]
      exact counted.alive other ⟨Nat.lt_of_le_of_ne (Nat.le_of_lt_succ alive.1) same, alive.2⟩
  · intro other deleting
    have dying := counted.dying other deleting
    rw [setObject_of_ne (untouched other (by rw [dying.1]; decide))]
    exact dying
  · intro other beyond
    exact counted.fresh other (Nat.le_of_succ_le beyond)

/-- An object that is alive and in no pool is put into a pool that has not freed its first element. -/
theorem poolAdd_returns (linked : memory.Linked lists none) (alive : memory.Alive obj)
    (outside : (memory.object obj).pool = none) (attach : ∀ head ∈ memory.objects pool, memory.live head = true) :
    Checked.Returns (memory.poolAdd pool obj) fun added =>
      (∃ allocated live links data objects, added = { memory.setObject obj
          { memory.object obj with pool := some pool, poolIterator := some memory.allocated } with
        allocated, live, links, data, objects }) ∧ ∃ others, added.Linked others none := by
  have absent : ∀ other, memory.allocated ∉ lists other := by
    intro other among
    have live := linked.live other _ among
    rw [linked.fresh memory.allocated (Nat.le_refl _)] at live
    exact absurd live (by decide)
  have holds : Links.Holds memory.links (memory.objects pool) (lists pool) := by
    cases linked.strung pool with
    | whole holds => exact holds
    | begun gone before points dead =>
        rw [attach gone points] at dead
        exact absurd dead (by decide)
  rw [poolAdd, if_neg (not_not_intro outside), Checked.returns_bind]
  refine (Links.prepend_returns holds (absent pool) (linked.live pool)).mono ?_
  rintro ⟨links, first⟩ ⟨prepended, same⟩
  rw [Checked.returns_pure]
  refine ⟨⟨_, _, _, _, _, rfl⟩, Function.update lists pool (memory.allocated :: lists pool), ?_⟩
  have members : ∀ other, ∀ member ∈ Function.update lists pool (memory.allocated :: lists pool) other,
      other = pool ∧ member = memory.allocated ∨ member ∈ lists other ∧ member ≠ memory.allocated := by
    intro other member among
    by_cases equal : other = pool
    · rw [equal, Function.update_self] at among
      rcases List.mem_cons.mp among with rfl | among
      · exact .inl ⟨equal, rfl⟩
      · exact .inr ⟨equal ▸ among, fun same => absent pool (same ▸ among)⟩
    · rw [Function.update_of_ne equal] at among
      exact .inr ⟨among, fun same => absent other (same ▸ among)⟩
  have stays : ∀ other, ∀ member ∈ lists other,
      member ∈ Function.update lists pool (memory.allocated :: lists pool) other := by
    intro other member among
    by_cases equal : other = pool
    · rw [equal, Function.update_self]
      exact List.mem_cons_of_mem _ (equal ▸ among)
    · rw [Function.update_of_ne equal]
      exact among
  have older : ∀ member, member ≠ memory.allocated →
      Function.update memory.live memory.allocated true member = memory.live member ∧
        Function.update memory.data memory.allocated obj member = memory.data member :=
    fun member differs => ⟨Function.update_of_ne differs _ _, Function.update_of_ne differs _ _⟩
  have other_ne : ∀ other, ∀ member ∈ lists other, member ≠ memory.allocated := by
    rintro other member among rfl
    exact absent other among
  refine ⟨?_, ?_, ?_, ?_, ?_, ?_, ?_, linked.nested⟩
  · intro other
    by_cases equal : other = pool
    · rw [equal, Function.update_self]
      apply Lists.whole
      dsimp only
      rw [Function.update_self]
      exact prepended
    · rw [Function.update_of_ne equal]
      refine (linked.strung other).congr ?_ ?_ ?_ (Nat.le_succ _) fun _ => id
      · intro member among
        apply same
        rw [List.mem_cons, not_or]
        exact ⟨other_ne other member among, fun inBoth => equal (linked.apart other pool member among inBoth)⟩
      · exact Function.update_of_ne equal _ _
      · intro member known dead
        exact (older member (Nat.ne_of_lt known)).1.trans dead
  · intro other member among
    show Function.update memory.live memory.allocated true member = true
    rcases members other member among with ⟨-, rfl⟩ | ⟨among, differs⟩
    · rw [Function.update_self]
    · rw [(older member differs).1]
      exact linked.live other member among
  · intro member beyond
    have beyond : memory.allocated + 1 ≤ member := beyond
    exact (older member (by omega)).1.trans (linked.fresh member (by omega))
  · intro one other member first second
    rcases members one member first with ⟨atPool, new⟩ | ⟨old, differs⟩
    · rcases members other member second with ⟨sameToo, -⟩ | ⟨-, differs⟩
      · rw [atPool, sameToo]
      · exact absurd new differs
    · rcases members other member second with ⟨-, new⟩ | ⟨oldToo, -⟩
      · exact absurd new differs
      · exact linked.apart one other member old oldToo
  · intro other member among
    show memory.Alive (Function.update memory.data memory.allocated obj member) ∧
        (Function.update memory.object obj _ (Function.update memory.data memory.allocated obj member)).pool = _ ∧
          (Function.update memory.object obj _ (Function.update memory.data memory.allocated obj member)).poolIterator =
            _ ∨ _
    rcases members other member among with ⟨rfl, rfl⟩ | ⟨among, differs⟩
    · rw [Function.update_self, Function.update_self]
      exact .inl ⟨alive, rfl, rfl⟩
    · rw [(older member differs).2]
      refine (linked.pooled other member among).imp_left ?_
      rintro ⟨living, inPool, own⟩
      have others : memory.data member ≠ obj := by
        intro equal
        rw [equal, outside] at inPool
        exact absurd inPool (by simp)
      rw [Function.update_of_ne others]
      exact ⟨living, inPool, own⟩
  · intro other place living inPlace
    have inPlace : (Function.update memory.object obj _ other).pool = some place := inPlace
    by_cases equal : other = obj
    · rw [equal, Function.update_self] at inPlace
      obtain rfl : pool = place := Option.some.inj inPlace
      refine ⟨memory.allocated, ?_, ?_⟩
      · rw [Function.update_self]
        exact List.mem_cons_self
      · rw [equal]
        exact Function.update_self _ _ _
    · rw [Function.update_of_ne equal] at inPlace
      obtain ⟨member, among, own⟩ := linked.listed other place living inPlace
      exact ⟨member, stays place member among, ((older member (other_ne place member among)).2).trans own⟩
  · intro place member cleans
    obtain ⟨among, once⟩ := linked.cleaning place member cleans
    refine ⟨stays place member among, ?_⟩
    show memory.deletions (Function.update memory.data memory.allocated obj member) = 1
    rw [(older member (other_ne place member among)).2, once]

/-- The destruction of an object begins; its element is the one at which a pool is cleaned, if it has any. -/
theorem Linked.delete {frames : List Frame} (linked : memory.Linked lists opened) (alive : memory.Alive obj)
    (nested : (frames.filterMap Frame.cleaned).Nodup) (older : ∀ frame ∈ memory.frames, frame ∈ frames)
    (newer : ∀ pool elem, .cleaning pool elem ∈ frames →
      .cleaning pool elem ∈ memory.frames ∨ elem ∈ lists pool ∧ memory.data elem = obj)
    (current : ∀ pool, ∀ elem ∈ lists pool, memory.data elem = obj → .cleaning pool elem ∈ frames)
    (turned : ∀ pool, opened = some pool → ∃ elem ∈ (lists pool).head?, .cleaning pool elem ∈ frames) :
    ((memory.setFrames frames).delete obj).Linked lists none := by
  have others : ∀ other, other ≠ obj →
      Function.update memory.deletions obj (memory.deletions obj + 1) other = memory.deletions other :=
    fun other differs => Function.update_of_ne differs _ _
  have ofAlive : ∀ other, ((memory.setFrames frames).delete obj).Alive other → other ≠ obj ∧ memory.Alive other := by
    rintro other ⟨known, untouched⟩
    have untouched : Function.update memory.deletions obj (memory.deletions obj + 1) other = 0 := untouched
    by_cases same : other = obj
    · rw [same, Function.update_self] at untouched
      exact absurd untouched (Nat.succ_ne_zero _)
    · rw [others other same] at untouched
      exact ⟨same, known, untouched⟩
  refine ⟨?_, linked.live, linked.fresh, linked.apart, ?_, ?_, ?_, ?_⟩
  · intro pool
    cases linked.strung pool with
    | whole holds => exact .whole holds
    | begun gone before points dead known strung nodup cleaning =>
        refine .begun gone before points dead known strung nodup (.inr ?_)
        rcases cleaning with opens | ⟨elem, head, cleaning⟩
        · obtain ⟨elem, head, cleaning⟩ := turned pool opens
          exact ⟨elem, head, List.mem_cons_of_mem _ cleaning⟩
        · exact ⟨elem, head, List.mem_cons_of_mem _ (older _ cleaning)⟩
  · intro pool elem among
    by_cases same : memory.data elem = obj
    · exact .inr (List.mem_cons_of_mem _ (current pool elem among same))
    · refine (linked.pooled pool elem among).imp ?_ fun cleaning => List.mem_cons_of_mem _ (older _ cleaning)
      rintro ⟨⟨known, untouched⟩, inPool, points⟩
      refine ⟨⟨known, (others _ same).trans untouched⟩, ?_, ?_⟩
      · show (Function.update memory.object obj _ (memory.data elem)).pool = _
        rw [Function.update_of_ne same, inPool]
      · show (Function.update memory.object obj _ (memory.data elem)).poolIterator = _
        rw [Function.update_of_ne same, points]
  · intro other pool living inPool
    obtain ⟨differs, living⟩ := ofAlive other living
    have inPool : (Function.update memory.object obj _ other).pool = some pool := inPool
    rw [Function.update_of_ne differs] at inPool
    exact linked.listed other pool living inPool
  · intro pool elem cleaning
    have cleaning : .cleaning pool elem ∈ frames := (List.mem_cons.mp cleaning).resolve_left (by simp)
    show _ ∧ Function.update memory.deletions obj (memory.deletions obj + 1) (memory.data elem) = 1
    rcases newer pool elem cleaning with old | ⟨among, rfl⟩
    · obtain ⟨among, once⟩ := linked.cleaning pool elem old
      have differs : memory.data elem ≠ obj := by
        intro same
        rw [same, alive.2] at once
        exact absurd once (by decide)
      exact ⟨among, (others _ differs).trans once⟩
    · rw [Function.update_self, alive.2]
      exact ⟨among, rfl⟩
  · exact nested

theorem Counted.delete {frames : List Frame} (counted : memory.Counted) (alive : memory.Alive obj)
    (same : frames.filterMap Frame.deleted = memory.frames.filterMap Frame.deleted) :
    ((memory.setFrames frames).delete obj).Counted := by
  have others : ∀ other, other ≠ obj →
      Function.update memory.deletions obj (memory.deletions obj + 1) other = memory.deletions other :=
    fun other differs => Function.update_of_ne differs _ _
  have deleting : ∀ other, .deleting other ∈ frames ↔ .deleting other ∈ memory.frames := by
    intro other
    rw [← mem_deleted, same, mem_deleted]
  have untouched : .deleting obj ∉ memory.frames := by
    intro dying
    have once := (counted.dying obj dying).1
    rw [alive.2] at once
    exact absurd once (by decide)
  refine ⟨?_, ?_, ?_, ?_, ?_, ?_⟩
  · rintro other ⟨known, living⟩
    have living : Function.update memory.deletions obj (memory.deletions obj + 1) other = 0 := living
    by_cases equal : other = obj
    · rw [equal, Function.update_self] at living
      exact absurd living (Nat.succ_ne_zero _)
    · rw [others other equal] at living
      show _ ∧ _ ≤ (Function.update memory.object obj _ other).ref ∧
        ((Function.update memory.object obj _ other).ref = 0 ↔ (Function.update memory.object obj _ other).pool ≠ none)
      rw [Function.update_of_ne equal]
      exact counted.alive other ⟨known, living⟩
  · intro other dying
    show Function.update memory.deletions obj (memory.deletions obj + 1) other = 1 ∧ _ ∧
      ((Function.update memory.object obj _ other).ref = -1 ∨ (Function.update memory.object obj _ other).ref = 0 ∧
        (Function.update memory.object obj _ other).pool = none)
    by_cases equal : other = obj
    · rw [equal, Function.update_self, Function.update_self, alive.2]
      exact ⟨rfl, (counted.alive obj alive).1, .inl rfl⟩
    · rw [others other equal, Function.update_of_ne equal]
      refine counted.dying other ((deleting other).mp ((List.mem_cons.mp dying).resolve_left ?_))
      intro same
      exact equal (Frame.deleting.inj same)
  · intro other begun
    have begun : Function.update memory.deletions obj (memory.deletions obj + 1) other ≠ 0 := begun
    show Function.update memory.deletions obj (memory.deletions obj + 1) other = 1 ∧ _
    by_cases equal : other = obj
    · rw [equal, Function.update_self, alive.2]
      exact ⟨rfl, .inr List.mem_cons_self⟩
    · rw [others other equal] at begun ⊢
      obtain ⟨once, goes⟩ := counted.destroyed other begun
      exact ⟨once, goes.imp_right fun dying => List.mem_cons_of_mem _ ((deleting other).mpr dying)⟩
  · intro other freed
    have once := counted.freed other freed
    have differs : other ≠ obj := by
      rintro rfl
      rw [alive.2] at once
      exact absurd once (by decide)
    exact (others other differs).trans once
  · intro other beyond
    have beyond : memory.created ≤ other := beyond
    exact (others other (by have known := alive.1; omega)).trans (counted.fresh other beyond)
  · show (obj :: frames.filterMap Frame.deleted).Nodup
    rw [same]
    exact List.nodup_cons.mpr ⟨fun among => untouched (mem_deleted.mp among), counted.nested⟩

theorem setObject_setObject (memory : Memory) (obj : Nat) (first second : Header) :
    (memory.setObject obj first).setObject obj second = memory.setObject obj second := by
  unfold setObject
  rw [Function.update_idem]

/-- An object that was removed from its pool changes again. -/
theorem Counted.removed (counted : memory.Counted) {first second : Header} {live : Nat → Bool} {links : Links Nat}
    {objects : Nat → Option Nat} (alive : memory.Alive obj) (positive : 0 ≤ second.ref)
    (pooled : second.ref = 0 ↔ second.pool ≠ none) :
    (Memory.setObject { memory.setObject obj first with live, links, objects } obj second).Counted := by
  have idle : .deleting obj ∉ memory.frames := by
    intro dying
    have once := (counted.dying obj dying).1
    rw [alive.2] at once
    exact absurd once (by decide)
  have changed : (memory.setObject obj second).Counted :=
    counted.setObject (fun _ => ⟨positive, pooled⟩) fun dying => absurd dying idle
  rw [← setObject_setObject memory obj first second] at changed
  exact { changed with }

end Memory

end BelleSip.Object
