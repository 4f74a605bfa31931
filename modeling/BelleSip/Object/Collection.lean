import BelleSip.Object.Elements

/-
This file proves what the pools keep, whatever the destructors do, as long as no object is left in a pool while the pool
is being cleaned.
-/

namespace BelleSip.Object

open Foundation

namespace Memory

variable {memory : Memory} {lists : Nat → List Nat} {opened : Option Nat} {pool obj elem : Nat}

/-- No element leaves a list by itself, and no object is destroyed twice. -/
def Sound (memory : Memory) : Prop := (∃ lists, memory.Linked lists none) ∧ memory.Counted

/-- A new unowned object needs a pool whose first element has not been freed. -/
def Attachable (memory : Memory) (initiallyUnowned : Bool) (current : Option Nat) : Prop :=
  initiallyUnowned = true → ∃ pool, current = some pool ∧ ∀ head ∈ memory.objects pool, memory.live head = true

/-- An object that is being destroyed is referenced only once, and not where a pool destroys it. -/
def Referable (memory : Memory) (obj : Nat) : Prop :=
  memory.deletions obj ≠ 0 → (memory.object obj).ref = -1 ∧ (memory.object obj).pool = none

/-- No element stands in front of the one at which a pool is cleaned. -/
def Turning (memory : Memory) : Prop :=
  ∀ pool elem frames, memory.frames = .cleaning pool elem :: frames →
    ∀ head ∈ memory.objects pool, memory.live head = true → head = elem

theorem objectNew_returns (sound : memory.Sound) {initiallyUnowned : Bool} {current : Option Nat}
    (attachable : memory.Attachable initiallyUnowned current) :
    Checked.Returns (memory.objectNew initiallyUnowned current) Sound := by
  obtain ⟨⟨lists, linked⟩, counted⟩ := sound
  unfold objectNew
  cases initiallyUnowned with
  | false => exact Checked.returns_ok.mpr ⟨⟨lists, linked.create rfl⟩, counted.create (by decide) (by decide)⟩
  | true =>
      obtain ⟨pool, rfl, attach⟩ := attachable rfl
      have alive : (Memory.setObject { memory with created := memory.created + 1 } memory.created
          { ref := 0, initiallyUnowned := true }).Alive memory.created :=
        ⟨Nat.lt_succ_self _, counted.fresh _ (Nat.le_refl _)⟩
      refine (poolAdd_returns (linked.create rfl) alive (by rw [setObject_self]) attach).mono ?_
      rintro added ⟨⟨allocated, live, links, data, objects, rfl⟩, linked⟩
      refine ⟨linked, ?_⟩
      let header : Header :=
        { ref := 0, initiallyUnowned := true, pool := some pool, poolIterator := some memory.allocated }
      have counted := @Counted.create memory counted header (Int.le_refl 0) (by simp [header])
      rw [setObject_setObject, setObject_self]
      exact { counted with }

theorem clone_returns (sound : memory.Sound) (stays : memory.freed obj = false) {current : Option Nat}
    (attachable : memory.Attachable (memory.object obj).initiallyUnowned current) :
    Checked.Returns (memory.clone obj current) Sound := by
  rw [clone, access_of_not_freed stays, Checked.ok_bind]
  exact objectNew_returns sound attachable

/-- What is known of an object that may be used. -/
theorem usable_cases (usable : memory.usable obj = true) :
    memory.freed obj = false ∧ (memory.Alive obj ∨ memory.deletions obj ≠ 0) := by
  rw [Memory.usable, Bool.and_eq_true, decide_eq_true_eq, Bool.not_eq_true'] at usable
  refine ⟨usable.2, ?_⟩
  by_cases untouched : memory.deletions obj = 0
  · exact .inl ⟨usable.1, untouched⟩
  · exact .inr untouched

/-- The destruction of an object that is being destroyed has its frame. -/
theorem Counted.deleting (counted : memory.Counted) (stays : memory.freed obj = false)
    (begun : memory.deletions obj ≠ 0) : .deleting obj ∈ memory.frames := by
  refine ((counted.destroyed obj begun).2).resolve_left ?_
  rw [stays]
  decide

theorem ref_returns (sound : memory.Sound) (usable : memory.usable obj = true) (referable : memory.Referable obj) :
    Checked.Returns (memory.ref obj) Sound := by
  obtain ⟨⟨lists, linked⟩, counted⟩ := sound
  obtain ⟨stays, state⟩ := usable_cases usable
  unfold ref
  rw [access_of_not_freed stays, Checked.ok_bind]
  dsimp only
  rcases state with alive | begun
  · obtain ⟨-, positive, pooled⟩ := counted.alive obj alive
    by_cases unowned : (memory.object obj).ref = 0
    · obtain ⟨pool, inPool⟩ := Option.ne_none_iff_exists'.mp (pooled.mp unowned)
      rw [if_pos unowned, inPool]
      dsimp only
      rw [Checked.returns_bind]
      refine (poolRemove_returns linked alive inPool).mono ?_
      rintro removed ⟨⟨live, links, objects, rfl⟩, others, linked⟩
      rw [Checked.returns_pure]
      refine ⟨⟨others, linked.setObject rfl rfl⟩, ?_⟩
      rw [show ({ memory.setObject obj { memory.object obj with pool := none, poolIterator := none } with
        live, links, objects } : Memory).object obj = { memory.object obj with pool := none, poolIterator := none } from
          setObject_self _ _ _]
      exact counted.removed alive (by dsimp only; omega) (by simp [unowned])
    · rw [if_neg unowned, pure_bind, Checked.returns_pure]
      refine ⟨⟨lists, linked.setObject rfl rfl⟩, counted.setObject (fun _ => ?_) fun dying => ?_⟩
      · have outside : (memory.object obj).pool = none := by
          by_contra inPool
          exact unowned (pooled.mpr inPool)
        dsimp only
        rw [outside]
        exact ⟨by omega, by simp; omega⟩
      · have once := (counted.dying obj dying).1
        rw [alive.2] at once
        exact absurd once (by decide)
  · obtain ⟨dying, outside⟩ := referable begun
    rw [if_neg (by rw [dying]; decide), pure_bind, Checked.returns_pure]
    refine ⟨⟨lists, linked.setObject rfl rfl⟩, counted.setObject (fun alive => absurd alive.2 begun) fun _ => .inr ?_⟩
    dsimp only
    rw [dying]
    exact ⟨rfl, outside⟩

theorem delete_setObject (memory : Memory) (obj : Nat) (ref : Int) :
    (memory.setObject obj { memory.object obj with ref }).delete obj = memory.delete obj := by
  unfold delete
  rw [setObject_self, setObject_setObject]
  rfl

/-- The destruction of an object that is in no pool begins. -/
theorem Linked.deleteOutside (linked : memory.Linked lists none) (alive : memory.Alive obj)
    (outside : (memory.object obj).pool = none) : (memory.delete obj).Linked lists none := by
  refine @Linked.delete memory lists none obj memory.frames linked alive linked.nested (fun _ => id)
    (fun _ _ => .inl) ?_ (fun _ same => absurd same (by simp))
  rintro pool elem among rfl
  refine (linked.pooled pool elem among).resolve_left ?_
  rintro ⟨-, inPool, -⟩
  rw [outside] at inPool
  exact absurd inPool (by simp)

theorem Counted.deleteOutside (counted : memory.Counted) (alive : memory.Alive obj) : (memory.delete obj).Counted :=
  @Counted.delete memory obj memory.frames counted alive rfl

/-- An object whose last reference is dropped is destroyed. -/
theorem unref_returns (sound : memory.Sound) (usable : memory.usable obj = true) :
    Checked.Returns (memory.unref obj) Sound ∨
      memory.unref obj = .error .fatal ∧ memory.deletions obj ≠ 0 ∧ (memory.object obj).ref = -1 := by
  obtain ⟨⟨lists, linked⟩, counted⟩ := sound
  obtain ⟨stays, state⟩ := usable_cases usable
  unfold unref
  rw [access_of_not_freed stays, Checked.ok_bind]
  dsimp only
  rcases state with alive | begun
  · left
    obtain ⟨-, positive, pooled⟩ := counted.alive obj alive
    rw [if_neg (by omega)]
    by_cases unowned : (memory.object obj).ref = 0
    · obtain ⟨pool, inPool⟩ := Option.ne_none_iff_exists'.mp (pooled.mp unowned)
      rw [if_pos unowned, inPool]
      dsimp only
      rw [Checked.returns_bind]
      refine (poolRemove_returns linked alive inPool).mono ?_
      rintro removed ⟨⟨live, links, objects, same⟩, others, linked⟩
      have outside : (removed.object obj).pool = none := by
        rw [same]
        exact congrArg Header.pool (setObject_self memory obj _)
      have living : removed.Alive obj := by
        rw [same]
        exact alive
      have referred : (removed.setObject obj { removed.object obj with ref := 1 }).Counted := by
        have pooled : (1 : Int) = 0 ↔ (removed.object obj).pool ≠ none :=
          iff_of_false (by decide) (not_not_intro outside)
        rw [same] at pooled ⊢
        exact counted.removed alive (Int.le_of_lt Int.one_pos) pooled
      rw [Checked.returns_pure]
      refine ⟨⟨others, linked.deleteOutside living outside⟩, ?_⟩
      rw [← delete_setObject removed obj 1]
      exact referred.deleteOutside living
    · have outside : (memory.object obj).pool = none := by
        by_contra inPool
        exact unowned (pooled.mpr inPool)
      rw [if_neg unowned]
      dsimp only
      split
      · rw [Checked.returns_pure, delete_setObject]
        exact ⟨⟨lists, linked.deleteOutside alive outside⟩, counted.deleteOutside alive⟩
      · next rest =>
          rw [Checked.returns_pure]
          refine ⟨⟨lists, linked.setObject rfl rfl⟩, counted.setObject (fun _ => ⟨?_, ?_⟩) fun dying => ?_⟩
          · dsimp only
            omega
          · exact iff_of_false rest (not_not_intro outside)
          · have once := (counted.dying obj dying).1
            rw [alive.2] at once
            exact absurd once (by decide)
  · have deleting := counted.deleting stays begun
    rcases (counted.dying obj deleting).2.2 with dying | ⟨dying, outside⟩
    · right
      rw [if_pos dying]
      exact ⟨rfl, begun, dying⟩
    · left
      rw [dying, if_neg (by decide), if_pos rfl, outside]
      dsimp only
      rw [if_neg (by decide), Checked.returns_pure]
      exact ⟨⟨lists, linked.setObject outside.symm rfl⟩,
        counted.setObject (fun alive => absurd alive.2 begun) fun _ => .inl rfl⟩

/-- A cleaning turns to the first element of its pool, or it ends. -/
theorem visit_returns (linked : memory.Linked lists (some pool)) (counted : memory.Counted)
    (closed : ∀ elem, .cleaning pool elem ∉ memory.frames) :
    Checked.Returns (memory.visit pool (lists pool).head?) Sound := by
  have listed := linked.strung pool
  have pooled := linked.pooled pool
  have live := linked.live pool
  cases same : lists pool with
  | nil =>
      rw [List.head?_nil, visit, Checked.returns_ok]
      rw [same] at listed
      refine ⟨⟨lists, { linked with strung := ?_ }⟩, { counted with }⟩
      intro other
      by_cases equal : other = pool
      · rw [equal, same]
        refine .whole ⟨Function.update_self _ _ _, trivial, List.nodup_nil⟩
      · have objects : Function.update memory.objects pool none other = memory.objects other :=
          Function.update_of_ne equal _ _
        cases linked.strung other with
        | whole holds => exact .whole ⟨objects.trans holds.head, holds.strung, holds.nodup⟩
        | begun gone before points dead known strung nodup cleaning =>
            refine .begun gone before (objects.trans points) dead known strung nodup (.inr ?_)
            exact cleaning.resolve_left fun opens => equal (Option.some.inj opens).symm
  | cons elem rest =>
      rw [same] at pooled live
      obtain ⟨alive, inPool, points⟩ := (pooled elem List.mem_cons_self).resolve_right (closed elem)
      obtain ⟨stays, -, unowned⟩ := counted.alive _ alive
      have unowned : (memory.object (memory.data elem)).ref = 0 := by
        rw [unowned, inPool]
        simp
      rw [List.head?_cons, visit, Links.access_live (live elem List.mem_cons_self), Checked.ok_bind,
        access_of_not_freed stays, Checked.ok_bind, if_pos unowned, Checked.returns_pure]
      have older : ∀ frame ∈ memory.frames, frame ∈ .cleaning pool elem :: memory.frames :=
        fun frame among => List.mem_cons_of_mem _ among
      refine ⟨⟨lists, linked.delete alive ?_ older ?_ ?_ ?_⟩, counted.delete alive rfl⟩
      · refine List.nodup_cons.mpr ⟨fun again => ?_, linked.nested⟩
        obtain ⟨other, cleaning⟩ := mem_cleaned.mp again
        exact closed other cleaning
      · intro other member cleaning
        rcases List.mem_cons.mp cleaning with new | old
        · obtain ⟨rfl, rfl⟩ := Frame.cleaning.inj new
          refine .inr ⟨?_, rfl⟩
          rw [same]
          exact List.mem_cons_self
        · exact .inl old
      · intro other member among data
        rcases linked.pooled other member among with ⟨-, inOther, own⟩ | cleaning
        · rw [data, inPool] at inOther
          rw [data, points] at own
          rw [← Option.some.inj inOther, ← Option.some.inj own]
          exact List.mem_cons_self
        · exact older _ cleaning
      · rintro other opens
        obtain rfl := Option.some.inj opens
        refine ⟨elem, ?_, List.mem_cons_self⟩
        rw [same]
        rfl

theorem closed_of_not_cleaned (idle : memory.isCleaned pool = false) (elem : Nat) :
    .cleaning pool elem ∉ memory.frames := by
  intro cleaning
  rw [isCleaned, List.any_eq_false] at idle
  exact idle _ cleaning (decide_eq_true rfl)

theorem poolClean_returns (sound : memory.Sound) (idle : memory.isCleaned pool = false) :
    Checked.Returns (memory.poolClean pool) Sound := by
  obtain ⟨⟨lists, linked⟩, counted⟩ := sound
  have closed := closed_of_not_cleaned idle
  have head : memory.objects pool = (lists pool).head? := by
    cases linked.strung pool with
    | whole holds => exact holds.head
    | begun gone before points dead known strung nodup cleaning =>
        obtain ⟨elem, -, cleaning⟩ := cleaning.resolve_left (by simp)
        exact absurd cleaning (closed elem)
  have opened : memory.Linked lists (some pool) := by
    refine { linked with strung := fun other => ?_ }
    cases linked.strung other with
    | whole holds => exact .whole holds
    | begun gone before points dead known strung nodup cleaning =>
        exact .begun gone before points dead known strung nodup (.inr (cleaning.resolve_left (by simp)))
  rw [poolClean, head]
  exact visit_returns opened counted closed

/-- The memory of an object is freed behind its last destructor. -/
theorem freed_sound {frames : List Frame} (sound : memory.Sound) (same : memory.frames = .deleting obj :: frames) :
    Sound { memory with freed := Function.update memory.freed obj true, frames } := by
  obtain ⟨⟨lists, linked⟩, counted⟩ := sound
  have top : .deleting obj ∈ memory.frames := by
    rw [same]
    exact List.mem_cons_self
  have deeper : ∀ frame ∈ frames, frame ∈ memory.frames := by
    intro frame among
    rw [same]
    exact List.mem_cons_of_mem _ among
  have cleaned : ∀ pool elem, .cleaning pool elem ∈ memory.frames → .cleaning pool elem ∈ frames := by
    intro pool elem among
    rw [same] at among
    exact (List.mem_cons.mp among).resolve_left (by simp)
  have nested := counted.nested
  rw [same] at nested
  have alone : .deleting obj ∉ frames := fun again => (List.nodup_cons.mp nested).1 (mem_deleted.mpr again)
  have cleanings := linked.nested
  rw [same] at cleanings
  have once := (counted.dying obj top).1
  refine ⟨⟨lists, ?_, linked.live, linked.fresh, linked.apart, ?_, linked.listed, ?_, cleanings⟩, ?_⟩
  · exact fun pool => (linked.strung pool).congr (fun _ _ => rfl) rfl (fun _ _ dead => dead) (Nat.le_refl _)
      fun elem => cleaned pool elem
  · exact fun pool elem among => (linked.pooled pool elem among).imp_right (cleaned pool elem)
  · exact fun pool elem cleaning => linked.cleaning pool elem (deeper _ cleaning)
  · have others : ∀ other, other ≠ obj → Function.update memory.freed obj true other = memory.freed other :=
      fun other differs => Function.update_of_ne differs _ _
    refine ⟨?_, ?_, ?_, ?_, counted.fresh, (List.nodup_cons.mp nested).2⟩
    · intro other alive
      have differs : other ≠ obj := by
        rintro rfl
        have untouched : memory.deletions other = 0 := alive.2
        rw [once] at untouched
        exact absurd untouched (by decide)
      obtain ⟨stays, rest⟩ := counted.alive other alive
      exact ⟨(others other differs).trans stays, rest⟩
    · intro other dying
      have differs : other ≠ obj := by
        rintro rfl
        exact alone dying
      obtain ⟨first, stays, rest⟩ := counted.dying other (deeper _ dying)
      exact ⟨first, (others other differs).trans stays, rest⟩
    · intro other begun
      obtain ⟨first, goes⟩ := counted.destroyed other begun
      refine ⟨first, ?_⟩
      show Function.update memory.freed obj true other = true ∨ _
      by_cases equal : other = obj
      · rw [equal, Function.update_self]
        exact .inl rfl
      · rw [others other equal]
        refine goes.imp_right fun dying => ?_
        rw [same] at dying
        refine (List.mem_cons.mp dying).resolve_left fun top => equal (Frame.deleting.inj top)
    · intro other gone
      have gone : Function.update memory.freed obj true other = true := gone
      by_cases equal : other = obj
      · rw [equal]
        exact once
      · rw [others other equal] at gone
        exact counted.freed other gone

/-- An element at which a pool was cleaned is the first one, and it is freed. -/
theorem elem_freed {frames : List Frame} (linked : memory.Linked lists none)
    (same : memory.frames = .cleaning pool elem :: frames) (turning : memory.Turning) :
    ∃ rest, lists pool = elem :: rest ∧ (memory.links elem).next = rest.head? ∧
      Linked { memory with live := Function.update memory.live elem false, frames }
        (Function.update lists pool rest) (some pool) ∧
      ∀ other, .cleaning pool other ∉ frames := by
  have nested := linked.nested
  rw [same] at nested
  have closed : ∀ other, .cleaning pool other ∉ frames := fun other again =>
    (List.nodup_cons.mp nested).1 (mem_cleaned.mpr ⟨other, again⟩)
  have top : .cleaning pool elem ∈ memory.frames := by
    rw [same]
    exact List.mem_cons_self
  have unique : ∀ other, .cleaning pool other ∈ memory.frames → other = elem := by
    intro other cleaning
    rw [same] at cleaning
    exact (Frame.cleaning.inj ((List.mem_cons.mp cleaning).resolve_right (closed other))).2
  have deeper : ∀ frame ∈ frames, frame ∈ memory.frames := by
    intro frame among
    rw [same]
    exact List.mem_cons_of_mem _ among
  have known : elem < memory.allocated := by
    by_contra beyond
    have live := linked.live pool elem (linked.cleaning pool elem top).1
    rw [linked.fresh elem (by omega)] at live
    exact absurd live (by decide)
  obtain ⟨before, rest, split, strung, nodup⟩ : ∃ before rest, lists pool = elem :: rest ∧
      Links.Strung memory.links before (elem :: rest) none ∧ (elem :: rest).Nodup := by
    cases linked.strung pool with
    | whole holds =>
        cases split : lists pool with
        | nil => exact absurd (linked.cleaning pool elem top).1 (by simp [split])
        | cons first rest =>
            have points := holds.head
            rw [split] at points
            have live := linked.live pool first (by simp [split])
            obtain rfl : first = elem := turning pool elem frames same first points live
            exact ⟨none, rest, rfl, split ▸ holds.strung, split ▸ holds.nodup⟩
    | begun gone before points dead older strung nodup cleaning =>
        obtain ⟨first, head, cleaning⟩ := cleaning.resolve_left (by simp)
        obtain rfl := unique first cleaning
        obtain ⟨rest, split⟩ := List.head?_eq_some_iff.mp head
        exact ⟨before, rest, split, split ▸ strung, split ▸ nodup⟩
  obtain ⟨absent, nodupRest⟩ := List.nodup_cons.mp nodup
  have sub : ∀ other, ∀ member ∈ Function.update lists pool rest other, member ∈ lists other ∧ member ≠ elem := by
    intro other member among
    by_cases equal : other = pool
    · rw [equal, Function.update_self] at among
      rw [equal, split]
      exact ⟨List.mem_cons_of_mem _ among, fun gone => absent (gone ▸ among)⟩
    · rw [Function.update_of_ne equal] at among
      refine ⟨among, fun gone => equal ?_⟩
      apply linked.apart other pool member among
      rw [split, gone]
      exact List.mem_cons_self
  have stays : ∀ other, ∀ member ∈ lists other, member ≠ elem → member ∈ Function.update lists pool rest other := by
    intro other member among differs
    by_cases equal : other = pool
    · rw [equal, split] at among
      rw [equal, Function.update_self]
      exact (List.mem_cons.mp among).resolve_left differs
    · rw [Function.update_of_ne equal]
      exact among
  have freedElem : ∀ member, memory.live member = false → Function.update memory.live elem false member = false := by
    intro member dead
    by_cases gone : member = elem
    · rw [gone, Function.update_self]
    · rw [Function.update_of_ne gone, dead]
  refine ⟨rest, split, ?_, ⟨?_, ?_, ?_, ?_, ?_, ?_, ?_, (List.nodup_cons.mp nested).2⟩, closed⟩
  · rw [strung.1, Option.or_none]
  · intro other
    by_cases equal : other = pool
    · rw [equal, Function.update_self]
      have gone : ∃ gone, memory.objects pool = some gone ∧
          Function.update memory.live elem false gone = false ∧ gone < memory.allocated := by
        cases linked.strung pool with
        | whole holds =>
            refine ⟨elem, ?_, Function.update_self _ _ _, known⟩
            rw [holds.head, split]
            rfl
        | begun gone before points dead older strung nodup cleaning => exact ⟨gone, points, freedElem gone dead, older⟩
      obtain ⟨gone, points, dead, older⟩ := gone
      exact .begun gone (some elem) points dead older strung.2 nodupRest (.inl rfl)
    · rw [Function.update_of_ne equal]
      cases linked.strung other with
      | whole holds => exact .whole holds
      | begun gone before points dead older strung nodup cleaning =>
          refine .begun gone before points (freedElem gone dead) older strung nodup (.inr ?_)
          obtain ⟨first, head, cleaning⟩ := cleaning.resolve_left (by simp)
          refine ⟨first, head, ?_⟩
          rw [same] at cleaning
          refine (List.mem_cons.mp cleaning).resolve_left fun top => equal (Frame.cleaning.inj top).1
  · intro other member among
    obtain ⟨among, differs⟩ := sub other member among
    exact (Function.update_of_ne differs _ _).trans (linked.live other member among)
  · exact fun member beyond => freedElem member (linked.fresh member beyond)
  · exact fun one other member first second =>
      linked.apart one other member (sub one member first).1 (sub other member second).1
  · intro other member among
    obtain ⟨among, differs⟩ := sub other member among
    refine (linked.pooled other member among).imp_right fun cleaning => ?_
    rw [same] at cleaning
    exact (List.mem_cons.mp cleaning).resolve_left fun top => differs (Frame.cleaning.inj top).2
  · intro obj place alive inPlace
    obtain ⟨member, among, own⟩ := linked.listed obj place alive inPlace
    refine ⟨member, stays place member among ?_, own⟩
    rintro rfl
    have once := (linked.cleaning pool member top).2
    have untouched : memory.deletions obj = 0 := alive.2
    rw [own, untouched] at once
    exact absurd once (by decide)
  · intro place member cleaning
    obtain ⟨among, once⟩ := linked.cleaning place member (deeper _ cleaning)
    refine ⟨stays place member among ?_, once⟩
    rintro rfl
    have samePool : place = pool := by
      apply linked.apart place pool member among
      rw [split]
      exact List.mem_cons_self
    exact closed member (samePool ▸ cleaning)

theorem proceed_returns (sound : memory.Sound) (turning : memory.Turning) :
    Checked.Returns memory.proceed Sound := by
  unfold proceed
  split
  · exact Checked.returns_ok.mpr sound
  · next obj frames same =>
      have top : .deleting obj ∈ memory.frames := by
        rw [same]
        exact List.mem_cons_self
      rw [access_of_not_freed (sound.2.dying obj top).2.1, Checked.ok_bind, Checked.returns_pure]
      exact freed_sound sound same
  · next pool elem frames same =>
      obtain ⟨⟨lists, linked⟩, counted⟩ := sound
      obtain ⟨rest, split, next, linkedRest, closed⟩ := elem_freed linked same turning
      have live : memory.live elem = true := linked.live pool elem (by simp [split])
      have nested := counted.nested
      rw [same] at nested
      have countedRest : Counted { memory with live := Function.update memory.live elem false, frames } := by
        refine { counted with dying := ?_, destroyed := ?_, nested := nested }
        · intro obj dying
          apply counted.dying obj
          rw [same]
          exact List.mem_cons_of_mem _ dying
        · intro obj begun
          obtain ⟨once, goes⟩ := counted.destroyed obj begun
          refine ⟨once, goes.imp_right fun dying => ?_⟩
          rw [same] at dying
          exact (List.mem_cons.mp dying).resolve_left (by simp)
      have visited := visit_returns linkedRest countedRest closed
      rw [Function.update_self] at visited
      rw [Links.access_live live, Checked.ok_bind, next]
      exact visited

end Memory

/-- An object is created where a pool can take it, it is referenced at most once while it is destroyed and not where a
pool destroys it, and a cleaning leaves no object of its pool behind. -/
def Guard : Checked Memory → Event → Prop
  | .ok memory, .new initiallyUnowned current => memory.Attachable initiallyUnowned current
  | .ok memory, .clone obj current =>
      memory.usable obj = true → memory.Attachable (memory.object obj).initiallyUnowned current
  | .ok memory, .ref obj => memory.usable obj = true → memory.Referable obj
  | .ok memory, .proceed => memory.Turning
  | _, _ => True

/-- An object is destroyed once. It is in a pool where it is alive and has no references, and the list of a pool that is
not being cleaned has the elements of such objects, to which their iterators point. -/
structure Collected (memory : Memory) : Prop where
  once : ∀ obj, memory.deletions obj ≤ 1
  destroyed : ∀ obj, memory.deletions obj = 1 ↔ memory.freed obj = true ∨ .deleting obj ∈ memory.frames
  pooled : ∀ obj, memory.Alive obj →
    memory.freed obj = false ∧ ((memory.object obj).pool ≠ none ↔ (memory.object obj).ref = 0)
  listed : ∀ pool, memory.isCleaned pool = false → ∃ elems, Links.Holds memory.links (memory.objects pool) elems ∧
    (∀ elem ∈ elems, memory.live elem = true ∧ (memory.object (memory.data elem)).poolIterator = some elem) ∧
    ∀ obj, obj ∈ elems.map memory.data ↔
      memory.Alive obj ∧ (memory.object obj).ref = 0 ∧ (memory.object obj).pool = some pool

/-- Nothing stops the program but a reference that is dropped twice, and a pool is empty when its cleaning ends. -/
structure Keeps (memory : Memory) (event : Event) : Prop where
  collected : Collected memory
  stops : ∀ fault, step (.ok memory) event = .error fault → fault = .fatal ∧
    ∃ obj, event = .unref obj ∧ memory.deletions obj = 1 ∧ (memory.object obj).ref = -1
  ended : ∀ pool elem frames after, memory.frames = .cleaning pool elem :: frames →
    step (.ok memory) .proceed = .ok after → after.isCleaned pool = false → after.objects pool = none

def Kept (memory : Checked Memory) (event : Event) : Prop := ∀ current, memory = .ok current → Keeps current event

/-- Where the program has not stopped, its memory is sound. -/
def Invariant (memory : Checked Memory) : Prop := Checked.OnReturn memory Memory.Sound

section

variable {memory : Memory} {event : Event}

theorem Memory.Sound.collected (sound : memory.Sound) : Collected memory := by
  obtain ⟨⟨lists, linked⟩, counted⟩ := sound
  refine ⟨?_, ?_, ?_, ?_⟩
  · intro obj
    by_contra more
    have once := (counted.destroyed obj (by omega)).1
    omega
  · intro obj
    constructor
    · intro once
      exact (counted.destroyed obj (by omega)).2
    · rintro (freed | dying)
      · exact counted.freed obj freed
      · exact (counted.dying obj dying).1
  · intro obj alive
    obtain ⟨stays, -, pooled⟩ := counted.alive obj alive
    exact ⟨stays, pooled.symm⟩
  · intro pool idle
    have closed := Memory.closed_of_not_cleaned idle
    have holds : Links.Holds memory.links (memory.objects pool) (lists pool) := by
      cases linked.strung pool with
      | whole holds => exact holds
      | begun gone before points dead known strung nodup cleaning =>
          obtain ⟨elem, -, cleaning⟩ := cleaning.resolve_left (by simp)
          exact absurd cleaning (closed elem)
    have pooled : ∀ elem ∈ lists pool, memory.Alive (memory.data elem) ∧
        (memory.object (memory.data elem)).pool = some pool ∧
          (memory.object (memory.data elem)).poolIterator = some elem :=
      fun elem among => (linked.pooled pool elem among).resolve_right (closed elem)
    refine ⟨lists pool, holds, fun elem among => ⟨linked.live pool elem among, (pooled elem among).2.2⟩, fun obj => ?_⟩
    rw [List.mem_map]
    constructor
    · rintro ⟨elem, among, rfl⟩
      obtain ⟨alive, inPool, -⟩ := pooled elem among
      refine ⟨alive, ?_, inPool⟩
      rw [(counted.alive _ alive).2.2, inPool]
      simp
    · rintro ⟨alive, -, inPool⟩
      exact linked.listed obj pool alive inPool

/-- The application keeps the memory sound; it stops the program where it drops a reference of an object that is being
destroyed without any. -/
theorem act_returns (sound : memory.Sound) (guard : Guard (.ok memory) event) :
    Checked.Returns (memory.act event) Memory.Sound ∨
      memory.act event = .error .fatal ∧
        ∃ obj, event = .unref obj ∧ memory.deletions obj = 1 ∧ (memory.object obj).ref = -1 := by
  cases event with
  | new initiallyUnowned current => exact .inl (Memory.objectNew_returns sound guard)
  | clone obj current =>
      left
      rw [Memory.act]
      split
      · next usable => exact Memory.clone_returns sound (Memory.usable_cases usable).1 (guard usable)
      · exact Checked.returns_ok.mpr sound
  | ref obj =>
      left
      rw [Memory.act]
      split
      · next usable => exact Memory.ref_returns sound usable (guard usable)
      · exact Checked.returns_ok.mpr sound
  | unref obj =>
      rw [Memory.act]
      split
      · next usable =>
          refine (Memory.unref_returns sound usable).imp_right ?_
          rintro ⟨fatal, begun, dying⟩
          exact ⟨fatal, obj, rfl, (sound.2.destroyed obj begun).1, dying⟩
      · exact .inl (Checked.returns_ok.mpr sound)
  | poolClean pool =>
      left
      rw [Memory.act]
      split
      · exact Checked.returns_ok.mpr sound
      · next idle => exact Memory.poolClean_returns sound (by simpa using idle)
  | proceed => exact .inl (Memory.proceed_returns sound guard)

theorem step_returns (sound : memory.Sound) (guard : Guard (.ok memory) event) :
    Checked.Returns (step (.ok memory) event) Memory.Sound ∨
      step (.ok memory) event = .error .fatal ∧
        ∃ obj, event = .unref obj ∧ memory.deletions obj = 1 ∧ (memory.object obj).ref = -1 := by
  rw [step, Checked.ok_bind]
  split
  · exact act_returns sound guard
  · exact .inl (Checked.returns_pure.mpr sound)

/-- A cleaning that does not turn to an element has ended, and its pool is empty. -/
theorem Memory.visit_ended (memory : Memory) (pool : Nat) (elem : Option Nat) :
    Checked.OnReturn (memory.visit pool elem) fun after =>
      after.isCleaned pool = false → after.objects pool = none := by
  cases elem with
  | none => exact fun _ => Function.update_self _ _ _
  | some elem =>
      rw [visit, Checked.onReturn_bind]
      cases Links.access memory.live elem with
      | error fault => trivial
      | ok live =>
          refine Checked.onReturn_bind.mpr ?_
          cases memory.access (memory.data elem) with
          | error fault => trivial
          | ok stays =>
              show Checked.OnReturn (if _ then _ else _) _
              split
              · intro ended
                refine absurd ?_ (Memory.closed_of_not_cleaned ended elem)
                exact List.mem_cons_of_mem _ List.mem_cons_self
              · trivial

theorem Memory.Sound.keeps (sound : memory.Sound) (guard : Guard (.ok memory) event) : Keeps memory event := by
  refine ⟨sound.collected, ?_, ?_⟩
  · intro fault stopped
    rcases step_returns sound guard with ⟨after, returned, -⟩ | ⟨fatal, dropped⟩
    · rw [stopped] at returned
      exact absurd returned (by simp)
    · rw [stopped] at fatal
      exact ⟨Except.error.inj fatal, dropped⟩
  · intro pool elem frames after same returned ended
    have proceeds : step (.ok memory) .proceed = memory.proceed := by
      rw [step, Checked.ok_bind, if_pos (by simp)]
      rfl
    rw [proceeds] at returned
    have onReturn : Checked.OnReturn memory.proceed fun after =>
        after.isCleaned pool = false → after.objects pool = none := by
      unfold Memory.proceed
      rw [same]
      dsimp only
      rw [Checked.onReturn_bind]
      cases Links.access memory.live elem with
      | error fault => trivial
      | ok live => exact Memory.visit_ended _ pool _
    exact onReturn.elim returned ended

theorem invariant_step {memory : Checked Memory} (invariant : Invariant memory) (guard : Guard memory event) :
    Invariant (step memory event) := by
  cases memory with
  | error fault => exact invariant
  | ok memory =>
      rcases step_returns invariant guard with ⟨after, returned, sound⟩ | ⟨fatal, -⟩
      · rw [returned]
        exact sound
      · rw [fatal]
        trivial

theorem invariant_initial : Invariant (.ok {}) := by
  refine ⟨⟨fun _ => [], ?_, ?_, fun _ _ => rfl, ?_, ?_, ?_, ?_, List.nodup_nil⟩, ?_, ?_, ?_, ?_, ?_, List.nodup_nil⟩
  · exact fun pool => .whole ⟨rfl, trivial, List.nodup_nil⟩
  · exact fun _ _ among => absurd among List.not_mem_nil
  · exact fun _ _ _ among => absurd among List.not_mem_nil
  · exact fun _ _ among => absurd among List.not_mem_nil
  · exact fun _ _ alive => absurd alive.1 (Nat.not_lt_zero _)
  · exact fun _ _ cleaning => absurd cleaning List.not_mem_nil
  · exact fun _ alive => absurd alive.1 (Nat.not_lt_zero _)
  · exact fun _ dying => absurd dying List.not_mem_nil
  · exact fun _ begun => absurd rfl begun
  · exact fun _ freed => absurd freed Bool.false_ne_true
  · exact fun _ _ => rfl

/-- This is what the pools keep, whatever the destructors do. -/
theorem run_collected (events : List Event) (along : Machine.Along step Guard (.ok {}) events) :
    Machine.Along step Kept (.ok {}) events ∧
      ∀ memory, Machine.run step (.ok {}) events = .ok memory → Collected memory := by
  constructor
  · refine Machine.Along.entails (fun _ _ => invariant_step) ?_ invariant_initial along
    rintro _ event invariant guard memory rfl
    exact Memory.Sound.keeps invariant guard
  · intro memory ended
    have invariant : Invariant (Machine.run step (.ok {}) events) :=
      Machine.run_invariant (fun _ _ => invariant_step) invariant_initial along
    rw [ended] at invariant
    exact Memory.Sound.collected invariant

end

/-- The destructor of an unowned object drops the last reference to another object while its pool is being cleaned. -/
def cleaning : List Event :=
  [.new true (some 0), .new false none, .poolClean 0, .unref 1, .proceed, .proceed, .proceed]

theorem run_collected_cleaning : Machine.Along step Kept (.ok {}) cleaning ∧
    ∀ memory, Machine.run step (.ok {}) cleaning = .ok memory → Collected memory := by
  have attachable : Guard (.ok {}) (.new true (some 0)) := fun _ => ⟨0, rfl, fun _ among => by cases among⟩
  have owned : Guard (Machine.run step (.ok {}) (cleaning.take 1)) (.new false none) := fun owned => by cases owned
  have first : Guard (Machine.run step (.ok {}) (cleaning.take 4)) .proceed := fun _ _ _ same => by cases same
  have second : Guard (Machine.run step (.ok {}) (cleaning.take 5)) .proceed := fun _ _ _ same => by cases same
  have third : Guard (Machine.run step (.ok {}) (cleaning.take 6)) .proceed := by
    intro pool elem frames same head among live
    cases same
    cases among
    rfl
  exact run_collected cleaning ⟨attachable, owned, trivial, trivial, first, second, third, trivial⟩

/-- The destructor of an unowned object creates another one while the pool is being cleaned: the new object is in no
list when the cleaning has ended, and a reference to it stops the program. With two unowned objects, the second
destructor writes to an element that was freed. An object to which its destructor refers while a pool destroys it is
destroyed twice. -/
theorem not_collected :
    (∃ memory, Machine.run step (.ok {}) [.new true (some 0), .poolClean 0, .new true (some 0), .proceed, .proceed] =
        .ok memory ∧ ¬Collected memory ∧ step (.ok memory) (.ref 1) = .error .nullPointer) ∧
      Machine.run step (.ok {}) [.new true (some 0), .new true (some 0), .poolClean 0, .proceed, .proceed,
        .new true (some 0)] = .error .nullPointer ∧
      ∃ memory, Machine.run step (.ok {}) [.new true (some 0), .poolClean 0, .ref 0, .unref 0] = .ok memory ∧
        memory.deletions 0 = 2 := by
  refine ⟨⟨_, rfl, fun collected => ?_, rfl⟩, rfl, _, rfl, rfl⟩
  obtain ⟨elems, holds, -, members⟩ := collected.listed 0 rfl
  have listed := (members 1).mpr ⟨⟨Nat.lt_succ_self 1, rfl⟩, rfl, rfl⟩
  have empty : elems = [] := List.head?_eq_none_iff.mp holds.head.symm
  rw [empty] at listed
  exact absurd listed List.not_mem_nil

end BelleSip.Object
