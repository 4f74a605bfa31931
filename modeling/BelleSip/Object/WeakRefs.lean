import BelleSip.Foundation.Checked
import Mathlib.Data.List.Nodup

/-
This file models the weak references of `belle_sip_object.c`, and proves which of them are notified when their object is
destroyed.
-/

namespace BelleSip.Object

open Foundation

/-- This is `weak_ref_t`. The callback is the notification with its user pointer; the code compares them together. -/
structure WeakRef (Callback : Type) where
  id : Nat
  callback : Callback
deriving DecidableEq, Repr

/-- A call of `belle_sip_object_weak_ref` or `belle_sip_object_weak_unref`. -/
inductive WeakCall (Callback : Type) where
  | weakRef (callback : Callback)
  | weakUnref (callback : Callback)
deriving DecidableEq, Repr

/-- What has happened to an object: a registration, a call that removes the registrations of a callback, a
notification. -/
inductive WeakEvent (Callback : Type) where
  | registered (id : Nat) (callback : Callback)
  | unregistered (callback : Callback)
  | notified (id : Nat)
deriving DecidableEq, Repr

/-- What the weak references of a `belle_sip_object_t` are about, with the number of those that were ever made and the
events so far. -/
structure WeakObject (Callback : Type) where
  ref : Int := 1
  weakRefs : List (WeakRef Callback) := []
  allocated : Nat := 0
  trace : List (WeakEvent Callback) := []
deriving DecidableEq, Repr

namespace WeakObject

variable {Callback : Type} [DecidableEq Callback]

/-- This is `belle_sip_object_weak_ref`. -/
def weakRef (obj : WeakObject Callback) (callback : Callback) : WeakObject Callback :=
  { obj with
    weakRefs := { id := obj.allocated, callback := callback } :: obj.weakRefs
    allocated := obj.allocated + 1
    trace := obj.trace ++ [.registered obj.allocated callback] }

/-- This is `belle_sip_object_weak_unref`. -/
def weakUnref (obj : WeakObject Callback) (callback : Callback) : Checked (WeakObject Callback) :=
  let called := { obj with trace := obj.trace ++ [.unregistered callback] }
  -- too late and avoid recursions
  if obj.ref = -1 then .ok called
  else if obj.weakRefs.any fun ref => ref.callback = callback then
    .ok { called with weakRefs := obj.weakRefs.filter fun ref => ref.callback ≠ callback }
  else .error .fatal

def call (obj : WeakObject Callback) : WeakCall Callback → Checked (WeakObject Callback)
  | .weakRef callback => .ok (obj.weakRef callback)
  | .weakUnref callback => obj.weakUnref callback

def calls : List (WeakCall Callback) → WeakObject Callback → Checked (WeakObject Callback)
  | [], obj => .ok obj
  | first :: rest, obj => do calls rest (← obj.call first)

/-- The element that `next` points to. -/
def next : List (WeakRef Callback) → Nat → Option (WeakRef Callback)
  | [], _ => none
  | ref :: rest, id => if ref.id = id then rest.head? else next rest id

/-- The loop of `belle_sip_object_loose_weak_refs` from an element on. A notification may make any calls, which depend
on all that has happened. A walk over more elements than there are does not end. -/
def looseFrom (notify : WeakObject Callback → WeakRef Callback → List (WeakCall Callback)) :
    Nat → Option (WeakRef Callback) → WeakObject Callback → Checked (WeakObject Callback)
  | _, none, obj => .ok { obj with weakRefs := [] }
  | 0, some _, _ => .error .fatal
  | steps + 1, some ref, obj => do
      let following := next obj.weakRefs ref.id
      let told := { obj with trace := obj.trace ++ [.notified ref.id] }
      looseFrom notify steps following (← calls (notify told ref) told)

/-- This is `belle_sip_object_loose_weak_refs`. -/
def looseWeakRefs (notify : WeakObject Callback → WeakRef Callback → List (WeakCall Callback))
    (obj : WeakObject Callback) : Checked (WeakObject Callback) :=
  looseFrom notify obj.weakRefs.length obj.weakRefs.head? obj

/-- The destruction by `belle_sip_object_unref` and `belle_sip_object_delete`, as far as it concerns weak references. -/
def delete (notify : WeakObject Callback → WeakRef Callback → List (WeakCall Callback)) (obj : WeakObject Callback) :
    Checked (WeakObject Callback) := looseWeakRefs notify { obj with ref := -1 }

/-- Every registration that is not removed is notified exactly once, and one that is removed is not notified any more.
-/
def Honoured (trace : List (WeakEvent Callback)) : Prop :=
  ∀ before id callback after, trace = before ++ .registered id callback :: after →
    (.unregistered callback ∉ after → trace.count (.notified id) = 1) ∧
      ∀ middle last, after = middle ++ .unregistered callback :: last → .notified id ∉ last

/-- The elements of the list are distinct, and none is made later. -/
structure Distinct (obj : WeakObject Callback) : Prop where
  nodup : (obj.weakRefs.map WeakRef.id).Nodup
  made : ∀ ref ∈ obj.weakRefs, ref.id < obj.allocated

/-- Before the destruction the list has the registrations that are not removed. -/
structure Tracked (obj : WeakObject Callback) : Prop extends Distinct obj where
  alive : ∀ before id callback after, obj.trace = before ++ .registered id callback :: after →
    id < obj.allocated ∧ (id ∈ obj.weakRefs.map WeakRef.id ↔ .unregistered callback ∉ after) ∧
      ∀ ref ∈ obj.weakRefs, ref.id = id → ref.callback = callback
  silent : ∀ id, .notified id ∉ obj.trace

variable {obj after : WeakObject Callback} {callback : Callback}

omit [DecidableEq Callback] in
theorem split_concat {trace before after : List (WeakEvent Callback)} {event last : WeakEvent Callback}
    (whole : trace ++ [last] = before ++ event :: after) :
    (before = trace ∧ event = last ∧ after = []) ∨
      ∃ earlier, after = earlier ++ [last] ∧ trace = before ++ event :: earlier := by
  rcases List.eq_nil_or_concat after with rfl | ⟨earlier, final, rfl⟩
  · obtain ⟨same, one⟩ := List.append_inj' whole rfl
    exact .inl ⟨same.symm, (List.cons.inj one).1.symm, rfl⟩
  · rw [List.concat_eq_append, ← List.cons_append, ← List.append_assoc] at whole
    obtain ⟨same, one⟩ := List.append_inj' whole rfl
    exact .inr ⟨earlier, by rw [List.concat_eq_append, (List.cons.inj one).1], same⟩

omit [DecidableEq Callback] in
theorem distinct_weakRef (distinct : obj.Distinct) : (obj.weakRef callback).Distinct where
  nodup := by
    refine List.nodup_cons.mpr ⟨?_, distinct.nodup⟩
    intro among
    obtain ⟨ref, inside, same⟩ := List.mem_map.mp among
    exact absurd (distinct.made ref inside) (by simp only at same; omega)
  made := by
    intro ref among
    rcases List.mem_cons.mp among with rfl | among
    · exact Nat.lt_succ_self _
    · exact Nat.lt_succ_of_lt (distinct.made ref among)

omit [DecidableEq Callback] in
theorem tracked_weakRef (tracked : obj.Tracked) : (obj.weakRef callback).Tracked where
  toDistinct := distinct_weakRef tracked.toDistinct
  alive := by
    intro before id other after whole
    rcases split_concat whole with ⟨rfl, same, rfl⟩ | ⟨earlier, rfl, shorter⟩
    · cases same
      refine ⟨Nat.lt_succ_self _, iff_of_true List.mem_cons_self List.not_mem_nil, ?_⟩
      intro ref among old
      rcases List.mem_cons.mp among with rfl | among
      · rfl
      · exact absurd (tracked.made ref among) (by omega)
    · obtain ⟨less, kept, unique⟩ := tracked.alive before id other earlier shorter
      refine ⟨Nat.lt_succ_of_lt less, ?_, ?_⟩
      · rw [weakRef, List.map_cons, List.mem_cons, kept, List.mem_append]
        simp only [List.mem_singleton, reduceCtorEq, or_false]
        exact or_iff_right (by omega)
      · intro ref among same
        rcases List.mem_cons.mp among with rfl | among
        · exact absurd same (by simp only; omega)
        · exact unique ref among same
  silent := by
    intro id among
    rcases List.mem_append.mp among with among | among
    · exact tracked.silent id among
    · cases List.mem_singleton.mp among

theorem tracked_weakUnref (tracked : obj.Tracked) (living : obj.ref ≠ -1)
    (called : obj.weakUnref callback = .ok after) : after.Tracked := by
  rw [weakUnref, if_neg living] at called
  split at called
  · cases called
    refine ⟨⟨?_, ?_⟩, ?_, ?_⟩
    · exact tracked.nodup.sublist (List.filter_sublist.map _)
    · exact fun ref among => tracked.made ref (List.mem_filter.mp among).1
    · intro before id other after whole
      rcases split_concat whole with ⟨rfl, same, rfl⟩ | ⟨earlier, rfl, shorter⟩
      · cases same
      · obtain ⟨less, kept, unique⟩ := tracked.alive before id other earlier shorter
        refine ⟨less, ?_, fun ref among => unique ref (List.mem_filter.mp among).1⟩
        rw [List.mem_append, not_or, ← kept]
        constructor
        · intro among
          obtain ⟨ref, inside, same⟩ := List.mem_map.mp among
          obtain ⟨inside, apart⟩ := List.mem_filter.mp inside
          refine ⟨List.mem_map.mpr ⟨ref, inside, same⟩, ?_⟩
          rintro removed
          cases List.mem_singleton.mp removed
          exact of_decide_eq_true apart (unique ref inside same)
        · rintro ⟨among, apart⟩
          obtain ⟨ref, inside, same⟩ := List.mem_map.mp among
          refine List.mem_map.mpr ⟨ref, List.mem_filter.mpr ⟨inside, decide_eq_true ?_⟩, same⟩
          rintro rfl
          exact apart (by rw [unique ref inside same]; exact List.mem_singleton.mpr rfl)
    · intro id among
      rcases List.mem_append.mp among with among | among
      · exact tracked.silent id among
      · cases List.mem_singleton.mp among
  · cases called

/-- Before the destruction, any calls keep track of the registrations. -/
theorem tracked_calls {list : List (WeakCall Callback)} (tracked : obj.Tracked) (living : obj.ref ≠ -1)
    (called : calls list obj = .ok after) : after.Tracked := by
  induction list generalizing obj with
  | nil =>
      cases called
      exact tracked
  | cons first rest ih =>
      cases first with
      | weakRef callback => exact ih (tracked_weakRef tracked) living called
      | weakUnref callback =>
          rw [calls, call] at called
          cases result : obj.weakUnref callback with
          | error fault =>
              rw [result] at called
              cases called
          | ok next =>
              rw [result, Checked.ok_bind] at called
              refine ih (tracked_weakUnref tracked living result) ?_ called
              rw [weakUnref, if_neg living] at result
              split at result
              · cases result
                exact living
              · cases result

/-- During the destruction, calls put elements before the others and tell nobody. -/
theorem calls_deleting (list : List (WeakCall Callback)) (deleting : obj.ref = -1) (distinct : obj.Distinct) :
    ∃ (after : WeakObject Callback) (added : List (WeakRef Callback)) (events : List (WeakEvent Callback)),
      calls list obj = .ok after ∧ after.ref = -1 ∧ after.Distinct ∧ after.weakRefs = added ++ obj.weakRefs ∧
        after.trace = obj.trace ++ events ∧ ∀ id, .notified id ∉ events := by
  induction list generalizing obj with
  | nil => exact ⟨obj, [], [], rfl, deleting, distinct, rfl, (List.append_nil _).symm, fun id => List.not_mem_nil⟩
  | cons first rest ih =>
      cases first with
      | weakRef callback =>
          obtain ⟨after, added, events, called, still, distinctAfter, left, trace, silent⟩ :=
            @ih (obj.weakRef callback) deleting (distinct_weakRef distinct)
          refine ⟨after, added ++ [{ id := obj.allocated, callback := callback }],
            .registered obj.allocated callback :: events, called, still, distinctAfter, ?_, ?_, ?_⟩
          · rw [left, List.append_assoc]
            rfl
          · rw [trace, weakRef, List.append_assoc]
            rfl
          · intro id among
            rcases List.mem_cons.mp among with made | among
            · cases made
            · exact silent id among
      | weakUnref callback =>
          obtain ⟨after, added, events, called, still, distinctAfter, left, trace, silent⟩ :=
            @ih { obj with trace := obj.trace ++ [.unregistered callback] } deleting
              ⟨distinct.nodup, distinct.made⟩
          refine ⟨after, added, .unregistered callback :: events, ?_, still, distinctAfter, left, ?_, ?_⟩
          · rw [calls, call, weakUnref, if_pos deleting]
            exact called
          · rw [trace, List.append_assoc]
            rfl
          · intro id among
            rcases List.mem_cons.mp among with made | among
            · cases made
            · exact silent id among

omit [DecidableEq Callback] in
theorem next_append {passed rest : List (WeakRef Callback)} {ref : WeakRef Callback}
    (nodup : ((passed ++ ref :: rest).map WeakRef.id).Nodup) : next (passed ++ ref :: rest) ref.id = rest.head? := by
  induction passed with
  | nil => exact if_pos rfl
  | cons first passed ih =>
      rw [List.cons_append, List.map_cons, List.nodup_cons] at nodup
      have apart : first.id ≠ ref.id := by
        intro same
        exact nodup.1 (List.mem_map.mpr ⟨ref, by simp, same.symm⟩)
      rw [List.cons_append, next, if_neg apart]
      exact ih nodup.2

/-- The walk notifies the elements that are left, each of them once, whatever the notifications do. -/
theorem looseFrom_notifies {notify : WeakObject Callback → WeakRef Callback → List (WeakCall Callback)}
    {passed rest : List (WeakRef Callback)} {steps : Nat} (deleting : obj.ref = -1) (distinct : obj.Distinct)
    (shape : obj.weakRefs = passed ++ rest) (enough : rest.length ≤ steps) :
    ∃ (final : WeakObject Callback) (during : List (WeakEvent Callback)),
      looseFrom notify steps rest.head? obj = .ok final ∧ final.trace = obj.trace ++ during ∧
        ∀ id, during.count (.notified id) = (rest.map WeakRef.id).count id := by
  induction rest generalizing obj passed steps with
  | nil =>
      refine ⟨{ obj with weakRefs := [] }, [], ?_, (List.append_nil _).symm, fun id => rfl⟩
      rw [List.head?_nil, looseFrom]
  | cons ref rest ih =>
      obtain ⟨steps, rfl⟩ : ∃ fewer, steps = fewer + 1 := ⟨steps - 1, by rw [List.length_cons] at enough; omega⟩
      have following : next obj.weakRefs ref.id = rest.head? := by
        rw [shape]
        apply next_append
        rw [← shape]
        exact distinct.nodup
      obtain ⟨after, added, events, called, still, distinctAfter, left, trace, silent⟩ :=
        @calls_deleting _ _ { obj with trace := obj.trace ++ [.notified ref.id] }
          (notify { obj with trace := obj.trace ++ [.notified ref.id] } ref) deleting ⟨distinct.nodup, distinct.made⟩
      obtain ⟨final, during, walked, traceFinal, counts⟩ := @ih after (added ++ (passed ++ [ref])) steps still
        distinctAfter (by rw [left, shape]; simp only [List.append_assoc, List.singleton_append])
        (Nat.le_of_succ_le_succ enough)
      refine ⟨final, .notified ref.id :: (events ++ during), ?_, ?_, ?_⟩
      · rw [List.head?_cons, looseFrom, following, called]
        exact walked
      · rw [traceFinal, trace, List.append_assoc, List.append_assoc]
        rfl
      · intro id
        rw [List.count_cons, List.count_append, List.count_eq_zero.mpr (silent id), counts id, List.map_cons,
          List.count_cons]
        by_cases same : ref.id = id
        · rw [same]
          simp
        · simp [same]

/-- Whatever calls have been made before and whatever the notifications do, at the destruction each registration that
has been made before and not removed before is notified exactly once, and one that has been removed before is not
notified. -/
theorem registrations_notified {earlier : List (WeakCall Callback)} (lived : calls earlier {} = .ok obj)
    (notify : WeakObject Callback → WeakRef Callback → List (WeakCall Callback)) :
    ∃ final, delete notify obj = .ok final ∧
      ∀ before id callback after, obj.trace = before ++ .registered id callback :: after →
        (.unregistered callback ∉ after → final.trace.count (.notified id) = 1) ∧
          (.unregistered callback ∈ after → .notified id ∉ final.trace) := by
  have none : Tracked ({} : WeakObject Callback) := by
    refine ⟨⟨List.nodup_nil, by simp⟩, ?_, fun id => List.not_mem_nil⟩
    intro before id callback after whole
    exact absurd whole.symm (by simp)
  have tracked := tracked_calls none (show (1 : Int) ≠ -1 by decide) lived
  obtain ⟨final, during, walked, trace, counts⟩ := @looseFrom_notifies _ _ { obj with ref := -1 } notify []
    obj.weakRefs obj.weakRefs.length rfl ⟨tracked.nodup, tracked.made⟩ rfl (Nat.le_refl _)
  refine ⟨final, walked, ?_⟩
  intro before id callback after whole
  obtain ⟨-, kept, -⟩ := tracked.alive before id callback after whole
  have count : final.trace.count (.notified id) = (obj.weakRefs.map WeakRef.id).count id := by
    rw [trace, List.count_append, List.count_eq_zero.mpr (tracked.silent id), counts id, Nat.zero_add]
  constructor
  · intro remains
    rw [count]
    exact List.count_eq_one_of_mem tracked.nodup (kept.mpr remains)
  · intro removed
    rw [← List.count_eq_zero, count, List.count_eq_zero]
    exact fun among => kept.mp among removed

/-- An object with two weak references, and with a third one that has been removed. -/
def watched : WeakObject Nat where
  weakRefs := [{ id := 2, callback := 2 }, { id := 0, callback := 0 }]
  allocated := 3
  trace := [.registered 0 0, .registered 1 1, .registered 2 2, .unregistered 1]

theorem registrations_notified_two :
    ∃ final, delete (fun _ ref => if ref.callback = 2 then [.weakUnref 0] else []) watched = .ok final ∧
      ∀ before id callback after, watched.trace = before ++ .registered id callback :: after →
        (.unregistered callback ∉ after → final.trace.count (.notified id) = 1) ∧
          (.unregistered callback ∈ after → .notified id ∉ final.trace) :=
  @registrations_notified Nat _ watched [.weakRef 0, .weakRef 1, .weakRef 2, .weakUnref 1] rfl _

/-- A notification removes the registration of another one, which is notified nevertheless, and a notification makes a
registration, which is not notified. -/
theorem not_registrations_honoured :
    (∃ obj final : WeakObject Nat, calls [.weakRef 0, .weakRef 1] {} = .ok obj ∧
      delete (fun _ ref => if ref.callback = 1 then [.weakUnref 0] else []) obj = .ok final ∧ ¬Honoured final.trace) ∧
      ∃ obj final : WeakObject Nat, calls [.weakRef 0] {} = .ok obj ∧
        delete (fun _ ref => if ref.callback = 0 then [.weakRef 1] else []) obj = .ok final ∧
          ¬Honoured final.trace := by
  constructor
  · refine ⟨_, _, rfl, rfl, ?_⟩
    intro honoured
    exact absurd ((honoured [] 0 0 _ rfl).2 [.registered 1 1, .notified 1] [.notified 0] rfl) (by decide)
  · refine ⟨_, _, rfl, rfl, ?_⟩
    intro honoured
    exact absurd ((honoured [.registered 0 0, .notified 0] 1 1 [] rfl).1 (by decide)) (by decide)

end WeakObject

end BelleSip.Object
