import Mathlib.Data.List.Basic
import Mathlib.Tactic.Common

/-
This file develops queues of frames that a transport drains by partial writes.

An answer `some count` takes `count + 1` items of the head frame, or all of them when there are
fewer. The answer `none` takes nothing.
-/

namespace Foundation.FrameQueue

variable {Item : Type*} (answers : Nat → Option Nat)

/-- The frames that remain after one answer. -/
def offer : List (List Item) → Option Nat → List (List Item)
  | [], _ => []
  | frame :: rest, none => frame :: rest
  | frame :: rest, some count =>
      if frame.length ≤ count + 1 then rest else frame.drop (count + 1) :: rest

/-- The frames that remain after `count` answers from `start` on. -/
def drain (start : Nat) : Nat → List (List Item) → List (List Item)
  | 0, frames => frames
  | count + 1, frames => drain (start + 1) count (offer frames (answers start))

@[simp] theorem offer_nil (answer : Option Nat) : offer ([] : List (List Item)) answer = [] := rfl

@[simp] theorem offer_none (frames : List (List Item)) : offer frames none = frames := by
  cases frames <;> rfl

@[simp] theorem drain_zero (start : Nat) (frames : List (List Item)) :
    drain answers start 0 frames = frames := rfl

theorem drain_succ (start count : Nat) (frames : List (List Item)) :
    drain answers start (count + 1) frames =
      drain answers (start + 1) count (offer frames (answers start)) := rfl

@[simp] theorem drain_nil (start count : Nat) :
    drain answers start count ([] : List (List Item)) = [] := by
  induction count generalizing start with
  | zero => rfl
  | succ count ih => rw [drain_succ, offer_nil, ih]

theorem drain_add (start first second : Nat) (frames : List (List Item)) :
    drain answers start (first + second) frames =
      drain answers (start + first) second (drain answers start first frames) := by
  induction first generalizing start frames with
  | zero => simp
  | succ first ih =>
      rw [Nat.succ_add, drain_succ, drain_succ, ih]
      congr 1
      omega

/-- `Served start frames stop left bytes`: every answer from `start` to `stop` takes bytes. -/
inductive Served : Nat → List (List Item) → Nat → List (List Item) → List Item → Prop where
  | refl (start : Nat) (frames : List (List Item)) : Served start frames start frames []
  | step {start stop count : Nat} {frame : List Item} {rest left : List (List Item)}
      {bytes : List Item} (answer : answers start = some count)
      (later : Served (start + 1) (offer (frame :: rest) (some count)) stop left bytes) :
      Served start (frame :: rest) stop left (frame.take (count + 1) ++ bytes)

variable {answers}

namespace Served

variable {frames left : List (List Item)} {bytes : List Item} {start stop : Nat}

theorem le (served : Served answers start frames stop left bytes) : start ≤ stop := by
  induction served with
  | refl => exact Nat.le_refl _
  | step _ _ ih => omega

theorem trans {start middle stop : Nat} {frames between left : List (List Item)}
    {first second : List Item} (early : Served answers start frames middle between first)
    (late : Served answers middle between stop left second) :
    Served answers start frames stop left (first ++ second) := by
  induction early with
  | refl => exact late
  | step answer _ ih =>
      rw [List.append_assoc]
      exact .step answer (ih late)

/-- Frames behind the served ones stay untouched. -/
theorem append (served : Served answers start frames stop left bytes) (behind : List (List Item)) :
    Served answers start (frames ++ behind) stop (left ++ behind) bytes := by
  induction served with
  | refl => exact .refl _ _
  | @step start stop count frame rest left bytes answer _ ih =>
      refine .step answer ?_
      have moved : offer (frame :: (rest ++ behind)) (some count) =
          offer (frame :: rest) (some count) ++ behind := by
        simp only [offer]
        split <;> rfl
      change Served answers (start + 1) (offer (frame :: (rest ++ behind)) (some count)) _ _ _
      rw [moved]
      exact ih

theorem drain_eq (served : Served answers start frames stop left bytes) :
    drain answers start (stop - start) frames = left := by
  induction served with
  | refl => simp
  | @step start stop count frame rest left bytes answer later ih =>
      have ahead := later.le
      rw [show stop - start = (stop - (start + 1)) + 1 by omega, drain_succ, answer, ih]

/-- No bytes are lost: what was taken and what is left make up the frames. -/
theorem flatten_eq (served : Served answers start frames stop left bytes) :
    bytes ++ left.flatten = frames.flatten := by
  induction served with
  | refl => simp
  | @step start stop count frame rest left bytes answer _ ih =>
      rw [List.append_assoc, ih, List.flatten_cons]
      simp only [offer]
      split
      next short => rw [List.take_of_length_le short]
      next => rw [List.flatten_cons, ← List.append_assoc, List.take_append_drop]

/-- Frames are finished in order, so the frames left are an end of the last frames. -/
theorem suffix (served : Served answers start frames stop left bytes) :
    left.length ≤ frames.length ∧
      left.flatten <:+ (frames.drop (frames.length - left.length)).flatten := by
  induction served with
  | refl => simp
  | @step start stop count frame rest left bytes answer _ ih =>
      simp only [offer] at ih
      split at ih
      next =>
        refine ⟨Nat.le_succ_of_le ih.1, ?_⟩
        rw [List.length_cons, Nat.succ_sub ih.1]
        exact ih.2
      next =>
        refine ⟨ih.1, ih.2.trans ?_⟩
        rw [List.length_cons, List.length_cons]
        cases rest.length + 1 - left.length with
        | zero =>
            rw [List.drop_zero, List.drop_zero, List.flatten_cons, List.flatten_cons]
            exact ⟨frame.take (count + 1), by rw [← List.append_assoc, List.take_append_drop]⟩
        | succ later => exact List.suffix_refl _

/-- Every answer in the served range takes bytes. -/
theorem answered (served : Served answers start frames stop left bytes) {index : Nat} (from_start : start ≤ index)
    (before : index < stop) : answers index ≠ none := by
  induction served with
  | refl => omega
  | @step start stop count frame rest left bytes answer _ ih =>
      by_cases first : index = start
      · simp [first, answer]
      · exact ih (by omega) before

end Served

/-- One answer serves the first job; a job without frames is finished. -/
def offerJobs : List (List (List Item)) → Option Nat → List (List (List Item))
  | [], _ => []
  | job :: rest, answer =>
      match offer job answer with
      | [] => rest
      | frame :: frames => (frame :: frames) :: rest

variable (answers)

/-- The jobs that remain after `count` answers from `start` on. -/
def drainJobs (start : Nat) : Nat → List (List (List Item)) → List (List (List Item))
  | 0, jobs => jobs
  | count + 1, jobs => drainJobs (start + 1) count (offerJobs jobs (answers start))

theorem drainJobs_add (start first second : Nat) (jobs : List (List (List Item))) :
    drainJobs answers start (first + second) jobs =
      drainJobs answers (start + first) second (drainJobs answers start first jobs) := by
  induction first generalizing start jobs with
  | zero => simp [drainJobs]
  | succ first ih =>
      rw [Nat.succ_add, drainJobs, drainJobs, ih]
      congr 1
      omega

variable {answers}

/-- The jobs behind a served job stay untouched until it is finished. -/
theorem Served.drainJobs_eq {start stop : Nat} {job left : List (List Item)} {bytes : List Item}
    (served : Served answers start job stop left bytes) (nonempty : job ≠ [])
    (rest : List (List (List Item))) :
    drainJobs answers start (stop - start) (job :: rest) = if left = [] then rest else left :: rest := by
  induction served with
  | refl start job => simp [drainJobs, nonempty]
  | @step start stop count frame frames left bytes answer later ih =>
      have ahead := later.le
      rw [show stop - start = (stop - (start + 1)) + 1 by omega, drainJobs, answer, offerJobs]
      cases remaining : offer (frame :: frames) (some count) with
      | cons next others =>
          rw [remaining] at ih
          exact ih (List.cons_ne_nil _ _)
      | nil =>
          rw [remaining] at later
          cases later with
          | refl => simp [drainJobs]

end Foundation.FrameQueue
