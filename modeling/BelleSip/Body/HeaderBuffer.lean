import BelleSip.Body.PartHeaders

/-
This file proves what the loop over the headers of a part leaves in the buffer of the part.
-/

namespace BelleSip

open Foundation Foundation.Mime
open Allocation (sizeSub realloc copyTo)

namespace HeaderLoop

variable {fresh : Nat → UInt8}

/-- The buffer and the offset that the loop and the statements behind it leave. There are none yet while the loop goes
on after the given number of passes. -/
def fill (fresh : Nat → UInt8) (count : Nat) (headers : List PartHeader) : Checked (Option (Bytes × Nat)) := do
  let state ← passes fresh count (start fresh headers)
  match state.headerList with
  | [] =>
      let buffer ← state.close
      return some (buffer, state.offset + 2)
  | _ :: _ => return none

variable {state last : HeaderLoop} {done : Bytes} {count : Nat}

theorem passes_add {first second : Nat} {next : HeaderLoop} (reached : passes fresh first state = .ok next) :
    passes fresh (first + second) state = passes fresh second next := by
  induction first generalizing state with
  | zero =>
      cases reached
      rw [Nat.zero_add]
  | succ first ih =>
      rw [Nat.succ_add, passes]
      rw [passes] at reached
      cases passed : state.pass fresh with
      | error fault =>
          rw [passed] at reached
          cases reached
      | ok middle =>
          rw [passed, Checked.ok_bind] at reached
          exact ih reached

/-- A finished loop stays where it is. -/
theorem passes_finished (finished : state.headerList = []) : passes fresh count state = .ok state := by
  induction count with
  | zero => rfl
  | succ count ih => rw [passes, pass, finished, Checked.ok_bind, ih]

/-- Every state of a loop that finishes is on the way to where it finishes. -/
theorem passes_between {first : Nat} {next : HeaderLoop} (reached : passes fresh first state = .ok next)
    (ended : passes fresh count state = .ok last) (finished : last.headerList = []) :
    ∃ left, passes fresh left next = .ok last := by
  rcases Nat.le_total first count with before | behind
  · obtain ⟨left, rfl⟩ := Nat.exists_eq_add_of_le before
    exact ⟨left, (passes_add reached).symm.trans ended⟩
  · obtain ⟨left, rfl⟩ := Nat.exists_eq_add_of_le behind
    rw [passes_add ended, passes_finished finished] at reached
    cases reached
    exact ⟨0, rfl⟩

section Overrun

variable {buffer after : Bytes} {buffSize offset ended : Nat} {code : MarshalCode}

/-- Behind the reduced size, a text can only be printed in what is left of the buffer. -/
theorem snprintfValist_behind {text : Bytes} (reduced : buffer.length = buffSize + 5) (less : offset ≤ buffer.length)
    (near : buffer.length ≤ offset + 4)
    (printed : PartHeader.snprintfValist buffer buffSize offset text = .ok (after, ended, code)) :
    after.length = buffer.length ∧ offset ≤ ended ∧ ended ≤ buffer.length ∧ code = .belleSipOk := by
  have room : sizeSub buffSize offset = buffSize + Allocation.sizeRange - offset := if_neg (by omega)
  have range : Allocation.sizeRange = 18446744073709551616 := rfl
  rw [PartHeader.snprintfValist, room] at printed
  cases copied : copyTo buffer offset (PartHeader.stored (buffSize + Allocation.sizeRange - offset) text) with
  | error fault =>
      rw [copied] at printed
      cases printed
  | ok written =>
      obtain ⟨inside, length⟩ := Allocation.copyTo_eq_ok copied
      rw [PartHeader.stored, if_neg (by omega), List.length_append, List.length_take, List.length_singleton] at inside
      rw [copied, Checked.ok_bind, PartHeader.vsnprintf, if_pos (by omega)] at printed
      dsimp only at printed
      rw [if_neg (by omega)] at printed
      cases printed
      exact ⟨length, by omega, by omega, rfl⟩

theorem print_behind {texts : List Bytes} (reduced : buffer.length = buffSize + 5) (less : offset ≤ buffer.length)
    (near : buffer.length ≤ offset + 4)
    (printed : PartHeader.print buffSize texts buffer offset = .ok (after, ended, code)) :
    after.length = buffer.length ∧ offset ≤ ended ∧ ended ≤ buffer.length ∧ code = .belleSipOk := by
  induction texts generalizing buffer offset with
  | nil =>
      cases printed
      exact ⟨rfl, Nat.le_refl _, less, rfl⟩
  | cons text texts ih =>
      rw [PartHeader.print] at printed
      cases result : PartHeader.snprintfValist buffer buffSize offset text with
      | error fault =>
          rw [result] at printed
          cases printed
      | ok answer =>
          obtain ⟨first, middle, accepted⟩ := answer
          obtain ⟨length, later, inside, rfl⟩ := snprintfValist_behind reduced less near result
          rw [result, Checked.ok_bind] at printed
          obtain ⟨lengthAfter, laterAfter, insideAfter, good⟩ :=
            ih (by omega) (by omega) (by omega) ((if_pos rfl).symm.trans printed)
          exact ⟨by omega, by omega, by omega, good⟩

/-- The offset has come too near the end of the buffer: the size for the next header wraps, or the two line breaks and
the terminator do not fit any more. -/
structure Overrun (state : HeaderLoop) : Prop where
  length : state.headerStringBuffer.length = state.headerStringBufferSize
  least : 512 ≤ state.headerStringBufferSize
  inside : state.offset ≤ state.headerStringBufferSize
  near : state.headerStringBufferSize ≤ state.offset + 4
  behind : state.headerList = [] → state.headerStringBufferSize ≤ state.offset + 2

theorem Overrun.pass {next : HeaderLoop} (overrun : state.Overrun) (passed : state.pass fresh = .ok next) :
    next.Overrun := by
  obtain ⟨length, least, inside, near, behind⟩ := overrun
  rw [HeaderLoop.pass] at passed
  cases current : state.headerList with
  | nil =>
      rw [current] at passed
      cases passed
      exact ⟨length, least, inside, near, behind⟩
  | cons header rest =>
      have size : sizeSub state.headerStringBufferSize 5 = state.headerStringBufferSize - 5 :=
        Allocation.sizeSub_le (by omega)
      rw [current] at passed
      dsimp only at passed
      rw [PartHeader.marshal, size] at passed
      by_cases implemented : header.implemented = true
      · rw [if_pos implemented] at passed
        cases printed : PartHeader.print (state.headerStringBufferSize - 5) header.texts state.headerStringBuffer
            state.offset with
        | error fault =>
            rw [printed] at passed
            cases passed
        | ok answer =>
            obtain ⟨written, ended, code⟩ := answer
            obtain ⟨lengthWritten, later, insideWritten, rfl⟩ :=
              print_behind (by omega) (by omega) (by omega) printed
            rw [printed, Checked.ok_bind] at passed
            dsimp only at passed
            rw [addBreak] at passed
            dsimp only at passed
            cases broken : copyTo written ended lineBreak with
            | error fault =>
                rw [broken] at passed
                cases passed
            | ok buffer =>
                obtain ⟨room, lengthBuffer⟩ := Allocation.copyTo_eq_ok broken
                have two : lineBreak.length = 2 := rfl
                rw [broken] at passed
                cases passed
                exact ⟨by dsimp only; omega, least, by dsimp only; omega, by dsimp only; omega,
                  fun _ => by dsimp only; omega⟩
      · rw [if_neg implemented, Checked.ok_bind] at passed
        cases passed
        exact ⟨length, least, inside, near, fun overruns => absurd overruns (List.cons_ne_nil header rest)⟩

/-- From such a state the loop does not come to its end inside the buffer. -/
theorem Overrun.not_closed {buffer : Bytes} (overrun : state.Overrun) (reached : passes fresh count state = .ok last)
    (finished : last.headerList = []) : last.close ≠ .ok buffer := by
  induction count generalizing state with
  | zero =>
      cases reached
      intro closed
      have behind := overrun.behind finished
      rw [close, addBreak] at closed
      cases broken : copyTo last.headerStringBuffer last.offset lineBreak with
      | error fault =>
          rw [broken] at closed
          cases closed
      | ok first =>
          obtain ⟨room, length⟩ := Allocation.copyTo_eq_ok broken
          rw [broken] at closed
          obtain ⟨inside, -⟩ := Allocation.copyTo_eq_ok closed
          have bound := overrun.length
          dsimp only at inside
          rw [List.length_singleton] at inside
          omega
  | succ count ih =>
      rw [passes] at reached
      cases passed : state.pass fresh with
      | error fault =>
          rw [passed] at reached
          cases reached
      | ok next =>
          rw [passed, Checked.ok_bind] at reached
          exact ih (overrun.pass passed) reached

end Overrun

/-- Where the loop ends inside the buffer, all headers have fitted, and their texts stand in the buffer. -/
theorem fits_of_closed {headers : List PartHeader} {buffer : Bytes} (ready : state.Ready done)
    (current : state.headerList = headers) (least : state.headerStringBufferSize < state.offset + 4 + 512)
    (reached : passes fresh count state = .ok last) (finished : last.headerList = [])
    (closed : last.close = .ok buffer) :
    Fits state.offset headers ∧ last.Ready (done ++ headerSection (headers.map PartHeader.text)) := by
  induction headers generalizing state done count with
  | nil =>
      rw [passes_finished current] at reached
      cases reached
      rw [List.map_nil, headerSection_nil, List.append_nil]
      exact ⟨trivial, ready⟩
  | cons header rest ih =>
      have rows := ready.rows
      have room := ready.room
      have good : ¬Stuck header := fun stuck => not_finished_stuck current stuck reached finished
      by_cases full : state.offset % 512 = 508
      · have overrun : state.Overrun := by
          refine ⟨ready.length, by omega, by omega, by omega, ?_⟩
          intro overruns
          rw [current] at overruns
          cases overruns
        exact absurd closed (overrun.not_closed reached finished)
      · obtain ⟨steps, next, printed, left, readyNext, leastNext, -⟩ :=
          @adds_header fresh state done [] header rest ready current good (by omega) (by omega)
        obtain ⟨later, ended⟩ := passes_between printed reached finished
        obtain ⟨fits, readyLast⟩ := ih readyNext left leastNext ended
        have offset : next.offset = state.offset + (header.text.length + 2) := by
          rw [readyNext.offset, ready.offset, List.length_append, List.length_append]
          rfl
        rw [offset] at fits
        refine ⟨⟨full, good, fits⟩, ?_⟩
        rw [List.map_cons, headerSection_cons]
        simpa only [List.append_assoc] using readyLast

/-- The text that the headers of a part are to be printed as. -/
def wanted (headers : List PartHeader) : Bytes := headerSection (headers.map PartHeader.text) ++ lineBreak

variable {headers : List PartHeader} {buffer : Bytes} {offset : Nat}

/-- What is left is the text of the headers with its terminator, and the headers have fitted. -/
theorem fill_spec (filled : fill fresh count headers = .ok (some (buffer, offset))) :
    Clear headers ∧ offset = (wanted headers).length ∧
      buffer.take ((wanted headers).length + 1) = wanted headers ++ [0] := by
  rw [fill] at filled
  cases reached : passes fresh count (start fresh headers) with
  | error fault =>
      rw [reached] at filled
      cases filled
  | ok last =>
      rw [reached, Checked.ok_bind] at filled
      cases finished : last.headerList with
      | cons header rest =>
          rw [finished] at filled
          cases filled
      | nil =>
          rw [finished] at filled
          dsimp only at filled
          cases closed : last.close with
          | error fault =>
              rw [closed] at filled
              cases filled
          | ok whole =>
              rw [closed] at filled
              cases filled
              have least : (start fresh headers).headerStringBufferSize < (start fresh headers).offset + 4 + 512 := by
                show 512 < 0 + 4 + 512
                omega
              obtain ⟨fits, readyLast⟩ :=
                @fits_of_closed fresh _ _ [] count headers _ start_ready rfl least reached finished closed
              rw [List.nil_append] at readyLast
              have length : last.offset + 2 = (wanted headers).length := by
                rw [wanted, List.length_append, ← readyLast.offset]
                rfl
              refine ⟨fits_start.mp fits, length, ?_⟩
              rw [← length]
              obtain ⟨again, closedAgain, whole⟩ := close_ready readyLast
              cases closedAgain.symm.trans closed
              exact whole

/-- Headers that fit are printed, however many passes are allowed beyond those that the loop makes. -/
theorem fill_clear (clear : Clear headers) :
    ∃ count buffer, ∀ more, fill fresh (count + more) headers = .ok (some (buffer, (wanted headers).length)) := by
  obtain ⟨-, count, last, buffer, reached, finished, closed, -⟩ := (adds_start headers).mpr (fits_start.mpr clear)
  have filled : ∀ more, fill fresh (count + more) headers = .ok (some (buffer, last.offset + 2)) := by
    intro more
    rw [fill, passes_add reached, passes_finished finished, Checked.ok_bind, finished]
    dsimp only
    rw [closed]
    rfl
  obtain ⟨-, offset, -⟩ := fill_spec (filled 0)
  refine ⟨count, buffer, ?_⟩
  intro more
  rw [filled more, offset]

end HeaderLoop

end BelleSip
