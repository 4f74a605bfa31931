import BelleSip.Foundation.Allocation
import BelleSip.Foundation.Mime

/-
This file models how the headers of a part are put together, and proves for which headers this is done inside the
buffer.
-/

namespace BelleSip

open Foundation Foundation.Mime
open Allocation (sizeSub realloc copyTo)

/-- The codes of `belle_sip_error_code` that a marshal function returns. -/
inductive MarshalCode where
  | belleSipOk
  | belleSipBufferOverflow
  | belleSipNotImplemented
deriving DecidableEq, Repr

/-- A header of a part. Its marshal function prints a text by each call of `belle_sip_snprintf`, the name by the first
one, unless it is not implemented for the header. -/
structure PartHeader where
  texts : List Bytes
  named : texts ≠ []
  implemented : Bool := true
deriving DecidableEq, Repr

namespace PartHeader

/-- The marshalled header. -/
def text (header : PartHeader) : Bytes := header.texts.flatten

/-- The value of `vsnprintf`, which is an `int`. -/
def vsnprintf (text : Bytes) : Option Nat := if text.length < 2147483648 then some text.length else none

/-- The bytes that `vsnprintf` writes into a buffer of the given size. -/
def stored (size : Nat) (text : Bytes) : Bytes := if size = 0 then [] else text.take (size - 1) ++ [0]

/-- This is `belle_sip_snprintf_valist`. -/
def snprintfValist (buffer : Bytes) (buffSize offset : Nat) (text : Bytes) : Checked (Bytes × Nat × MarshalCode) := do
  let buffer ← copyTo buffer offset (stored (sizeSub buffSize offset) text)
  match vsnprintf text with
  | none => return (buffer, buffSize, .belleSipBufferOverflow)
  | some ret =>
      if sizeSub buffSize offset ≤ ret then return (buffer, buffSize, .belleSipBufferOverflow)
      else return (buffer, offset + ret, .belleSipOk)

/-- The calls of `belle_sip_snprintf` in a marshal function. -/
def print (buffSize : Nat) : List Bytes → Bytes → Nat → Checked (Bytes × Nat × MarshalCode)
  | [], buffer, offset => .ok (buffer, offset, .belleSipOk)
  | text :: texts, buffer, offset => do
      let (buffer, offset, error) ← snprintfValist buffer buffSize offset text
      if error = .belleSipOk then print buffSize texts buffer offset
      else return (buffer, offset, error)

/-- This is `belle_sip_object_marshal`. -/
def marshal (header : PartHeader) (buffer : Bytes) (buffSize offset : Nat) : Checked (Bytes × Nat × MarshalCode) :=
  if header.implemented then print buffSize header.texts buffer offset
  else .ok (buffer, offset, .belleSipNotImplemented)

variable {buffer : Bytes} {buffSize offset : Nat}

theorem length_stored (size : Nat) (text : Bytes) : (stored size text).length ≤ size := by
  rw [stored]
  split
  · exact Nat.zero_le _
  · rw [List.length_append, List.length_take, List.length_singleton]
    omega

/-- Inside the buffer, a text is printed if there is room for it and for the terminator; otherwise what has been printed
before is kept. -/
theorem snprintfValist_inside (text : Bytes) (less : offset ≤ buffSize) (inside : buffSize ≤ buffer.length) :
    ∃ after, after.length = buffer.length ∧ after.take offset = buffer.take offset ∧
      ((text.length < 2147483648 ∧ offset + text.length < buffSize ∧
          snprintfValist buffer buffSize offset text = .ok (after, offset + text.length, .belleSipOk) ∧
          after.take (offset + text.length) = buffer.take offset ++ text) ∨
        (¬(text.length < 2147483648 ∧ offset + text.length < buffSize) ∧
          snprintfValist buffer buffSize offset text = .ok (after, buffSize, .belleSipBufferOverflow))) := by
  have room : sizeSub buffSize offset = buffSize - offset := Allocation.sizeSub_le less
  have bound := length_stored (buffSize - offset) text
  obtain ⟨after, copied, length, written⟩ :=
    @Allocation.copyTo_inside _ buffer (stored (buffSize - offset) text) offset (by omega)
  have front : (buffer.take offset).length = offset := List.length_take_of_le (by omega)
  refine ⟨after, length, Allocation.take_front written front, ?_⟩
  rw [snprintfValist, room, copied, Checked.ok_bind, vsnprintf]
  by_cases short : text.length < 2147483648
  · rw [if_pos short]
    dsimp only
    by_cases fits : offset + text.length < buffSize
    · refine .inl ⟨short, fits, by rw [if_neg (by omega)]; rfl, ?_⟩
      have whole : stored (buffSize - offset) text = text ++ [0] := by
        rw [stored, if_neg (by omega), List.take_of_length_le (by omega)]
      rw [whole, ← List.append_assoc] at written
      exact Allocation.take_front written (by rw [List.length_append, front])
    · exact .inr ⟨fun both => fits both.2, by rw [if_pos (by omega)]; rfl⟩
  · rw [if_neg short]
    exact .inr ⟨fun both => short both.1, rfl⟩

/-- A sequence of texts is printed if there is room for all of them. -/
theorem print_inside (texts : List Bytes) (less : offset ≤ buffSize) (inside : buffSize ≤ buffer.length) :
    ∃ after, after.length = buffer.length ∧ after.take offset = buffer.take offset ∧
      (((∀ text ∈ texts, text.length < 2147483648) ∧ (texts ≠ [] → offset + texts.flatten.length < buffSize) ∧
          print buffSize texts buffer offset = .ok (after, offset + texts.flatten.length, .belleSipOk) ∧
          after.take (offset + texts.flatten.length) = buffer.take offset ++ texts.flatten) ∨
        (¬((∀ text ∈ texts, text.length < 2147483648) ∧ (texts ≠ [] → offset + texts.flatten.length < buffSize)) ∧
          print buffSize texts buffer offset = .ok (after, buffSize, .belleSipBufferOverflow))) := by
  induction texts generalizing buffer offset with
  | nil =>
      refine ⟨buffer, rfl, rfl, .inl ⟨by simp, fun more => absurd rfl more, rfl, ?_⟩⟩
      rw [List.flatten_nil, List.append_nil, List.length_nil, Nat.add_zero]
  | cons text texts ih =>
      obtain ⟨first, length, kept, ⟨short, fits, printed, written⟩ | ⟨overflows, printed⟩⟩ :=
        snprintfValist_inside text less inside
      · obtain ⟨after, lengthAfter, keptAfter, rest⟩ :=
          @ih first (offset + text.length) (Nat.le_of_lt fits) (by rw [length]; exact inside)
        have continued : print buffSize (text :: texts) buffer offset =
            print buffSize texts first (offset + text.length) := by
          rw [print, printed, Checked.ok_bind]
          exact if_pos rfl
        have keptAll : after.take offset = buffer.take offset := by
          rw [written] at keptAfter
          exact Allocation.take_front keptAfter (List.length_take_of_le (by omega))
        have total : (text :: texts).flatten.length = text.length + texts.flatten.length := by
          rw [List.flatten_cons, List.length_append]
        rw [continued, total, ← Nat.add_assoc]
        refine ⟨after, by rw [lengthAfter, length], keptAll, ?_⟩
        rcases rest with ⟨shorts, fitsAll, all, whole⟩ | ⟨overflows, all⟩
        · refine .inl ⟨?_, ?_, all, ?_⟩
          · intro other among
            rcases List.mem_cons.mp among with rfl | among
            · exact short
            · exact shorts other among
          · intro more
            by_cases last : texts = []
            · rw [last]
              exact fits
            · exact fitsAll last
          · rw [whole, written, List.flatten_cons, List.append_assoc]
        · refine .inr ⟨?_, all⟩
          rintro ⟨shorts, fitsAll⟩
          exact overflows ⟨fun other among => shorts other (List.mem_cons_of_mem text among),
            fun more => fitsAll (List.cons_ne_nil _ _)⟩
      · refine ⟨first, length, kept, .inr ⟨?_, ?_⟩⟩
        · rintro ⟨shorts, fitsAll⟩
          have enough := fitsAll (List.cons_ne_nil _ _)
          rw [List.flatten_cons, List.length_append] at enough
          exact overflows ⟨shorts text List.mem_cons_self, by omega⟩
        · rw [print, printed, Checked.ok_bind]
          exact if_neg (by decide)

end PartHeader

/-- The state of the loop in `belle_sip_multipart_body_handler_add_part`. -/
structure HeaderLoop where
  headerStringBuffer : Bytes
  headerStringBufferSize : Nat := 512
  offset : Nat := 0
  headerList : List PartHeader
deriving DecidableEq, Repr

namespace HeaderLoop

variable (fresh : Nat → UInt8)

/-- The state before the loop. -/
def start (headers : List PartHeader) : HeaderLoop where
  headerStringBuffer := realloc fresh [] 512
  headerList := headers

/-- The carriage return characters. -/
def addBreak (state : HeaderLoop) : Checked HeaderLoop := do
  let buffer ← copyTo state.headerStringBuffer state.offset lineBreak
  return { state with headerStringBuffer := buffer, offset := state.offset + 2 }

/-- One pass through the loop. -/
def pass (state : HeaderLoop) : Checked HeaderLoop :=
  match state.headerList with
  | [] => .ok state
  | header :: next => do
      let (buffer, offset, returnCode) ←
        header.marshal state.headerStringBuffer (sizeSub state.headerStringBufferSize 5) state.offset
      match returnCode with
      | .belleSipBufferOverflow =>
          let size := state.headerStringBufferSize + 512
          return { state with headerStringBuffer := realloc fresh buffer size, headerStringBufferSize := size }
      | .belleSipOk =>
          addBreak { state with headerStringBuffer := buffer, offset := offset, headerList := next }
      | .belleSipNotImplemented => return { state with headerStringBuffer := buffer, offset := offset }

def passes : Nat → HeaderLoop → Checked HeaderLoop
  | 0, state => .ok state
  | count + 1, state => do passes count (← state.pass fresh)

/-- What follows the loop. -/
def close (state : HeaderLoop) : Checked Bytes := do
  let state ← state.addBreak
  copyTo state.headerStringBuffer state.offset [0]

/-- The loop ends, no byte is written outside the buffer, `belle_sip_object_marshal` always gets a size that is not
smaller than its offset, and the text stands in the buffer in the end. -/
def Adds (state : HeaderLoop) (text : Bytes) : Prop :=
  (∀ count reached, passes fresh count state = .ok reached → reached.headerList ≠ [] →
      reached.offset ≤ sizeSub reached.headerStringBufferSize 5) ∧
    ∃ count last buffer, passes fresh count state = .ok last ∧ last.headerList = [] ∧ last.close = .ok buffer ∧
      buffer.take (text.length + 1) = text ++ [0]

variable {fresh} {state next : HeaderLoop} {done text : Bytes} {header : PartHeader} {rest : List PartHeader}

/-- The bytes that have been written so far stand in the buffer, with room for what follows the loop. -/
structure Ready (state : HeaderLoop) (done : Bytes) : Prop where
  length : state.headerStringBuffer.length = state.headerStringBufferSize
  rows : state.headerStringBufferSize % 512 = 0
  room : state.offset + 4 ≤ state.headerStringBufferSize
  written : state.headerStringBuffer.take state.offset = done
  offset : state.offset = done.length

/-- A pass through the loop keeps the question. -/
theorem adds_pass (unfinished : state.headerList ≠ []) (passed : state.pass fresh = .ok next) :
    Adds fresh state text ↔
      state.offset ≤ sizeSub state.headerStringBufferSize 5 ∧ Adds fresh next text := by
  have later : ∀ count, passes fresh (count + 1) state = passes fresh count next := by
    intro count
    rw [passes, passed, Checked.ok_bind]
  constructor
  · rintro ⟨ordered, count, last, buffer, reached, finished, closed, whole⟩
    refine ⟨ordered 0 state rfl unfinished, fun count reached all => ordered (count + 1) reached
      ((later count).trans all), ?_⟩
    cases count with
    | zero =>
        cases reached
        exact absurd finished unfinished
    | succ count => exact ⟨count, last, buffer, (later count).symm.trans reached, finished, closed, whole⟩
  · rintro ⟨first, ordered, count, last, buffer, reached, finished, closed, whole⟩
    refine ⟨?_, count + 1, last, buffer, (later count).trans reached, finished, closed, whole⟩
    intro count reached all more
    cases count with
    | zero =>
        cases all
        exact first
    | succ count => exact ordered count reached ((later count).symm.trans all) more

/-- A header that is not implemented, or prints a text whose length is no `int`. -/
def Stuck (header : PartHeader) : Prop :=
  header.implemented = false ∨ ∃ text ∈ header.texts, 2147483648 ≤ text.length

theorem print_long {texts : List Bytes} {buffer after : Bytes} {buffSize offset ended : Nat} {code : MarshalCode}
    (long : ∃ text ∈ texts, 2147483648 ≤ text.length)
    (printed : PartHeader.print buffSize texts buffer offset = .ok (after, ended, code)) : code ≠ .belleSipOk := by
  induction texts generalizing buffer offset with
  | nil =>
      obtain ⟨text, among, -⟩ := long
      cases among
  | cons first texts ih =>
      rw [PartHeader.print] at printed
      cases result : PartHeader.snprintfValist buffer buffSize offset first with
      | error fault =>
          rw [result] at printed
          cases printed
      | ok answer =>
          rw [result, Checked.ok_bind] at printed
          dsimp only at printed
          split at printed
          · next accepted =>
              apply ih _ printed
              obtain ⟨text, among, long⟩ := long
              rcases List.mem_cons.mp among with rfl | among
              · -- a text that is too long is not accepted
                rw [PartHeader.snprintfValist, PartHeader.vsnprintf, if_neg (by omega)] at result
                cases copied : copyTo buffer offset (PartHeader.stored (sizeSub buffSize offset) text) with
                | error fault =>
                    rw [copied] at result
                    cases result
                | ok written =>
                    rw [copied] at result
                    cases result
                    cases accepted
              · exact ⟨text, among, long⟩
          · next refused =>
              cases printed
              exact refused

theorem marshal_stuck {buffer after : Bytes} {buffSize offset ended : Nat} {code : MarshalCode} (stuck : Stuck header)
    (marshalled : header.marshal buffer buffSize offset = .ok (after, ended, code)) : code ≠ .belleSipOk := by
  rw [PartHeader.marshal] at marshalled
  rcases stuck with missing | long
  · rw [missing] at marshalled
    cases marshalled
    decide
  · split at marshalled
    · exact print_long long marshalled
    · cases marshalled
      decide

/-- The loop does not get past such a header. -/
theorem not_finished_stuck {count : Nat} {last : HeaderLoop} (current : state.headerList = header :: rest)
    (stuck : Stuck header) (reached : passes fresh count state = .ok last) : last.headerList ≠ [] := by
  intro finished
  induction count generalizing state with
  | zero =>
      cases reached
      rw [current] at finished
      cases finished
  | succ count ih =>
      rw [passes] at reached
      cases passed : state.pass fresh with
      | error fault =>
          rw [passed] at reached
          cases reached
      | ok next =>
          rw [passed, Checked.ok_bind] at reached
          refine ih ?_ reached
          rw [pass, current] at passed
          dsimp only at passed
          cases marshalled : header.marshal state.headerStringBuffer (sizeSub state.headerStringBufferSize 5)
              state.offset with
          | error fault =>
              rw [marshalled] at passed
              cases passed
          | ok answer =>
              obtain ⟨after, ended, code⟩ := answer
              have refused := marshal_stuck stuck marshalled
              rw [marshalled, Checked.ok_bind] at passed
              cases code with
              | belleSipOk => exact absurd rfl refused
              | belleSipBufferOverflow =>
                  cases passed
                  rfl
              | belleSipNotImplemented =>
                  cases passed
                  rfl

theorem not_adds_stuck (current : state.headerList = header :: rest) (stuck : Stuck header) :
    ¬Adds fresh state text := by
  rintro ⟨-, count, last, buffer, reached, finished, -⟩
  exact not_finished_stuck current stuck reached finished

/-- One pass over a header prints it behind what is there, or enlarges the buffer for it. -/
theorem pass_header (ready : state.Ready done) (current : state.headerList = header :: rest) (good : ¬Stuck header)
    (ordered : state.offset + 5 ≤ state.headerStringBufferSize) :
    ∃ next, state.pass fresh = .ok next ∧
      ((next.headerList = rest ∧ next.Ready (done ++ (header.text ++ lineBreak)) ∧
        next.offset = state.offset + header.text.length + 2 ∧
        next.headerStringBufferSize = state.headerStringBufferSize) ∨
      (next.headerList = header :: rest ∧ next.Ready done ∧ next.offset = state.offset ∧
        next.headerStringBufferSize = state.headerStringBufferSize + 512 ∧
        state.headerStringBufferSize ≤ state.offset + header.text.length + 5)) := by
  have short : ∀ text ∈ header.texts, text.length < 2147483648 := by
    intro text among
    by_contra long
    exact good (.inr ⟨text, among, by omega⟩)
  have implemented : header.implemented = true := by
    by_contra refused
    exact good (.inl (Bool.not_eq_true _ ▸ refused))
  have size : sizeSub state.headerStringBufferSize 5 = state.headerStringBufferSize - 5 :=
    Allocation.sizeSub_le (by omega)
  obtain ⟨length, rows, room, written, offset⟩ := ready
  obtain ⟨after, lengthAfter, kept, outcome⟩ := @PartHeader.print_inside state.headerStringBuffer
    (state.headerStringBufferSize - 5) state.offset header.texts (by omega) (by omega)
  have marshalled : header.marshal state.headerStringBuffer (sizeSub state.headerStringBufferSize 5) state.offset =
      PartHeader.print (state.headerStringBufferSize - 5) header.texts state.headerStringBuffer state.offset := by
    rw [PartHeader.marshal, if_pos implemented, size]
  rw [← PartHeader.text] at outcome
  rcases outcome with ⟨-, fits, printed, whole⟩ | ⟨overflows, printed⟩
  · have inside := fits header.named
    obtain ⟨second, broken, lengthSecond, writtenSecond⟩ :=
      @Allocation.copyTo_inside _ after lineBreak (state.offset + header.text.length) (by
        rw [lengthAfter, length]
        show _ + 2 ≤ _
        omega)
    rw [whole, written] at writtenSecond
    refine ⟨{
        headerStringBuffer := second
        headerStringBufferSize := state.headerStringBufferSize
        offset := state.offset + header.text.length + 2
        headerList := rest }, ?_, .inl ⟨rfl, ⟨?_, rows, ?_, ?_, ?_⟩, rfl, rfl⟩⟩
    · rw [pass, current]
      dsimp only
      rw [marshalled, printed, Checked.ok_bind]
      dsimp only
      rw [addBreak, broken]
      rfl
    · rw [lengthSecond, lengthAfter, length]
    · dsimp only
      omega
    · rw [← List.append_assoc]
      exact writtenSecond
    · rw [List.length_append, List.length_append, ← offset]
      rfl
  · have tight : state.headerStringBufferSize ≤ state.offset + header.text.length + 5 := by
      by_contra roomy
      exact overflows ⟨short, fun _ => by omega⟩
    refine ⟨{ state with
        headerStringBuffer := realloc fresh after (state.headerStringBufferSize + 512)
        headerStringBufferSize := state.headerStringBufferSize + 512 }, ?_,
      .inr ⟨current, ⟨Allocation.length_realloc, ?_, ?_, ?_, offset⟩, rfl, rfl, tight⟩⟩
    · rw [pass, current]
      dsimp only
      rw [marshalled, printed]
      rfl
    · dsimp only
      omega
    · dsimp only
      omega
    · dsimp only
      rw [Allocation.take_realloc (by omega) (by omega), kept, written]

/-- A header is printed after as many enlargements as it needs. -/
theorem adds_header (ready : state.Ready done) (current : state.headerList = header :: rest)
    (good : ¬Stuck header) (ordered : state.offset + 5 ≤ state.headerStringBufferSize)
    (least : state.headerStringBufferSize < state.offset + header.text.length + 2 + 4 + 512) :
    ∃ (count : Nat) (next : HeaderLoop), passes fresh count state = .ok next ∧ next.headerList = rest ∧
      next.Ready (done ++ (header.text ++ lineBreak)) ∧
      next.headerStringBufferSize < next.offset + 4 + 512 ∧ (Adds fresh state text ↔ Adds fresh next text) := by
  generalize missing : state.offset + header.text.length + 2 + 4 - state.headerStringBufferSize = bytes
  induction bytes using Nat.strong_induction_on generalizing state with
  | _ bytes ih =>
      have unfinished : state.headerList ≠ [] := by rw [current]; exact List.cons_ne_nil _ _
      have size : sizeSub state.headerStringBufferSize 5 = state.headerStringBufferSize - 5 :=
        Allocation.sizeSub_le (by omega)
      obtain ⟨after, passed, outcome⟩ := @pass_header fresh _ _ _ _ ready current good ordered
      have adds : Adds fresh state text ↔ Adds fresh after text := by
        apply (adds_pass unfinished passed).trans (and_iff_right ?_)
        rw [size]
        omega
      rcases outcome with ⟨left, readyAfter, offset, same⟩ | ⟨left, readyAfter, offset, larger, tight⟩
      · exact ⟨1, after, by rw [passes, passed]; rfl, left, readyAfter, by omega, adds⟩
      · obtain ⟨count, next, reached, leftNext, readyNext, leastNext, addsNext⟩ := ih
          (after.offset + header.text.length + 2 + 4 - after.headerStringBufferSize) (by omega) readyAfter left
          (by omega) (by omega) rfl
        exact ⟨count + 1, next, by rw [passes, passed]; exact reached, leftNext, readyNext, leastNext,
          adds.trans addsNext⟩

/-- The headers can be printed from the offset on, and no offset before one of them is at the end of its row. -/
def Fits : Nat → List PartHeader → Prop
  | _, [] => True
  | offset, header :: rest => offset % 512 ≠ 508 ∧ ¬Stuck header ∧ Fits (offset + (header.text.length + 2)) rest

/-- What follows the loop writes the last line break and the terminator. -/
theorem close_ready (ready : state.Ready done) :
    ∃ buffer, state.close = .ok buffer ∧ buffer.take (state.offset + 2 + 1) = done ++ lineBreak ++ [0] := by
  obtain ⟨length, rows, room, written, offset⟩ := ready
  obtain ⟨first, broken, lengthFirst, writtenFirst⟩ :=
    @Allocation.copyTo_inside _ state.headerStringBuffer lineBreak state.offset (by
      show _ + 2 ≤ _
      omega)
  obtain ⟨second, closed, lengthSecond, writtenSecond⟩ :=
    @Allocation.copyTo_inside _ first [0] (state.offset + 2) (by
      show _ + 1 ≤ _
      omega)
  refine ⟨second, ?_, writtenSecond.trans ?_⟩
  · rw [close, addBreak, broken]
    exact closed
  · rw [show first.take (state.offset + 2) = _ from writtenFirst, written]

theorem adds_iff {headers : List PartHeader} (ready : state.Ready done) (current : state.headerList = headers)
    (least : state.headerStringBufferSize < state.offset + 4 + 512) :
    Adds fresh state (done ++ (headerSection (headers.map PartHeader.text) ++ lineBreak)) ↔
      Fits state.offset headers := by
  induction headers generalizing state done with
  | nil =>
      refine iff_of_true ⟨?_, 0, state, ?_⟩ trivial
      · intro count reached all more
        have same : reached = state := by
          induction count with
          | zero =>
              cases all
              rfl
          | succ count ih =>
              rw [passes, pass, current, Checked.ok_bind] at all
              exact ih all
        rw [same] at more
        exact absurd current more
      · obtain ⟨buffer, closed, whole⟩ := close_ready ready
        have total : (done ++ (headerSection ([].map PartHeader.text) ++ lineBreak)).length = state.offset + 2 := by
          rw [List.length_append, ready.offset]
          rfl
        refine ⟨buffer, rfl, current, closed, ?_⟩
        rw [total]
        exact whole
  | cons header rest ih =>
      rw [Fits]
      by_cases full : state.offset % 512 = 508
      · refine iff_of_false ?_ fun fits => fits.1 full
        rintro ⟨ordered, -⟩
        have enough := ordered 0 state rfl (by rw [current]; exact List.cons_ne_nil _ _)
        have rows := ready.rows
        have room := ready.room
        rw [Allocation.sizeSub_le (by omega)] at enough
        omega
      · by_cases stuck : Stuck header
        · exact iff_of_false (not_adds_stuck current stuck) fun fits => fits.2.1 stuck
        · have rows := ready.rows
          have room := ready.room
          obtain ⟨-, next, -, left, readyNext, leastNext, same⟩ :=
            adds_header ready current stuck (by omega) (by omega)
          have whole : done ++ (headerSection ((header :: rest).map PartHeader.text) ++ lineBreak) =
              done ++ (header.text ++ lineBreak) ++ (headerSection (rest.map PartHeader.text) ++ lineBreak) := by
            rw [List.map_cons, headerSection_cons]
            simp only [List.append_assoc]
          have offset : next.offset = state.offset + (header.text.length + 2) := by
            rw [readyNext.offset, ready.offset, List.length_append, List.length_append]
            rfl
          rw [whole, same, ih readyNext left leastNext, offset]
          simp only [ne_eq, full, not_false_eq_true, stuck, true_and]

/-- The headers of a part are printed as `belle_sip_multipart_body_handler_add_part` has to; without headers there is
nothing to print. -/
def AddsHeaders (fresh : Nat → UInt8) (headers : List PartHeader) : Prop :=
  headers = [] ∨ Adds fresh (start fresh headers) (headerSection (headers.map PartHeader.text) ++ lineBreak)

/-- All headers can be printed, and no headers that others follow end four bytes before the end of a row of the
buffer. -/
def Clear (headers : List PartHeader) : Prop :=
  (∀ header ∈ headers, ¬Stuck header) ∧
    ∀ before after, before ++ after = headers → after ≠ [] →
      (headerSection (before.map PartHeader.text)).length % 512 ≠ 508

theorem fits_iff {offset : Nat} {headers : List PartHeader} :
    Fits offset headers ↔ (∀ header ∈ headers, ¬Stuck header) ∧
      ∀ before after, before ++ after = headers → after ≠ [] →
        (offset + (headerSection (before.map PartHeader.text)).length) % 512 ≠ 508 := by
  induction headers generalizing offset with
  | nil =>
      refine iff_of_true trivial ⟨by simp, ?_⟩
      intro before after whole more
      exact absurd (List.append_eq_nil_iff.mp whole).2 more
  | cons header rest ih =>
      have length : ∀ before : List PartHeader,
          offset + (headerSection ((header :: before).map PartHeader.text)).length =
            offset + (header.text.length + 2) + (headerSection (before.map PartHeader.text)).length := by
        intro before
        rw [List.map_cons, headerSection_cons, List.length_append, List.length_append]
        show _ + (_ + (2 + _)) = _
        omega
      rw [Fits, ih, List.forall_mem_cons]
      constructor
      · rintro ⟨here, good, goods, later⟩
        refine ⟨⟨good, goods⟩, ?_⟩
        intro before after whole more
        cases before with
        | nil => exact here
        | cons first before =>
            rw [List.cons_append, List.cons.injEq] at whole
            obtain ⟨rfl, whole⟩ := whole
            rw [length]
            exact later before after whole more
      · rintro ⟨⟨good, goods⟩, all⟩
        refine ⟨all [] (header :: rest) rfl (List.cons_ne_nil _ _), good, goods, ?_⟩
        intro before after whole more
        rw [← length]
        exact all (header :: before) after (by rw [List.cons_append, whole]) more

theorem start_ready {headers : List PartHeader} : Ready (start fresh headers) [] := by
  have size : (start fresh headers).headerStringBufferSize = 512 := rfl
  have offset : (start fresh headers).offset = 0 := rfl
  have buffer : (start fresh headers).headerStringBuffer = realloc fresh [] 512 := by rw [start]
  refine ⟨?_, ?_, ?_, ?_, offset⟩
  · rw [buffer, Allocation.length_realloc, size]
  · rw [size]
  · rw [size, offset]
    omega
  · rw [offset, List.take_zero]

theorem adds_start (headers : List PartHeader) :
    Adds fresh (start fresh headers) (headerSection (headers.map PartHeader.text) ++ lineBreak) ↔ Fits 0 headers :=
  adds_iff start_ready rfl (by show 512 < 0 + 4 + 512; omega)

theorem fits_start {headers : List PartHeader} : Fits 0 headers ↔ Clear headers := by
  rw [fits_iff, Clear]
  simp only [Nat.zero_add]

theorem headers_added (headers : List PartHeader) : AddsHeaders fresh headers ↔ Clear headers := by
  rw [AddsHeaders, adds_start, fits_start]
  constructor
  · rintro (none | clear)
    · subst none
      exact ⟨by simp, fun before after whole more => absurd (List.append_eq_nil_iff.mp whole).2 more⟩
    · exact clear
  · exact Or.inr

/-- A header of 506 bytes fills a row up to the last four bytes, and the size that the next header gets wraps. -/
theorem not_headers_added : ¬AddsHeaders (fun _ => 0) [
    { texts := [[97, 58, 32], List.replicate 503 98], named := List.cons_ne_nil _ _ },
    { texts := [[99, 58, 32], [100]], named := List.cons_ne_nil _ _ }] := by
  rintro (none | adds)
  · cases none
  · rw [adds_start, Fits, Fits] at adds
    have length : (PartHeader.text
        { texts := [[97, 58, 32], List.replicate 503 98], named := List.cons_ne_nil _ _ }).length = 506 := by
      rw [PartHeader.text, List.flatten_cons, List.flatten_singleton, List.length_append, List.length_replicate]
      rfl
    rw [length] at adds
    exact absurd rfl adds.2.2.1

end HeaderLoop

end BelleSip
