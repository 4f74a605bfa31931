import BelleSip.Body.Handler

/-
This file defines how a multipart body handler puts its parts together, and proves what it sends.
-/

namespace BelleSip

open Foundation Foundation.Mime

/-- This is `BELLESIP_MULTIPART_BOUNDARY`, the boundary that the field `Content-type` declares. -/
def bellesipMultipartBoundary : Bytes :=
  "---------------------------14737809831466499882746641449".toList.map Char.toUInt8

/-- This is `MULTIPART_SEPARATOR`. -/
def multipartSeparator : Bytes := hyphens ++ (bellesipMultipartBoundary ++ lineBreak)

/-- This is `MULTIPART_END`. -/
def multipartEnd : Bytes := lineBreak ++ (hyphens ++ (bellesipMultipartBoundary ++ (hyphens ++ lineBreak)))

/-- The string in `headerStringBuffer`, up to its terminator, is sent before the content of a part. The buffer is null
for a part without headers. -/
def PartBodyHandler.headerString (part : PartBodyHandler) : Bytes :=
  (part.headerStringBuffer.getD []).takeWhile (· ≠ 0)

/-- The headers as the loop of `belle_sip_multipart_body_handler_add_part` marshals them. -/
def PartBodyHandler.headerList (part : PartBodyHandler) : List PartHeader := part.headers.map Subtype.val

/-- This is `belle_sip_multipart_body_handler_t`. Its list begins with the current part, whose `transfered_size` is
the field `partTransfered`; the parts behind it have given nothing. -/
structure MultipartBodyHandler where
  expectedSize : Nat
  transferedSize : Nat := 0
  parts : List PartBodyHandler := []
  partTransfered : Nat := 0

namespace MultipartBodyHandler

/-- A part whose headers take the given number of bytes is put behind the others. -/
def append (obj : MultipartBodyHandler) (part : PartBodyHandler) (offset : Nat) : MultipartBodyHandler :=
  { obj with
    expectedSize := obj.expectedSize + (part.expectedSize + multipartSeparator.length) + offset
    parts := obj.parts ++ [part] }

/-- This is `belle_sip_multipart_body_handler_add_part`. There is no result yet while its loop goes on after the given
number of passes. -/
def addPart (fresh : Nat → UInt8) (passes : Nat) (obj : MultipartBodyHandler) (part : PartBodyHandler) :
    Checked (Option MultipartBodyHandler) :=
  if bare : part.headers = [] then .ok (some (obj.append part 0))
  else do
    match ← HeaderLoop.fill fresh passes part.headerList with
    | none => return none
    | some (buffer, offset) =>
        let printed := { part with headerStringBuffer := some buffer, bare := fun none => absurd none bare }
        return some (obj.append printed offset)

/-- All the parts are added. -/
def addParts (fresh : Nat → UInt8) (passes : Nat) :
    List PartBodyHandler → MultipartBodyHandler → Checked (Option MultipartBodyHandler)
  | [], obj => .ok (some obj)
  | part :: rest, obj => do
      match ← addPart fresh passes obj part with
      | none => return none
      | some obj => addParts fresh passes rest obj

/-- This is `belle_sip_multipart_body_handler_new` without a first part. -/
def empty : MultipartBodyHandler where
  expectedSize := multipartEnd.length

/-- The handler of some parts whose headers have been printed. -/
def new (parts : List PartBodyHandler) : MultipartBodyHandler :=
  parts.foldl (fun obj part => obj.append part part.headerString.length) empty

/-- What is put before the bytes of the current part. -/
def opening (obj : MultipartBodyHandler) (currentPart : PartBodyHandler) : Bytes :=
  if obj.partTransfered = 0 then multipartSeparator ++ currentPart.headerString else []

/-- The current part gives its bytes, and the next part or the end of the body follows. -/
def give (obj : MultipartBodyHandler) (currentPart : PartBodyHandler) (next : List PartBodyHandler) (size : Nat) :
    MultipartBodyHandler × Chunk :=
  let offset := obj.opening currentPart
  let chunk := currentPart.sendChunk obj.partTransfered (size - offset.length)
  let size := chunk.size + offset.length
  let bytes := offset ++ chunk.bytes
  let partTransfered := obj.partTransfered + chunk.size
  if chunk.code = .belleSipContinue then
    ({ obj with partTransfered := partTransfered }, { size := size, bytes := bytes, code := .belleSipContinue })
  else if next ≠ [] then
    ({ obj with parts := next, partTransfered := 0 }, { size := size, bytes := bytes, code := .belleSipContinue })
  else
    ({ obj with partTransfered := partTransfered },
      { size := size + multipartEnd.length, bytes := bytes ++ multipartEnd, code := .belleSipStop })

/-- This is `belle_sip_multipart_body_handler_send_chunk`. -/
def chunkSend (obj : MultipartBodyHandler) (size : Nat) : Checked (MultipartBodyHandler × Chunk) :=
  match obj.parts with
  | [] => .error .nullPointer
  | currentPart :: next =>
      -- the size would wrap, and the part would write behind the buffer
      if size < multipartEnd.length then .error .fatal
      else
        let size := size - multipartEnd.length
        if obj.partTransfered = 0 ∧ size < currentPart.headerString.length + multipartSeparator.length + 1 then
          .ok (obj, { size := size, bytes := [], code := .belleSipBufferOverflow })
        else .ok (obj.give currentPart next size)

/-- This is `belle_sip_body_handler_send_chunk` on a multipart body handler. -/
def sendChunk (obj : MultipartBodyHandler) (size : Nat) : Checked (MultipartBodyHandler × Chunk) := do
  let (obj, chunk) ← obj.chunkSend (askedSize obj.expectedSize obj.transferedSize size)
  let transferedSize := obj.transferedSize + chunk.size
  return ({ obj with transferedSize := transferedSize },
    { chunk with code := returnedCode obj.expectedSize transferedSize chunk.code })

/-- The bytes of the calls up to the one that returns `BELLE_SIP_STOP`, if it is among the given number of calls and
no call before it fails. -/
def send (sizes : Nat → Nat) : Nat → MultipartBodyHandler → Option Bytes
  | 0, _ => none
  | calls + 1, obj =>
      match obj.sendChunk (sizes 0) with
      | .error _ => none
      | .ok (obj, chunk) =>
          match chunk.code with
          | .belleSipContinue => (send (fun call => sizes (call + 1)) calls obj).map (chunk.bytes ++ ·)
          | .belleSipStop => some chunk.bytes
          | .belleSipBufferOverflow => none

/-- The size of the separators, headers and contents that the parts announce. -/
def announced : List PartBodyHandler → Nat
  | [] => 0
  | part :: rest => part.expectedSize + multipartSeparator.length + part.headerString.length + announced rest

/-- The handler is about to send these parts and the end of the body, and they have the announced size. -/
def Begins (obj : MultipartBodyHandler) (parts : List PartBodyHandler) : Prop :=
  obj.parts = parts ∧ obj.partTransfered = 0 ∧
    obj.expectedSize = obj.transferedSize + announced parts + multipartEnd.length

theorem multipartSeparator_pos : 0 < multipartSeparator.length := by decide

theorem multipartEnd_pos : 0 < multipartEnd.length := by decide

theorem new_begins (parts : List PartBodyHandler) : (new parts).Begins parts ∧ (new parts).transferedSize = 0 := by
  have added : ∀ (parts : List PartBodyHandler) (obj : MultipartBodyHandler),
      parts.foldl (fun obj part => obj.append part part.headerString.length) obj =
        { obj with expectedSize := obj.expectedSize + announced parts, parts := obj.parts ++ parts } := by
    intro parts
    induction parts with
    | nil =>
        intro obj
        rw [List.foldl_nil, List.append_nil, announced, Nat.add_zero]
    | cons part rest ih =>
        intro obj
        rw [List.foldl_cons, ih, append]
        simp only [announced, List.append_assoc, List.singleton_append]
        congr 1
        omega
  rw [new, added, empty]
  refine ⟨⟨rfl, rfl, ?_⟩, rfl⟩
  simp only
  omega

variable {sizes : Nat → Nat} {obj : MultipartBodyHandler} {body : Bytes} {calls : Nat}

/-- A call with room for the opening and one byte takes the next bytes of the current part. -/
theorem sendChunk_spec {part : PartBodyHandler} {next : List PartBodyHandler} (size : Nat)
    (parts : obj.parts = part :: next) (inside : obj.partTransfered ≤ part.content.length)
    (roomy : (obj.opening part).length + multipartEnd.length ≤ min size (obj.expectedSize - obj.transferedSize))
    (oneByte : obj.partTransfered = 0 ∨ obj.partTransfered < part.content.length ∧ part.expectedSize ≠ 0 →
      (obj.opening part).length + multipartEnd.length < min size (obj.expectedSize - obj.transferedSize)) :
    ∃ given, obj.partTransfered + given ≤ part.content.length ∧
      (obj.opening part).length + given + multipartEnd.length ≤ obj.expectedSize - obj.transferedSize ∧
      (obj.partTransfered < part.content.length →
        (obj.opening part).length + multipartEnd.length < min size (obj.expectedSize - obj.transferedSize) →
            0 < given) ∧
      let bytes := obj.opening part ++ (part.content.drop obj.partTransfered).take given
      (obj.partTransfered + given < part.content.length →
        obj.sendChunk size = .ok ({ obj with
            transferedSize := obj.transferedSize + (given + (obj.opening part).length)
            partTransfered := obj.partTransfered + given },
          { size := given + (obj.opening part).length, bytes := bytes, code := .belleSipContinue })) ∧
      (obj.partTransfered + given = part.content.length → next ≠ [] →
        obj.sendChunk size = .ok ({ obj with
            transferedSize := obj.transferedSize + (given + (obj.opening part).length)
            parts := next
            partTransfered := 0 },
          { size := given + (obj.opening part).length, bytes := bytes, code := .belleSipContinue })) ∧
      (obj.partTransfered + given = part.content.length → next = [] →
        ∃ ended chunk, obj.sendChunk size = .ok (ended, chunk) ∧ chunk.bytes = bytes ++ multipartEnd ∧
          chunk.code = .belleSipStop) := by
  have positive := multipartEnd_pos
  have known : obj.expectedSize ≠ 0 := by omega
  have asked : askedSize obj.expectedSize obj.transferedSize size =
      min size (obj.expectedSize - obj.transferedSize) := if_pos known
  generalize available : min size (obj.expectedSize - obj.transferedSize) = room at *
  obtain ⟨given, sizes, less, within, bytes, progress, goesOn⟩ := part.sendChunk_spec
    (room - multipartEnd.length - (obj.opening part).length) inside (by omega)
  have sent : obj.chunkSend room = .ok (obj.give part next (room - multipartEnd.length)) := by
    have opened : obj.partTransfered = 0 →
        (obj.opening part).length = multipartSeparator.length + part.headerString.length := by
      intro first
      rw [opening, if_pos first, List.length_append]
    rw [chunkSend, parts]
    simp only
    rw [if_neg (by omega), if_neg (by omega)]
  have code : returnedCode obj.expectedSize (obj.transferedSize + (given + (obj.opening part).length))
      .belleSipContinue = .belleSipContinue := by
    rw [returnedCode, if_neg (by omega)]
  refine ⟨given, within, by omega, ?_, ?_, ?_, ?_⟩
  · intro left enough
    exact progress left (by omega)
  · intro left
    rw [sendChunk, asked, sent, give, sizes, bytes, if_pos (goesOn.mpr left)]
    simp only [Checked.ok_bind, code]
    rfl
  · intro all more
    rw [sendChunk, asked, sent, give, sizes, bytes, if_neg (by rw [goesOn]; omega), if_pos more]
    simp only [Checked.ok_bind, code]
    rfl
  · intro all last
    rw [sendChunk, asked, sent, give, sizes, bytes, if_neg (by rw [goesOn]; omega), if_neg (by rw [last]; simp)]
    refine ⟨_, _, rfl, rfl, ?_⟩
    simp [returnedCode]

theorem send_continue {obj after : MultipartBodyHandler} {chunk : Chunk}
    (called : obj.sendChunk (sizes 0) = .ok (after, chunk)) (code : chunk.code = .belleSipContinue) (calls : Nat) :
    send sizes (calls + 1) obj = (send (fun call => sizes (call + 1)) calls after).map (chunk.bytes ++ ·) := by
  rw [send, called]
  simp only [code]

theorem send_stop {obj after : MultipartBodyHandler} {chunk : Chunk}
    (called : obj.sendChunk (sizes 0) = .ok (after, chunk)) (code : chunk.code = .belleSipStop) (calls : Nat) :
    send sizes (calls + 1) obj = some chunk.bytes := by
  rw [send, called]
  simp only [code]

theorem send_succ (sent : send sizes calls obj = some body) : send sizes (calls + 1) obj = some body := by
  induction calls generalizing obj sizes body with
  | zero => cases sent
  | succ calls ih =>
      rw [send] at sent ⊢
      split at sent
      · cases sent
      · next after chunk called =>
          split at sent
          · next code =>
              obtain ⟨rest, sentRest, whole⟩ := Option.map_eq_some_iff.mp sent
              simp only [ih sentRest, Option.map_some, whole]
          · exact sent
          · cases sent

/-- The body does not depend on the number of calls. -/
theorem send_unique {calls others : Nat} {body other : Bytes} (sent : send sizes calls obj = some body)
    (sentOther : send sizes others obj = some other) : body = other := by
  have later : ∀ more, send sizes (calls + more) obj = some body := by
    intro more
    induction more with
    | zero => exact sent
    | succ more ih => exact send_succ ih
  have laterOther : ∀ more, send sizes (others + more) obj = some other := by
    intro more
    induction more with
    | zero => exact sentOther
    | succ more ih => exact send_succ ih
  have same := later others
  rw [Nat.add_comm, laterOther calls] at same
  exact (Option.some.inj same).symm

/-- Whatever is sent while the current part has given nothing begins with a separator. -/
theorem separator_prefix (first : obj.partTransfered = 0) (sent : send sizes calls obj = some body) :
    multipartSeparator <+: body := by
  have positive := multipartEnd_pos
  cases calls with
  | zero => cases sent
  | succ calls =>
      rw [send, sendChunk, chunkSend] at sent
      cases parts : obj.parts with
      | nil =>
          rw [parts] at sent
          cases sent
      | cons part next =>
          rw [parts] at sent
          simp only at sent
          generalize room : askedSize obj.expectedSize obj.transferedSize (sizes 0) = size at sent
          split at sent
          · cases sent
          · next calls' after chunk called =>
              by_cases wraps : size < multipartEnd.length
              · rw [if_pos wraps] at called
                cases called
              · rw [if_neg wraps] at called
                split at called
                · -- the code of an overflow is returned, for the announced size is not reached
                  next overflow =>
                    simp only [Checked.ok_bind, pure, Except.pure, Except.ok.injEq, Prod.mk.injEq] at called
                    have code : chunk.code = .belleSipBufferOverflow := by
                      rw [← called.2]
                      simp only [returnedCode]
                      rw [if_neg]
                      rintro ⟨known, reached⟩
                      rw [askedSize, if_pos known] at room
                      omega
                    rw [code] at sent
                    cases sent
                · simp only [Checked.ok_bind, pure, Except.pure, Except.ok.injEq, Prod.mk.injEq] at called
                  have begins : multipartSeparator <+: chunk.bytes := by
                    rw [← called.2]
                    simp only [give, opening, if_pos first]
                    split
                    · exact ⟨_, by rw [List.append_assoc]⟩
                    · split
                      · exact ⟨_, by rw [List.append_assoc]⟩
                      · exact ⟨_, by rw [List.append_assoc, List.append_assoc]⟩
                  split at sent
                  · obtain ⟨rest, sentRest, rfl⟩ := Option.map_eq_some_iff.mp sent
                    exact begins.trans (List.prefix_append _ _)
                  · cases sent
                    exact begins
                  · cases sent

/-- The rest of a part that is not the last one is followed by a separator. -/
theorem within_prefix (obj : MultipartBodyHandler) {part : PartBodyHandler} {next : List PartBodyHandler}
    (parts : obj.parts = part :: next) (more : next ≠ []) (begun : 0 < obj.partTransfered)
    (inside : obj.partTransfered ≤ part.content.length)
    (fits : obj.transferedSize + multipartEnd.length ≤ obj.expectedSize) (known : part.expectedSize ≠ 0 →
      obj.transferedSize + (part.content.length - obj.partTransfered) + multipartEnd.length < obj.expectedSize)
    (roomy : ∀ call, multipartEnd.length < sizes call) (sent : send sizes calls obj = some body) :
    part.content.drop obj.partTransfered ++ multipartSeparator <+: body := by
  induction calls generalizing obj sizes body with
  | zero => cases sent
  | succ calls ih =>
      have notFirst : obj.opening part = [] := if_neg (by omega)
      have room := roomy 0
      obtain ⟨given, within, bound, progress, goesOn, toNext, toEnd⟩ :=
        sendChunk_spec (sizes 0) parts inside (by rw [notFirst, List.length_nil]; omega) (by
          rw [notFirst, List.length_nil]
          intro asked
          omega)
      rw [notFirst, List.length_nil] at bound goesOn toNext
      rw [List.nil_append] at goesOn toNext
      have taken := List.take_append_drop given (part.content.drop obj.partTransfered)
      rw [List.drop_drop] at taken
      by_cases left : obj.partTransfered + given < part.content.length
      · rw [send_continue (goesOn left) rfl] at sent
        obtain ⟨rest, sentRest, rfl⟩ := Option.map_eq_some_iff.mp sent
        have prefixed := ih { obj with
            transferedSize := obj.transferedSize + (given + 0), partTransfered := obj.partTransfered + given }
          parts (Nat.lt_of_lt_of_le begun (Nat.le_add_right _ _)) within (by simp only; omega) (by
            intro isKnown
            have enough := known isKnown
            simp only
            omega) (fun call => roomy (call + 1)) sentRest
        have whole : part.content.drop obj.partTransfered ++ multipartSeparator =
            (part.content.drop obj.partTransfered).take given ++
              (part.content.drop (obj.partTransfered + given) ++ multipartSeparator) := by
          rw [← List.append_assoc, taken]
        rw [whole]
        exact (List.prefix_append_right_inj _).mpr prefixed
      · have all : obj.partTransfered + given = part.content.length := by omega
        rw [send_continue (toNext all more) rfl] at sent
        obtain ⟨rest, sentRest, rfl⟩ := Option.map_eq_some_iff.mp sent
        have prefixed := separator_prefix rfl sentRest
        have whole : (part.content.drop obj.partTransfered).take given = part.content.drop obj.partTransfered := by
          apply List.take_of_length_le
          rw [List.length_drop]
          omega
        rw [whole]
        exact (List.prefix_append_right_inj _).mpr prefixed

/-- The rest of the last part is followed by the end of the body. -/
theorem within_last (obj : MultipartBodyHandler) {part : PartBodyHandler} (sizes : Nat → Nat)
    (parts : obj.parts = [part])
    (begun : 0 < obj.partTransfered) (inside : obj.partTransfered < part.content.length)
    (total : obj.expectedSize =
      obj.transferedSize + (part.content.length - obj.partTransfered) + multipartEnd.length)
    (roomy : ∀ call, multipartEnd.length < sizes call) :
    ∃ calls, send sizes calls obj = some (part.content.drop obj.partTransfered ++ multipartEnd) := by
  generalize size : part.content.length - obj.partTransfered = left
  induction left using Nat.strong_induction_on generalizing obj sizes with
  | _ left ih =>
      have notFirst : obj.opening part = [] := if_neg (by omega)
      have room := roomy 0
      obtain ⟨given, within, bound, progress, goesOn, toNext, toEnd⟩ :=
        sendChunk_spec (sizes 0) parts (Nat.le_of_lt inside) (by rw [notFirst, List.length_nil]; omega) (by
          rw [notFirst, List.length_nil]
          intro asked
          omega)
      have positive := progress inside (by rw [notFirst, List.length_nil]; omega)
      rw [notFirst, List.length_nil] at bound goesOn
      rw [notFirst] at toEnd
      rw [List.nil_append] at goesOn toEnd
      have taken := List.take_append_drop given (part.content.drop obj.partTransfered)
      rw [List.drop_drop] at taken
      by_cases unfinished : obj.partTransfered + given < part.content.length
      · obtain ⟨calls, sent⟩ := ih (part.content.length - (obj.partTransfered + given)) (by omega)
          { obj with
            transferedSize := obj.transferedSize + (given + 0), partTransfered := obj.partTransfered + given }
          (fun call => sizes (call + 1)) parts (Nat.lt_of_lt_of_le begun (Nat.le_add_right _ _)) unfinished
          (by simp only; omega) (fun call => roomy (call + 1)) rfl
        refine ⟨calls + 1, ?_⟩
        rw [send_continue (goesOn unfinished) rfl, sent, Option.map_some, ← List.append_assoc, taken]
      · obtain ⟨ended, chunk, called, bytes, code⟩ := toEnd (by omega) rfl
        refine ⟨1, ?_⟩
        rw [send_stop called code, bytes, List.take_of_length_le (by rw [List.length_drop]; omega)]

theorem announced_pos {parts : List PartBodyHandler} (more : parts ≠ []) :
    multipartSeparator.length ≤ announced parts := by
  obtain ⟨part, rest, rfl⟩ := List.exists_cons_of_ne_nil more
  rw [announced]
  omega

variable {obj : MultipartBodyHandler} {part : PartBodyHandler} {next : List PartBodyHandler} {sizes : Nat → Nat}

/-- A part without content that is not the last one is an opening. -/
theorem send_empty (begins : obj.Begins (part :: next)) (more : next ≠ []) (empty : part.content = [])
    (roomy : multipartSeparator.length + part.headerString.length + 1 + multipartEnd.length ≤ sizes 0) :
    ∃ after : MultipartBodyHandler, after.Begins next ∧ after.expectedSize = obj.expectedSize ∧
      after.transferedSize = obj.transferedSize + (multipartSeparator ++ part.headerString).length ∧
      ∀ calls, send sizes (calls + 1) obj = (send (fun call => sizes (call + 1)) calls after).map
        ((multipartSeparator ++ part.headerString) ++ ·) := by
  obtain ⟨parts, first, total⟩ := begins
  have opened : obj.opening part = multipartSeparator ++ part.headerString := if_pos first
  have length : (multipartSeparator ++ part.headerString).length =
      multipartSeparator.length + part.headerString.length := List.length_append
  have announcedNext := announced_pos more
  have positive := multipartSeparator_pos
  have unknown := part.expectedSize_of_empty empty
  rw [announced, unknown] at total
  obtain ⟨given, within, bound, progress, goesOn, toNext, toEnd⟩ :=
    sendChunk_spec (sizes 0) parts (by rw [first]; omega) (by rw [opened, length]; omega) (by
      rw [opened, length]
      intro asked
      omega)
  have none : given = 0 := by
    rw [empty, List.length_nil] at within
    omega
  have called := toNext (by rw [first, none, empty]; rfl) more
  rw [opened, none, empty, List.drop_nil, List.take_nil, List.append_nil, Nat.zero_add] at called
  refine ⟨{ obj with
    transferedSize := obj.transferedSize + (multipartSeparator ++ part.headerString).length
    parts := next
    partTransfered := 0 }, ⟨rfl, rfl, ?_⟩, rfl, rfl, send_continue called rfl⟩
  simp only [length]
  omega

/-- A part with content that is not the last one is followed at once by the next separator. -/
theorem send_nonempty (begins : obj.Begins (part :: next)) (more : next ≠ []) (filled : part.content ≠ [])
    (roomy : ∀ call, multipartSeparator.length + part.headerString.length + 1 + multipartEnd.length ≤ sizes call)
    (sent : send sizes calls obj = some body) :
    (multipartSeparator ++ part.headerString) ++ (part.content ++ multipartSeparator) <+: body := by
  obtain ⟨parts, first, total⟩ := begins
  cases calls with
  | zero => cases sent
  | succ calls =>
      have opened : obj.opening part = multipartSeparator ++ part.headerString := if_pos first
      have length : (multipartSeparator ++ part.headerString).length =
      multipartSeparator.length + part.headerString.length := List.length_append
      have announcedNext := announced_pos more
      have positive := multipartSeparator_pos
      have written := List.length_pos_iff.mpr filled
      have room := roomy 0
      rw [announced] at total
      have enough : (obj.opening part).length + multipartEnd.length <
          min (sizes 0) (obj.expectedSize - obj.transferedSize) := by
        rw [opened, length]
        omega
      obtain ⟨given, within, bound, progress, goesOn, toNext, toEnd⟩ :=
        sendChunk_spec (sizes 0) parts (by omega) (by omega) (fun _ => enough)
      have begun := progress (by omega) enough
      rw [opened, length] at bound
      rw [opened, first, List.drop_zero] at goesOn toNext
      rw [Nat.zero_add] at goesOn toNext
      have taken := List.take_append_drop given part.content
      by_cases left : given < part.content.length
      · rw [send_continue (goesOn left) rfl] at sent
        obtain ⟨rest, sentRest, rfl⟩ := Option.map_eq_some_iff.mp sent
        have prefixed := within_prefix { obj with
            transferedSize := obj.transferedSize + (given + (multipartSeparator ++ part.headerString).length)
            partTransfered := given }
          parts more begun (Nat.le_of_lt left) (by simp only [length]; omega) (by
            intro known
            have declared := part.expectedSize_eq known
            simp only [length]
            omega) (fun call => by have enough := roomy (call + 1); omega) sentRest
        have whole : part.content ++ multipartSeparator =
            part.content.take given ++ (part.content.drop given ++ multipartSeparator) := by
          rw [← List.append_assoc, taken]
        rw [whole, ← List.append_assoc]
        exact (List.prefix_append_right_inj _).mpr prefixed
      · have all : given = part.content.length := by omega
        rw [send_continue (toNext all more) rfl] at sent
        obtain ⟨rest, sentRest, rfl⟩ := Option.map_eq_some_iff.mp sent
        have prefixed := separator_prefix rfl sentRest
        rw [all, List.take_length, ← List.append_assoc]
        exact (List.prefix_append_right_inj _).mpr prefixed

/-- A last part whose content has a known size is sent as a whole. -/
theorem send_last (begins : obj.Begins [part]) (filled : part.content ≠ []) (known : part.expectedSize ≠ 0)
    (roomy : ∀ call, multipartSeparator.length + part.headerString.length + 1 + multipartEnd.length ≤ sizes call) :
    ∃ calls, send sizes calls obj =
      some ((multipartSeparator ++ part.headerString) ++ (part.content ++ multipartEnd)) := by
  obtain ⟨parts, first, total⟩ := begins
  have opened : obj.opening part = multipartSeparator ++ part.headerString := if_pos first
  have length : (multipartSeparator ++ part.headerString).length =
      multipartSeparator.length + part.headerString.length := List.length_append
  have written := List.length_pos_iff.mpr filled
  have declared := part.expectedSize_eq known
  have room := roomy 0
  rw [announced, announced] at total
  have enough : (obj.opening part).length + multipartEnd.length <
      min (sizes 0) (obj.expectedSize - obj.transferedSize) := by
    rw [opened, length]
    omega
  obtain ⟨given, within, bound, progress, goesOn, toNext, toEnd⟩ :=
    sendChunk_spec (sizes 0) parts (by omega) (by omega) (fun _ => enough)
  have begun := progress (by omega) enough
  rw [opened, length] at bound
  rw [opened, first, List.drop_zero] at goesOn toEnd
  rw [Nat.zero_add] at goesOn toEnd
  have taken := List.take_append_drop given part.content
  by_cases left : given < part.content.length
  · obtain ⟨calls, sent⟩ := within_last { obj with
        transferedSize := obj.transferedSize + (given + (multipartSeparator ++ part.headerString).length)
        partTransfered := given } (fun call => sizes (call + 1)) parts begun left (by simp only [length]; omega)
      (fun call => by have enough := roomy (call + 1); omega)
    refine ⟨calls + 1, ?_⟩
    rw [send_continue (goesOn left) rfl, sent, Option.map_some]
    simp only [List.append_assoc]
    rw [← List.append_assoc (part.content.take given), taken]
  · obtain ⟨ended, chunk, called, bytes, code⟩ := toEnd (by omega) rfl
    refine ⟨1, ?_⟩
    rw [send_stop called code, bytes, List.take_of_length_le (by omega), List.append_assoc]

/-- A last part that announces no byte makes the first call fail. -/
theorem send_unknown (begins : obj.Begins [part]) (unknown : part.expectedSize = 0)
    (roomy : multipartSeparator.length + part.headerString.length + 1 + multipartEnd.length ≤ sizes 0) (calls : Nat) :
    send sizes calls obj = none := by
  obtain ⟨parts, first, total⟩ := begins
  have positive := multipartEnd_pos
  rw [announced, announced, unknown] at total
  have asked : askedSize obj.expectedSize obj.transferedSize (sizes 0) =
      multipartSeparator.length + part.headerString.length + multipartEnd.length := by
    rw [askedSize, if_pos (by omega)]
    omega
  cases calls with
  | zero => rfl
  | succ calls =>
      rw [send, sendChunk, asked, chunkSend, parts]
      simp only
      rw [if_neg (by omega), if_pos ⟨first, by omega⟩]
      simp only [Checked.ok_bind, pure, Except.pure, returnedCode]
      rw [if_neg (by omega)]

/-- Without a part, the list is read through a null pointer. -/
theorem send_nil (begins : obj.Begins []) (calls : Nat) : send sizes calls obj = none := by
  cases calls with
  | zero => rfl
  | succ calls =>
      rw [send, sendChunk, chunkSend, begins.1]
      rfl

end MultipartBodyHandler

end BelleSip
