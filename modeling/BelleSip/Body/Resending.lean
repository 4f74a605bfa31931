import BelleSip.Body.Multipart

/-
This file proves for which body handlers a second transmission gives the bytes of the first one.
-/

namespace BelleSip

open Foundation Foundation.Mime MultipartBodyHandler

/-- The body handler of an outgoing message. A handler that is not a multipart one has its `transfered_size` beside
it. -/
inductive OutgoingBody where
  | single (handler : PartBodyHandler) (transferedSize : Nat)
  | multipart (handler : MultipartBodyHandler)

namespace OutgoingBody

/-- This is `belle_sip_body_handler_get_size`. -/
def getSize : OutgoingBody → Nat
  | single handler _ => handler.expectedSize
  | multipart handler => handler.expectedSize

/-- This is `belle_sip_body_handler_begin_transfer`. -/
def beginTransfer : OutgoingBody → OutgoingBody
  | single handler _ => single handler 0
  | multipart handler => multipart { handler with transferedSize := 0 }

/-- This is `belle_sip_body_handler_send_chunk`. -/
def sendChunk (size : Nat) : OutgoingBody → Checked (OutgoingBody × Chunk)
  | single handler transferedSize =>
      let chunk := handler.sendChunk transferedSize size
      .ok (single handler (transferedSize + chunk.size), chunk)
  | multipart handler => do
      let (handler, chunk) ← handler.sendChunk size
      return (multipart handler, chunk)

/-- The calls of `belle_sip_body_handler_send_chunk`, up to the one that does not return `BELLE_SIP_CONTINUE`. The
channel breaks after the last of the sizes. -/
def sendChunks : List Nat → OutgoingBody → Checked (OutgoingBody × Bytes × SendCode)
  | [], body => .ok (body, [], .belleSipContinue)
  | size :: sizes, body => do
      let (body, chunk) ← body.sendChunk size
      if chunk.code = .belleSipContinue then
        let (body, rest, code) ← sendChunks sizes body
        return (body, chunk.bytes ++ rest, code)
      else return (body, chunk.bytes, chunk.code)

/-- What `_send_message` does with the body handler of a message: the handler it leaves, the bytes of the body and the
last code. The size is known, and `belle_sip_body_handler_end_transfer` changes nothing. -/
def transmit (sizes : List Nat) (body : OutgoingBody) : Checked (OutgoingBody × Bytes × SendCode) :=
  if body.getSize = 0 then .error .fatal else sendChunks sizes body.beginTransfer

/-- The handler has been sent some number of times, completely or in part. -/
inductive Sent (body : OutgoingBody) : OutgoingBody → Prop
  | new : Sent body body
  | again {before after : OutgoingBody} {sizes : List Nat} {sent : Bytes × SendCode} (earlier : Sent body before)
      (transmitted : before.transmit sizes = .ok (after, sent)) : Sent body after

/-- With the same sizes, both handlers give the same bytes. -/
def SendsLike (after body : OutgoingBody) : Prop :=
  ∀ sizes, (after.transmit sizes).map Prod.snd = (body.transmit sizes).map Prod.snd

/-- What is left of the list of parts, and what the first one of them has given. -/
def place : OutgoingBody → List PartBodyHandler × Nat
  | single _ _ => ([], 0)
  | multipart handler => (handler.parts, handler.partTransfered)

end OutgoingBody

/-- The body handler that an application sets: a memory, a user or a file handler, or a multipart handler of some
parts. -/
inductive MessageBody where
  | single (handler : PartBodyHandler)
  | multipart (parts : List PartBodyHandler)

namespace MessageBody

def outgoing : MessageBody → OutgoingBody
  | single handler => .single handler 0
  | multipart parts => .multipart (MultipartBodyHandler.new parts)

/-- The parts of the body. -/
def parts : MessageBody → List PartBodyHandler
  | single _ => []
  | multipart parts => parts

end MessageBody

namespace MultipartBodyHandler

/-- The size of what is sent from here on. -/
def remaining : List PartBodyHandler → Nat → Nat
  | [], _ => multipartEnd.length
  | part :: next, partTransfered =>
      (if partTransfered = 0 then multipartSeparator.length + part.headerString.length else 0) +
        (part.content.length - partTransfered) + announced next + multipartEnd.length

/-- All of the parts are left, or some of them with the first one begun or not; the expected size is the one of all. -/
def Behind (parts : List PartBodyHandler) (obj : MultipartBodyHandler) : Prop :=
  obj.expectedSize = (new parts).expectedSize ∧
    ((obj.parts = parts ∧ obj.partTransfered = 0) ∨
      ∃ gone part next, parts = gone ++ part :: next ∧ obj.parts = part :: next ∧
        obj.partTransfered ≤ part.content.length)

variable {obj after : MultipartBodyHandler} {parts : List PartBodyHandler} {chunk : Chunk} {size : Nat}

/-- A call sends nothing, goes on in the current part, or goes on to the next one. -/
theorem sendChunk_cases (called : obj.sendChunk size = .ok (after, chunk)) :
    after.expectedSize = obj.expectedSize ∧ ∃ part next, obj.parts = part :: next ∧
      ((after.parts = obj.parts ∧ ∃ given ≤ part.content.length - obj.partTransfered,
          after.partTransfered = obj.partTransfered + given) ∨
        (after.parts = next ∧ next ≠ [] ∧ after.partTransfered = 0)) := by
  rw [sendChunk, chunkSend] at called
  generalize askedSize obj.expectedSize obj.transferedSize size = asked at called
  cases shape : obj.parts with
  | nil =>
      rw [shape] at called
      cases called
  | cons part next =>
      rw [shape] at called
      simp only at called
      split at called
      · cases called
      · split at called
        · cases called
          exact ⟨rfl, part, next, rfl, .inl ⟨shape, 0, Nat.zero_le _, rfl⟩⟩
        · cases called
          rw [give]
          have bound := part.chunkSend.given_le obj.partTransfered
            (askedSize part.expectedSize obj.partTransfered
              (asked - multipartEnd.length - (obj.opening part).length))
          dsimp only
          split
          · exact ⟨rfl, part, next, rfl, .inl ⟨shape, _, Nat.le_trans bound (Nat.min_le_right _ _), rfl⟩⟩
          · split
            · next more => exact ⟨rfl, part, next, rfl, .inr ⟨rfl, more, rfl⟩⟩
            · exact ⟨rfl, part, next, rfl, .inl ⟨shape, _, Nat.le_trans bound (Nat.min_le_right _ _), rfl⟩⟩

theorem behind_new : Behind parts (new parts) :=
  ⟨rfl, .inl ⟨(new_begins parts).1.1, (new_begins parts).1.2.1⟩⟩

theorem behind_sendChunk (behind : Behind parts obj) (called : obj.sendChunk size = .ok (after, chunk)) :
    Behind parts after := by
  obtain ⟨expected, part, next, shape, step⟩ := sendChunk_cases called
  obtain ⟨same, place⟩ := behind
  obtain ⟨gone, all, inside⟩ : ∃ gone, parts = gone ++ part :: next ∧ obj.partTransfered ≤ part.content.length := by
    rcases place with ⟨whole, first⟩ | ⟨gone, current, behindIt, all, left, inside⟩
    · exact ⟨[], by rw [← whole, shape, List.nil_append], by omega⟩
    · rw [shape, List.cons.injEq] at left
      obtain ⟨rfl, rfl⟩ := left
      exact ⟨gone, all, inside⟩
  refine ⟨by rw [expected, same], .inr ?_⟩
  rcases step with ⟨left, given, bound, moved⟩ | ⟨left, more, first⟩
  · exact ⟨gone, part, next, all, by rw [left, shape], by omega⟩
  · obtain ⟨second, others, rfl⟩ := List.exists_cons_of_ne_nil more
    refine ⟨gone ++ [part], second, others, ?_, left, by omega⟩
    rw [all, List.append_assoc, List.singleton_append]

/-- A handler that has moved on has less to send than a new one. -/
theorem remaining_lt (known : ∀ part ∈ parts, part.expectedSize ≠ 0) (behind : Behind parts obj)
    (moved : ¬(obj.parts = parts ∧ obj.partTransfered = 0)) :
    remaining obj.parts obj.partTransfered < announced parts + multipartEnd.length := by
  obtain ⟨-, start | ⟨gone, part, next, all, left, inside⟩⟩ := behind
  · exact absurd start moved
  · have announcedGone : ∀ gone, announced (gone ++ part :: next) = announced gone + announced (part :: next) := by
      intro gone
      induction gone with
      | nil => rw [List.nil_append, announced, Nat.zero_add]
      | cons other gone ih =>
          simp only [List.cons_append, announced] at ih ⊢
          omega
    have isKnown := known part (by simp [all])
    have declared := part.expectedSize_eq isKnown
    have positive := multipartSeparator_pos
    rw [left, all, announcedGone, remaining, announced]
    by_cases first : obj.partTransfered = 0
    · have more : gone ≠ [] := by
        rintro rfl
        exact moved ⟨by rw [left, all, List.nil_append], first⟩
      have pos := announced_pos more
      rw [if_pos first]
      omega
    · rw [if_neg first]
      omega

theorem remaining_zero (known : ∀ part ∈ parts, part.expectedSize ≠ 0) :
    remaining parts 0 = announced parts + multipartEnd.length := by
  cases parts with
  | nil => rw [remaining, announced, Nat.zero_add]
  | cons part next =>
      rw [remaining, announced, part.expectedSize_eq (known part List.mem_cons_self), if_pos rfl]
      omega

end MultipartBodyHandler

namespace OutgoingBody

variable {body after : OutgoingBody} {sizes : List Nat} {bytes : Bytes} {code : SendCode}

theorem multipart_sendChunk {obj next : MultipartBodyHandler} {size : Nat} {chunk : Chunk}
    (called : obj.sendChunk size = .ok (next, chunk)) :
    (multipart obj).sendChunk size = .ok (multipart next, chunk) := by
  rw [sendChunk, called]
  rfl

theorem sendChunks_continue {size : Nat} {chunk : Chunk} (called : body.sendChunk size = .ok (after, chunk))
    (goesOn : chunk.code = .belleSipContinue) (sizes : List Nat) :
    sendChunks (size :: sizes) body =
      (sendChunks sizes after).map fun sent => (sent.1, chunk.bytes ++ sent.2.1, sent.2.2) := by
  rw [sendChunks, called, Checked.ok_bind]
  simp only
  rw [if_pos goesOn]
  cases sendChunks sizes after <;> rfl

theorem sendChunks_stop {size : Nat} {chunk : Chunk} (called : body.sendChunk size = .ok (after, chunk))
    (stops : chunk.code = .belleSipStop) (sizes : List Nat) :
    sendChunks (size :: sizes) body = .ok (after, chunk.bytes, .belleSipStop) := by
  rw [sendChunks, called, Checked.ok_bind]
  simp only [stops]
  rfl

/-- Sizes that are left when the last call has stopped change nothing. -/
theorem sendChunks_append (sent : sendChunks sizes body = .ok (after, bytes, code)) (stopped : code ≠ .belleSipContinue)
    (more : List Nat) : sendChunks (sizes ++ more) body = .ok (after, bytes, code) := by
  induction sizes generalizing body bytes with
  | nil =>
      cases sent
      exact absurd rfl stopped
  | cons size sizes ih =>
      rw [List.cons_append]
      rw [sendChunks] at sent ⊢
      cases called : body.sendChunk size with
      | error fault =>
          rw [called] at sent
          cases sent
      | ok result =>
          rw [called, Checked.ok_bind] at sent
          rw [Checked.ok_bind]
          dsimp only at sent ⊢
          split at sent
          · next goesOn =>
              rw [if_pos goesOn]
              cases rest : sendChunks sizes result.1 with
              | error fault =>
                  rw [rest] at sent
                  cases sent
              | ok left =>
                  rw [rest] at sent
                  cases sent
                  rw [ih rest]
                  rfl
          · next stops =>
              rw [if_neg stops]
              exact sent

/-- Parts of known size are sent completely by calls with enough room. -/
theorem sendChunks_remaining {obj : MultipartBodyHandler} {room : Nat} (parts : obj.parts ≠ [])
    (known : ∀ part ∈ obj.parts, part.expectedSize ≠ 0)
    (inside : ∀ part ∈ obj.parts.head?, obj.partTransfered ≤ part.content.length)
    (enough : obj.transferedSize + remaining obj.parts obj.partTransfered ≤ obj.expectedSize)
    (roomy : obj.expectedSize ≤ room) :
    ∃ calls after bytes, sendChunks (List.replicate calls room) (multipart obj) = .ok (after, bytes, .belleSipStop) ∧
      bytes.length = remaining obj.parts obj.partTransfered := by
  generalize measure : remaining obj.parts obj.partTransfered + obj.parts.length = left
  induction left using Nat.strong_induction_on generalizing obj with
  | _ left ih =>
      obtain ⟨part, next, shape⟩ := List.exists_cons_of_ne_nil parts
      rw [shape] at known inside enough measure ⊢
      have within := inside part rfl
      have isKnown := known part List.mem_cons_self
      have declared := part.expectedSize_eq isKnown
      have opened : (obj.opening part).length =
          if obj.partTransfered = 0 then multipartSeparator.length + part.headerString.length else 0 := by
        rw [opening]
        split
        · exact List.length_append
        · rfl
      rw [remaining, ← opened] at enough measure ⊢
      rw [List.length_cons] at measure
      obtain ⟨given, bound, less, progress, goesOn, toNext, toEnd⟩ :=
        MultipartBodyHandler.sendChunk_spec room shape within (by omega) (by omega)
      have length : (obj.opening part ++ (part.content.drop obj.partTransfered).take given).length =
          (obj.opening part).length + given := by
        rw [List.length_append, List.length_take, List.length_drop]
        omega
      by_cases unfinished : obj.partTransfered + given < part.content.length
      · have positive := progress (by omega) (by omega)
        have rest : remaining (part :: next) (obj.partTransfered + given) =
            part.content.length - (obj.partTransfered + given) + announced next + multipartEnd.length := by
          rw [remaining, if_neg (by omega), Nat.zero_add]
        obtain ⟨calls, after, bytes, sent, size⟩ := @ih (left - ((obj.opening part).length + given)) (by omega)
          { obj with
            transferedSize := obj.transferedSize + (given + (obj.opening part).length)
            partTransfered := obj.partTransfered + given }
          parts (by rw [shape]; exact known)
          (by
            rw [shape]
            intro other head
            cases head
            exact bound)
          (by rw [shape, rest]; dsimp only; omega) roomy
          (by rw [shape, rest, List.length_cons]; omega)
        refine ⟨calls + 1, after,
          (obj.opening part ++ (part.content.drop obj.partTransfered).take given) ++ bytes, ?_, ?_⟩
        · rw [List.replicate_succ, sendChunks_continue (multipart_sendChunk (goesOn unfinished)) rfl, sent]
          rfl
        · rw [shape, rest] at size
          rw [List.length_append, length, size]
          omega
      · have all : obj.partTransfered + given = part.content.length := by omega
        by_cases more : next = []
        · obtain ⟨ended, chunk, called, bytes, code⟩ := toEnd all more
          refine ⟨1, _, _, sendChunks_stop (multipart_sendChunk called) code [], ?_⟩
          rw [bytes, List.length_append, length, more, announced]
          omega
        · have rest := remaining_zero fun other among => known other (List.mem_cons_of_mem part among)
          obtain ⟨calls, after, bytes, sent, size⟩ :=
              @ih (announced next + multipartEnd.length + next.length) (by omega)
            { obj with
              transferedSize := obj.transferedSize + (given + (obj.opening part).length)
              parts := next
              partTransfered := 0 }
            more (fun other among => known other (List.mem_cons_of_mem part among)) (fun _ _ => Nat.zero_le _)
            (by dsimp only; rw [rest]; omega) roomy (by dsimp only; rw [rest])
          refine ⟨calls + 1, after,
            (obj.opening part ++ (part.content.drop obj.partTransfered).take given) ++ bytes, ?_, ?_⟩
          · rw [List.replicate_succ, sendChunks_continue (multipart_sendChunk (toNext all more)) rfl, sent]
            rfl
          · rw [List.length_append, length, size, rest]
            omega

variable {message : MessageBody}

/-- A transmission keeps what the handler is; only its place moves on. -/
theorem transmit_behind {parts : List PartBodyHandler} {obj : MultipartBodyHandler} {sent : Bytes × SendCode}
    (behind : Behind parts obj) (transmitted : (multipart obj).transmit sizes = .ok (after, sent)) :
    ∃ moved, after = multipart moved ∧ Behind parts moved := by
  rw [transmit] at transmitted
  split at transmitted
  · cases transmitted
  · rw [beginTransfer] at transmitted
    replace behind : Behind parts { obj with transferedSize := 0 } := behind
    generalize { obj with transferedSize := 0 } = obj at behind transmitted
    induction sizes generalizing obj sent with
    | nil =>
        cases transmitted
        exact ⟨obj, rfl, behind⟩
    | cons size sizes ih =>
        rw [sendChunks] at transmitted
        cases called : obj.sendChunk size with
        | error fault =>
            rw [sendChunk, called] at transmitted
            cases transmitted
        | ok result =>
            rw [multipart_sendChunk called, Checked.ok_bind] at transmitted
            dsimp only at transmitted
            have next := behind_sendChunk behind called
            split at transmitted
            · cases rest : sendChunks sizes (multipart result.1) with
              | error fault =>
                  rw [rest] at transmitted
                  cases transmitted
              | ok left =>
                  rw [rest] at transmitted
                  cases transmitted
                  exact ih result.1 next rest
            · cases transmitted
              exact ⟨result.1, rfl, next⟩

theorem transmit_single {handler : PartBodyHandler} {transferedSize : Nat} {sent : Bytes × SendCode}
    (transmitted : (single handler transferedSize).transmit sizes = .ok (after, sent)) :
    ∃ moved, after = single handler moved := by
  rw [transmit] at transmitted
  split at transmitted
  · cases transmitted
  · rw [beginTransfer] at transmitted
    generalize 0 = offset at transmitted
    induction sizes generalizing offset sent with
    | nil =>
        cases transmitted
        exact ⟨offset, rfl⟩
    | cons size sizes ih =>
        rw [sendChunks, sendChunk, Checked.ok_bind] at transmitted
        dsimp only at transmitted
        split at transmitted
        · cases rest : sendChunks sizes (single handler (offset + (handler.sendChunk offset size).size)) with
          | error fault =>
              rw [rest] at transmitted
              cases transmitted
          | ok left =>
              rw [rest] at transmitted
              cases transmitted
              exact ih _ rest
        · cases transmitted
          exact ⟨_, rfl⟩

/-- Whatever has been sent of a body, its handler is the same but for its place. -/
theorem sent_cases (sent : Sent message.outgoing after) :
    (∃ handler moved, message = .single handler ∧ after = single handler moved) ∨
      ∃ parts moved, message = .multipart parts ∧ after = multipart moved ∧ Behind parts moved := by
  induction sent with
  | new =>
      cases message with
      | single handler => exact .inl ⟨handler, 0, rfl, rfl⟩
      | multipart parts => exact .inr ⟨parts, _, rfl, rfl, behind_new⟩
  | again earlier transmitted ih =>
      rcases ih with ⟨handler, moved, whole, rfl⟩ | ⟨parts, moved, whole, rfl, behind⟩
      · obtain ⟨next, rfl⟩ := transmit_single transmitted
        exact .inl ⟨handler, next, whole, rfl⟩
      · obtain ⟨next, rfl, moves⟩ := transmit_behind behind transmitted
        exact .inr ⟨parts, next, whole, rfl, moves⟩

theorem transmit_multipart {obj : MultipartBodyHandler} (known : obj.expectedSize ≠ 0) :
    (multipart obj).transmit sizes = sendChunks sizes (multipart { obj with transferedSize := 0 }) := if_neg known

/-- Once a multipart handler has moved on, it sends less than a new one. -/
theorem not_sendsLike {parts : List PartBodyHandler} {moved : MultipartBodyHandler} (behind : Behind parts moved)
    (known : ∀ part ∈ parts, part.expectedSize ≠ 0) (away : ¬(moved.parts = parts ∧ moved.partTransfered = 0)) :
    ¬SendsLike (multipart moved) (multipart (MultipartBodyHandler.new parts)) := by
  intro same
  have less := remaining_lt known behind away
  obtain ⟨expected, place⟩ := behind
  obtain ⟨⟨whole, first, total⟩, start⟩ := new_begins parts
  obtain ⟨gone, part, next, all, left, inside⟩ : ∃ gone part next, parts = gone ++ part :: next ∧
      moved.parts = part :: next ∧ moved.partTransfered ≤ part.content.length := by
    rcases place with started | inside
    · exact absurd started away
    · exact inside
  have positive := multipartEnd_pos
  have zero := remaining_zero known
  obtain ⟨calls, ended, bytes, sent, size⟩ := @sendChunks_remaining { moved with transferedSize := 0 }
    moved.expectedSize (by rw [left]; exact List.cons_ne_nil _ _)
    (by
      intro other among
      apply known
      rw [all, ← left]
      exact List.mem_append_right gone among)
    (by
      rw [left]
      intro other head
      cases head
      exact inside)
    (by dsimp only; omega) (Nat.le_refl _)
  obtain ⟨others, endedNew, bytesNew, sentNew, sizeNew⟩ := @sendChunks_remaining (MultipartBodyHandler.new parts)
    moved.expectedSize (by rw [whole, all]; simp) (by rw [whole]; exact known)
    (by
      rw [first]
      exact fun _ _ => Nat.zero_le _)
    (by rw [whole, first, start]; omega) (by rw [expected])
  have both := same (List.replicate (calls + others) moved.expectedSize)
  have nonzero : moved.expectedSize ≠ 0 := by omega
  have sentAll := sendChunks_append sent (by decide) (List.replicate others moved.expectedSize)
  have sentNewAll := sendChunks_append sentNew (by decide) (List.replicate calls moved.expectedSize)
  rw [List.replicate_append_replicate] at sentAll sentNewAll
  rw [Nat.add_comm others] at sentNewAll
  have unsent : { MultipartBodyHandler.new parts with transferedSize := 0 } = MultipartBodyHandler.new parts := by
    rw [← start]
  rw [transmit_multipart nonzero, transmit_multipart (by rw [← expected]; exact nonzero), unsent, sentAll,
    sentNewAll] at both
  have equal : bytes = bytesNew := by
    injection both with pair
    exact (Prod.mk.inj pair).1
  rw [equal] at size
  rw [whole, first] at sizeNew
  dsimp only at size
  omega

/-- Whatever has been sent of a body before, a handler in the place of a new one sends the bytes that the new one sends;
if all the parts of the body announce their size, no other handler does. -/
theorem resent_alike (sent : Sent message.outgoing after) :
    (after.place = message.outgoing.place → SendsLike after message.outgoing) ∧
      ((∀ part ∈ message.parts, part.expectedSize ≠ 0) → SendsLike after message.outgoing →
        after.place = message.outgoing.place) := by
  rcases sent_cases sent with ⟨handler, moved, rfl, rfl⟩ | ⟨parts, moved, rfl, rfl, behind⟩
  · constructor
    · intro same sizes
      rfl
    · intro known alike
      rfl
  · obtain ⟨whole, first, total⟩ := (new_begins parts).1
    constructor
    · intro same sizes
      obtain ⟨left, given⟩ := Prod.mk.inj same
      have alike : (multipart moved).beginTransfer = (multipart (MultipartBodyHandler.new parts)).beginTransfer := by
        rw [beginTransfer, beginTransfer, left, given, behind.1]
      rw [MessageBody.outgoing, transmit, transmit, alike, getSize, getSize, behind.1]
    · intro known alike
      by_contra away
      refine not_sendsLike behind known ?_ alike
      rintro ⟨left, given⟩
      apply away
      rw [MessageBody.outgoing, place, place, left, given, whole, first]

theorem resent_alike_after_interruption :
    ((OutgoingBody.single (memoryBodyHandlerNew [] [97, 98]) 1).place =
        (MessageBody.single (memoryBodyHandlerNew [] [97, 98])).outgoing.place →
      SendsLike (.single (memoryBodyHandlerNew [] [97, 98]) 1)
        (MessageBody.single (memoryBodyHandlerNew [] [97, 98])).outgoing) ∧
      ((∀ part ∈ (MessageBody.single (memoryBodyHandlerNew [] [97, 98])).parts, part.expectedSize ≠ 0) →
        SendsLike (.single (memoryBodyHandlerNew [] [97, 98]) 1)
          (MessageBody.single (memoryBodyHandlerNew [] [97, 98])).outgoing →
        (OutgoingBody.single (memoryBodyHandlerNew [] [97, 98]) 1).place =
          (MessageBody.single (memoryBodyHandlerNew [] [97, 98])).outgoing.place) :=
  resent_alike (@Sent.again _ _ _ [1] ([97], .belleSipContinue) .new rfl)

/-- A multipart body of one part that has been sent completely is sent without its separator. -/
theorem not_resent_alike : ∃ after,
    Sent (MessageBody.multipart [memoryBodyHandlerNew [] [97, 98]]).outgoing after ∧
      ¬SendsLike after (MessageBody.multipart [memoryBodyHandlerNew [] [97, 98]]).outgoing := by
  refine ⟨_, @Sent.again _ _ _ [16383]
    (multipartSeparator ++ [97, 98] ++ multipartEnd, .belleSipStop) .new rfl, ?_⟩
  refine not_sendsLike ⟨rfl, .inr ⟨[], _, [], rfl, rfl, Nat.le_refl _⟩⟩ ?_ ?_
  · decide
  · rintro ⟨-, unsent⟩
    exact absurd unsent (by decide)

end OutgoingBody

end BelleSip
