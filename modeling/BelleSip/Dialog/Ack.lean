import BelleSip.Dialog.State

/-
This file proves when a dialog recognises the ACK of an INVITE that it has answered.
-/

namespace BelleSip

open Foundation
open Foundation.Checked (Returns)

/-- A request of the peer that is answered within a dialog.

The provider has checked its headers, and the server transaction has read the To of the response. -/
structure Answered where
  transaction : TransactionId
  request : Request
  response : Response
  checked : request.checkHeaders = true
  hasTo : response.toHeader.isSome = true

namespace Answered

def seqNumber (answered : Answered) : Nat := answered.request.cseq.elim 0 (·.seqNumber)

def accepts (answered : Answered) : Bool :=
  answered.request.method = "INVITE" && 200 ≤ answered.response.statusCode &&
    answered.response.statusCode < 300

def refuses (answered : Answered) : Bool :=
  answered.request.method = "INVITE" && 300 ≤ answered.response.statusCode

def hangsUp (answered : Answered) : Bool :=
  answered.request.method = "BYE" && 200 ≤ answered.response.statusCode

/-- The CSeq number of the last answered request, or the given one when there is none. -/
def lastNumber (number : Nat) : List Answered → Nat
  | [] => number
  | answered :: rest => lastNumber answered.seqNumber rest

/-- Whether an ACK is awaited after the answers.

A BYE and a refused INVITE end the wait, an accepted INVITE renews it unless the BYE ended the dialog. -/
def awaited (terminateOnBye waiting : Bool) : List Answered → Bool
  | [] => waiting
  | answered :: rest =>
      if answered.hangsUp then !terminateOnBye && awaited terminateOnBye false rest
      else if answered.accepts then awaited terminateOnBye true rest
      else if answered.refuses then awaited terminateOnBye false rest
      else awaited terminateOnBye waiting rest

theorem cseq_eq (answered : Answered) :
    ∃ cseq, answered.request.cseq = some cseq ∧ answered.seqNumber = cseq.seqNumber := by
  obtain ⟨_, _, hasCseq, _⟩ := Request.checkHeaders_catchAll answered.checked
  obtain ⟨cseq, present⟩ := Option.isSome_iff_exists.mp hasCseq
  exact ⟨cseq, present, by simp [seqNumber, present]⟩

end Answered

namespace Dialog

/-- The dialog is updated by the server transaction of an answered request. -/
def answer (dialog : Dialog) (answered : Answered) : Checked Dialog := do
  return (← dialog.update answered.transaction answered.request (some answered.response) false true).1

def answerAll (dialog : Dialog) : List Answered → Checked Dialog
  | [] => return dialog
  | answered :: rest => do
      let dialog ← dialog.answer answered
      dialog.answerAll rest

/-- The dialog recognises the ACKs with this CSeq number, and no others. -/
def RecognisesOnly (dialog : Dialog) (number : Nat) : Prop :=
  ∀ (ack : Request) (cseq : HeaderCseq), ack.cseq = some cseq →
    Returns (dialog.handleAck ack) fun (after, recognised) =>
      recognised = decide (cseq.seqNumber = number) ∧
        (recognised = true → after.needsAck = false ∧ after.timer200Ok = false ∧
          after.timer200OkEnd = false ∧ after.last200Ok = none) ∧
        (recognised = false → after = dialog)

/-- A dialog that can accept an INVITE of the peer. -/
def AcceptsInvite (dialog : Dialog) : Prop :=
  dialog.state = .null ∧ dialog.isServer = true ∨
    (dialog.state = .early ∨ dialog.state = .confirmed) ∧ dialog.remoteTarget.isSome = true

/-- A confirmed dialog, with the CSeq number that it compares an ACK with. -/
structure Confirmed (dialog : Dialog) (number : Nat) (waiting terminateOnBye : Bool) : Prop where
  state : dialog.state = .confirmed
  remoteCseq : dialog.remoteCseq = number
  needsAck : dialog.needsAck = waiting
  terminateOnBye : dialog.terminateOnBye = terminateOnBye
  remoteTarget : dialog.remoteTarget.isSome = true

/-- A dialog that a BYE has ended. -/
structure Ended (dialog : Dialog) (number : Nat) : Prop where
  state : dialog.state = .terminated
  remoteCseq : dialog.remoteCseq = number
  needsAck : dialog.needsAck = false

/-- The first part of an update by a server transaction stores its CSeq number. -/
theorem touch_answered (dialog : Dialog) (answered : Answered) :
    dialog.touch answered.transaction answered.request true =
      .ok { dialog with lastTransaction := some answered.transaction, remoteCseq := answered.seqNumber } := by
  obtain ⟨cseq, present, number⟩ := answered.cseq_eq
  rw [number]
  unfold touch
  rw [present]
  rfl

/-- An update by a server transaction is the change of state, then its end. -/
theorem returns_answer {dialog : Dialog} {answered : Answered} {property : Dialog → Prop}
    (moves : Returns (updateState
        { dialog with lastTransaction := some answered.transaction, remoteCseq := answered.seqNumber }
        answered.request (some answered.response) false true)
      fun (after, verdict) => property (after.settle verdict).1) :
    Returns (dialog.answer answered) property := by
  unfold answer update
  rw [touch_answered]
  simp only [Checked.returns_bind, Checked.returns_pure]
  exact ⟨_, rfl, moves⟩

variable {dialog : Dialog} {number : Nat}

theorem refreshTarget_returns (known : dialog.remoteTarget.isSome = true) (contact : Option HeaderAddress) :
    ∃ target, dialog.refreshTarget contact = .ok { dialog with remoteTarget := some target } := by
  obtain ⟨old, present⟩ := Option.isSome_iff_exists.mp known
  cases contact with
  | none =>
      refine ⟨old, ?_⟩
      rw [← present]
      rfl
  | some new =>
      refine ⟨new, ?_⟩
      unfold refreshTarget
      rw [present]
      rfl

/-- A response of the UAS to an INVITE changes the remote target and the wait for an ACK. -/
theorem updateReinvite_uas (known : dialog.remoteTarget.isSome = true) (req : Request) (resp : Response) :
    ∃ target, dialog.updateReinvite req resp true = .ok
      ({ dialog with
          remoteTarget := some target
          needsAck := if 200 ≤ resp.statusCode ∧ resp.statusCode < 300 then true
            else if 300 ≤ resp.statusCode then false else dialog.needsAck }, .keep) := by
  unfold updateReinvite
  split
  · obtain ⟨target, refreshed⟩ := refreshTarget_returns known req.contact
    refine ⟨target, ?_⟩
    simp only [if_true, refreshed]
    rfl
  · obtain ⟨old, present⟩ := Option.isSome_iff_exists.mp known
    refine ⟨old, ?_⟩
    rw [← present]
    split <;> rfl

/-- The change of state of a confirmed dialog follows the method and the response. -/
theorem updateState_confirmed {waiting terminateOnBye : Bool}
    (confirmed : Confirmed dialog number waiting terminateOnBye) (answered : Answered) :
    Returns (dialog.updateState answered.request (some answered.response) false true)
      fun (after, verdict) =>
        if answered.hangsUp && terminateOnBye then Ended (after.settle verdict).1 number
        else Confirmed (after.settle verdict).1 number
          (if answered.hangsUp then false else if answered.accepts then true
            else if answered.refuses then false else waiting) terminateOnBye := by
  obtain ⟨state, remoteCseq, needsAck, onBye, known⟩ := confirmed
  unfold updateState
  rw [state]
  by_cases invite : answered.request.method = "INVITE"
  · have noBye : answered.hangsUp = false := by simp [Answered.hangsUp, invite]
    obtain ⟨target, updated⟩ := updateReinvite_uas known answered.request answered.response
    simp only [invite, if_true, updated, noBye]
    apply Checked.returns_ok.mpr
    refine ⟨state, remoteCseq, ?_, onBye, rfl⟩
    simp [Answered.accepts, Answered.refuses, invite, settle, processQueue, needsAck]
  · have noAccept : answered.accepts = false := by simp [Answered.accepts, invite]
    have noRefusal : answered.refuses = false := by simp [Answered.refuses, invite]
    simp only [invite, if_false, noAccept, noRefusal]
    by_cases bye : answered.request.method = "BYE" ∧ 200 ≤ answered.response.statusCode
    · have hangsUp : answered.hangsUp = true := by simp [Answered.hangsUp, bye]
      rw [if_pos bye, hangsUp]
      apply Checked.returns_pure.mpr
      unfold updateBye
      rw [onBye]
      cases terminateOnBye with
      | true => exact ⟨rfl, remoteCseq, rfl⟩
      | false => exact ⟨state, remoteCseq, rfl, rfl, known⟩
    · have stays : answered.hangsUp = false := by simpa [Answered.hangsUp] using bye
      rw [if_neg bye, stays]
      apply Checked.returns_pure.mpr
      exact ⟨state, remoteCseq, needsAck, onBye, known⟩

/-- An answer moves a confirmed dialog as `awaited` says. -/
theorem answer_confirmed {waiting terminateOnBye : Bool} (confirmed : Confirmed dialog number waiting terminateOnBye)
    (answered : Answered) :
    Returns (dialog.answer answered) fun after =>
      if answered.hangsUp && terminateOnBye then Ended after answered.seqNumber
      else Confirmed after answered.seqNumber
        (if answered.hangsUp then false else if answered.accepts then true
          else if answered.refuses then false else waiting) terminateOnBye := by
  apply returns_answer
  apply updateState_confirmed
  exact ⟨confirmed.state, rfl, confirmed.needsAck, confirmed.terminateOnBye, confirmed.remoteTarget⟩

/-- An ended dialog waits for no ACK. -/
theorem answer_ended (ended : Ended dialog number) (answered : Answered) :
    Returns (dialog.answer answered) fun after => Ended after answered.seqNumber := by
  apply returns_answer
  unfold updateState
  simp only [ended.state]
  apply Checked.returns_pure.mpr
  exact ⟨rfl, rfl, ended.needsAck⟩

theorem answerAll_ended (ended : Ended dialog number) (answers : List Answered) :
    Returns (dialog.answerAll answers) fun final => Ended final (Answered.lastNumber number answers) := by
  induction answers generalizing dialog number with
  | nil => exact Checked.returns_pure.mpr ended
  | cons answered rest ih =>
      apply Checked.returns_bind.mpr
      apply (answer_ended ended answered).mono
      intro after stillEnded
      exact ih stillEnded

/-- The answers leave the number of the last one and the wait that `awaited` says. -/
theorem answerAll_confirmed {waiting terminateOnBye : Bool} (confirmed : Confirmed dialog number waiting terminateOnBye)
    (answers : List Answered) :
    Returns (dialog.answerAll answers) fun final =>
      final.remoteCseq = Answered.lastNumber number answers ∧
        final.needsAck = Answered.awaited terminateOnBye waiting answers := by
  induction answers generalizing dialog number waiting with
  | nil => exact Checked.returns_pure.mpr ⟨confirmed.remoteCseq, confirmed.needsAck⟩
  | cons answered rest ih =>
      apply Checked.returns_bind.mpr
      apply (answer_confirmed confirmed answered).mono
      intro after moved
      unfold Answered.lastNumber Answered.awaited
      cases hangsUp : answered.hangsUp with
      | true =>
          cases terminateOnBye with
          | true =>
              simp only [hangsUp, Bool.and_self, if_true] at moved
              apply (answerAll_ended moved rest).mono
              intro final ended
              exact ⟨ended.remoteCseq, ended.needsAck⟩
          | false =>
              simp only [hangsUp, Bool.and_false, if_true] at moved
              exact ih moved
      | false =>
          simp only [hangsUp, Bool.false_and] at moved
          apply (ih moved).mono
          intro final ⟨last, wait⟩
          refine ⟨last, wait.trans ?_⟩
          cases answered.accepts <;> cases answered.refuses <;> rfl

/-- The To of the response is read for its tag. -/
theorem setToTag_returns (dialog : Dialog) {toHeader : Option TaggedAddress}
    (present : toHeader.isSome = true) :
    ∃ localTag remoteTag, dialog.setToTag toHeader =
      .ok { dialog with localTag := localTag, remoteTag := remoteTag } := by
  obtain ⟨header, rfl⟩ := Option.isSome_iff_exists.mp present
  unfold setToTag
  cases dialog.isServer with
  | true => exact ⟨dialog.localTag.or header.tag, dialog.remoteTag, rfl⟩
  | false => exact ⟨dialog.localTag, dialog.remoteTag.or header.tag, rfl⟩

/-- The INVITE of the peer gives a new dialog its remote target and the CSeq number. -/
theorem initAsUas_returns (dialog : Dialog) {req : Request} {resp : Response}
    (invite : req.method = "INVITE") (checked : req.checkHeaders = true)
    (hasTo : resp.toHeader.isSome = true) {cseq : HeaderCseq} (numbered : req.cseq = some cseq) :
    ∃ target party, dialog.initAsUas req resp = .ok (some { dialog with
      routeSet := req.recordRoutes
      remoteTarget := some target
      remoteCseq := cseq.seqNumber
      localParty := some party }) := by
  obtain ⟨hasContact, -⟩ := Request.checkHeaders_invite invite checked
  obtain ⟨-, -, -, hasVia⟩ := Request.checkHeaders_catchAll checked
  obtain ⟨contact, contactEq⟩ := Option.isSome_iff_exists.mp hasContact
  obtain ⟨party, partyEq⟩ := Option.isSome_iff_exists.mp hasTo
  obtain ⟨via, rest, viasEq⟩ := List.exists_cons_of_ne_nil hasVia
  refine ⟨contact, party, ?_⟩
  unfold initAsUas
  rw [contactEq, partyEq, numbered, viasEq]
  simp only [List.head?_cons, checkSecure_eq]
  rfl

/-- The response to the INVITE of the peer establishes a new dialog of a server transaction. -/
theorem establish_uas (server : dialog.isServer = true) (new : dialog.state = .null) {req : Request} {resp : Response}
    (invite : req.method = "INVITE") (checked : req.checkHeaders = true) (hasTo : resp.toHeader.isSome = true)
    {cseq : HeaderCseq} (numbered : req.cseq = some cseq) :
    Returns (dialog.establish req resp) fun (after, _) =>
      after.isServer = true ∧ after.remoteTarget.isSome = true ∧
        after.terminateOnBye = dialog.terminateOnBye ∧ after.remoteCseq = cseq.seqNumber := by
  obtain ⟨-, hasCallId⟩ := Request.checkHeaders_invite invite checked
  obtain ⟨callId, callIdEq⟩ := Option.isSome_iff_exists.mp hasCallId
  obtain ⟨target, party, initialised⟩ :=
    initAsUas_returns { dialog with callId := some callId } invite checked hasTo numbered
  unfold establish
  rw [if_neg (not_not.mpr new), callIdEq]
  dsimp only
  rw [if_pos server]
  apply Checked.returns_bind.mpr
  refine ⟨_, initialised, ?_⟩
  apply Checked.returns_bind.mpr
  obtain ⟨localTag, remoteTag, tagged⟩ := setToTag_returns _ hasTo
  refine ⟨_, tagged, ?_⟩
  apply Checked.returns_pure.mpr
  exact ⟨server, rfl, rfl, rfl⟩

/-- The full establishment of a dialog with a known remote target confirms it. -/
theorem establishFull_invite (known : dialog.remoteTarget.isSome = true) {req : Request} {resp : Response}
    (invite : req.method = "INVITE") (hasTo : resp.toHeader.isSome = true) :
    Returns (dialog.establishFull req resp) fun (after, _) =>
      Confirmed after dialog.remoteCseq true dialog.terminateOnBye := by
  unfold establishFull
  rw [if_pos invite]
  cases server : dialog.isServer with
  | true =>
      simp only [if_true, invite, Checked.returns_bind]
      obtain ⟨localTag, remoteTag, tagged⟩ := setToTag_returns _ hasTo
      refine ⟨_, tagged, ?_⟩
      apply Checked.returns_pure.mpr
      exact ⟨rfl, rfl, rfl, rfl, known⟩
  | false =>
      obtain ⟨target, targetEq⟩ : ∃ target, resp.contact.or dialog.remoteTarget = some target := by
        apply Option.isSome_iff_exists.mp
        simp [known]
      simp only [Bool.false_eq_true, if_false, targetEq, Checked.returns_bind]
      obtain ⟨localTag, remoteTag, tagged⟩ := setToTag_returns _ hasTo
      refine ⟨_, tagged, ?_⟩
      apply Checked.returns_pure.mpr
      exact ⟨rfl, rfl, rfl, rfl, rfl⟩

/-- The case of an early dialog confirms it when the INVITE is accepted. -/
theorem updateEarly_accepts (known : dialog.remoteTarget.isSome = true) {invite : Answered}
    (accepts : invite.accepts = true) :
    Returns (dialog.updateEarly invite.request invite.response) fun (after, verdict) =>
      verdict = .keep ∧ Confirmed after dialog.remoteCseq true dialog.terminateOnBye := by
  obtain ⟨⟨method, enough⟩, few⟩ :
      (invite.request.method = "INVITE" ∧ 200 ≤ invite.response.statusCode) ∧
        invite.response.statusCode < 300 := by simpa [Answered.accepts] using accepts
  have creates : establishes invite.request.method = true := by simp [establishes, method]
  unfold updateEarly
  rw [if_neg (by omega), if_pos ⟨creates, enough⟩]
  apply Checked.returns_bind.mpr
  apply (establishFull_invite known method invite.hasTo).mono
  intro (after, success) confirmed
  exact Checked.returns_pure.mpr ⟨rfl, confirmed⟩

/-- The update by an accepted INVITE confirms the dialog. -/
theorem updateState_invite (able : dialog.AcceptsInvite) {invite : Answered} (accepts : invite.accepts = true)
    (stored : dialog.remoteCseq = invite.seqNumber) :
    Returns (dialog.updateState invite.request (some invite.response) false true)
      fun (after, verdict) =>
        verdict = .keep ∧ Confirmed after invite.seqNumber true dialog.terminateOnBye := by
  obtain ⟨⟨method, enough⟩, few⟩ :
      (invite.request.method = "INVITE" ∧ 200 ≤ invite.response.statusCode) ∧
        invite.response.statusCode < 300 := by simpa [Answered.accepts] using accepts
  obtain ⟨cseq, numbered, numberEq⟩ := invite.cseq_eq
  unfold updateState
  rcases able with ⟨new, server⟩ | ⟨early | confirmed, known⟩
  · rw [new]
    have creates : establishes invite.request.method = true := by simp [establishes, method]
    show Returns (dialog.updateNull invite.request invite.response) _
    unfold updateNull
    rw [if_pos ⟨creates, by omega, few⟩]
    apply Checked.returns_bind.mpr
    apply (establish_uas server new method invite.checked invite.hasTo numbered).mono
    intro (established, success) ⟨_, known, onBye, number⟩
    rw [if_neg (by omega)]
    apply (updateEarly_accepts known accepts).mono
    intro (after, verdict) ⟨kept, confirmed⟩
    rw [numberEq, ← number, ← onBye]
    exact ⟨kept, confirmed⟩
  · rw [early]
    apply (updateEarly_accepts known accepts).mono
    intro (after, verdict) ⟨kept, confirmed⟩
    rw [← stored]
    exact ⟨kept, confirmed⟩
  · obtain ⟨target, updated⟩ := updateReinvite_uas known invite.request invite.response
    rw [confirmed]
    simp only [method, if_true, updated]
    apply Checked.returns_ok.mpr
    exact ⟨rfl, confirmed, stored, if_pos ⟨enough, few⟩, rfl, rfl⟩

/-- An accepted INVITE leaves a confirmed dialog that waits for its ACK. -/
theorem answer_invite {before : Dialog} {invite : Answered} (able : before.AcceptsInvite)
    (accepts : invite.accepts = true) :
    Returns (before.answer invite) fun opened =>
      Confirmed opened invite.seqNumber true before.terminateOnBye := by
  apply returns_answer
  have moved := updateState_invite
    (show AcceptsInvite { before with
        lastTransaction := some invite.transaction
        remoteCseq := invite.seqNumber } from able) accepts rfl
  apply moved.mono
  intro (after, verdict) ⟨kept, confirmed⟩
  subst kept
  exact ⟨confirmed.state, confirmed.remoteCseq, confirmed.needsAck, confirmed.terminateOnBye,
    confirmed.remoteTarget⟩

/-- An ACK with a CSeq ends the wait when its number is the one that the dialog compares with. -/
theorem handleAck_eq (dialog : Dialog) {ack : Request} {cseq : HeaderCseq} (numbered : ack.cseq = some cseq) :
    dialog.handleAck ack =
      .ok (if dialog.needsAck = true ∧ cseq.seqNumber = dialog.remoteCseq then
          ({ dialog with needsAck := false }.stop200OkRetrans.processQueue, true)
        else (dialog, false)) := by
  unfold handleAck
  cases waiting : dialog.needsAck with
  | false => rfl
  | true =>
      by_cases same : cseq.seqNumber = dialog.remoteCseq
      · simp [numbered, same]
        rfl
      · simp [numbered, same]
        rfl

/-- A dialog recognises the ACKs of one number exactly when it waits and compares with that number. -/
theorem recognisesOnly_iff (dialog : Dialog) (number : Nat) :
    dialog.RecognisesOnly number ↔ dialog.remoteCseq = number ∧ dialog.needsAck = true := by
  constructor
  · intro recognises
    let ack : Request := { method := "ACK", cseq := some { seqNumber := number, method := "ACK" } }
    obtain ⟨⟨after, recognised⟩, ended, answer, -⟩ := recognises ack _ rfl
    rw [handleAck_eq dialog rfl] at ended
    by_cases matched : dialog.needsAck = true ∧ number = dialog.remoteCseq
    · exact ⟨matched.2.symm, matched.1⟩
    · simp only [if_neg matched, Except.ok.injEq, Prod.mk.injEq] at ended
      simp [← ended.2] at answer
  · intro ⟨compared, waiting⟩ ack cseq numbered
    rw [handleAck_eq dialog numbered]
    apply Checked.returns_ok.mpr
    by_cases same : cseq.seqNumber = number
    · rw [if_pos ⟨waiting, same.trans compared.symm⟩]
      exact ⟨(decide_eq_true same).symm, fun _ => ⟨rfl, rfl, rfl, rfl⟩, Bool.noConfusion⟩
    · rw [if_neg fun matched => same (matched.2.trans compared)]
      exact ⟨(decide_eq_false same).symm, Bool.noConfusion, fun _ => rfl⟩

/-- After an accepted INVITE and any answers, the dialog recognises the ACK of the INVITE and no other
exactly when the last answered request carries the CSeq number of the INVITE and the wait goes on. -/
theorem ack_recognised_iff {before : Dialog} {invite : Answered} (able : before.AcceptsInvite)
    (accepts : invite.accepts = true) (answers : List Answered) :
    Returns (before.answerAll (invite :: answers)) fun final =>
      final.RecognisesOnly invite.seqNumber ↔
        Answered.lastNumber invite.seqNumber answers = invite.seqNumber ∧
          Answered.awaited before.terminateOnBye true answers = true := by
  apply Checked.returns_bind.mpr
  apply (answer_invite able accepts).mono
  intro opened confirmed
  apply (answerAll_confirmed confirmed answers).mono
  intro final ⟨compared, waits⟩
  rw [recognisesOnly_iff, compared, waits]

/-- A request of a peer at 10.0.0.1. -/
def peerRequest (method : String) (number : Nat) : Request where
  method := method
  uri := some { text := "sip:bob@10.0.0.2" }
  callId := some "call"
  cseq := some { seqNumber := number, method := method }
  fromHeader := some { uri := some { text := "sip:alice@10.0.0.1" }, tag := some "alice" }
  toHeader := some { uri := some { text := "sip:bob@10.0.0.2" }, tag := some "bob" }
  vias := [{ branch := some "z9hG4bK.1" }]
  contact := some { uri := some { text := "sip:alice@10.0.0.1:5060" } }
  maxForwards := true

/-- The response 200 to such a request. -/
def okResponse (method : String) (number : Nat) : Response where
  statusCode := 200
  callId := some "call"
  cseq := some { seqNumber := number, method := method }
  toHeader := some { uri := some { text := "sip:bob@10.0.0.2" }, tag := some "bob" }

def acceptedInvite : Answered where
  transaction := 0
  request := peerRequest "INVITE" 1
  response := okResponse "INVITE" 1
  checked := by decide
  hasTo := rfl

def answeredInfo : Answered where
  transaction := 1
  request := peerRequest "INFO" 2
  response := okResponse "INFO" 2
  checked := by decide
  hasTo := rfl

/-- The ACK of the INVITE is recognised at once, and no longer when an INFO has been answered. -/
theorem ack_recognised_iff_info :
    Returns (answerAll { isServer := true } [acceptedInvite]) (fun final => final.RecognisesOnly 1) ∧
      Returns (answerAll { isServer := true } [acceptedInvite, answeredInfo]) fun final =>
        ¬final.RecognisesOnly 1 := by
  have able : AcceptsInvite { isServer := true } := .inl ⟨rfl, rfl⟩
  have accepts : acceptedInvite.accepts = true := by decide
  constructor
  · apply (ack_recognised_iff able accepts []).mono
    intro final exactly
    exact exactly.mpr ⟨rfl, rfl⟩
  · apply (ack_recognised_iff able accepts [answeredInfo]).mono
    intro final exactly
    exact mt exactly.mp (by decide)

/-- After an INFO, the ACK of the INVITE is ignored and the ACK of the INFO would be recognised. -/
theorem ack_ignored_after_info :
    Returns (answerAll { isServer := true } [acceptedInvite, answeredInfo]) fun final =>
      final.handleAck (peerRequest "ACK" 1) = .ok (final, false) ∧
        final.needsAck = true ∧ final.timer200Ok = true ∧
        (∃ after, final.handleAck (peerRequest "ACK" 2) = .ok (after, true)) ∧
        ¬final.RecognisesOnly 1 := by
  refine ⟨_, rfl, rfl, rfl, rfl, ⟨_, rfl⟩, ?_⟩
  rw [recognisesOnly_iff]
  decide

end Dialog

end BelleSip
