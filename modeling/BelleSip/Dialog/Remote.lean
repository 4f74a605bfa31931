import BelleSip.Dialog.Dispatch

/-
This file states which events take the CSeq number of the peer and which keep the last ACK of the dialog.
-/

namespace BelleSip

open Foundation
open Foundation.Checked (OnReturn)

namespace Dialog

/-- The update takes the CSeq number of its request as the remote one: a server transaction always does, and a response
that initialises the dialog as UAS does. -/
def takes (dialog : Dialog) (resp : Option Response) (asUas : Bool) : Bool :=
  asUas || (resp.isSome && dialog.isServer && dialog.state = .null)

/-- The remote number stays or becomes the given one, and the last ACK stays. -/
structure Stays (number : Option Nat) (before after : Dialog) : Prop where
  remoteCseq : after.remoteCseq = before.remoteCseq ∨ some after.remoteCseq = number
  lastOutAck : after.lastOutAck = before.lastOutAck

namespace Stays

variable {number : Option Nat} {first second third : Dialog}

theorem refl (number : Option Nat) (dialog : Dialog) : Stays number dialog dialog := ⟨.inl rfl, rfl⟩

theorem trans (before : Stays number first second) (after : Stays number second third) : Stays number first third where
  remoteCseq := by
    rcases after.remoteCseq with same | taken
    · rw [same]
      exact before.remoteCseq
    · exact .inr taken
  lastOutAck := after.lastOutAck.trans before.lastOutAck

/-- What stays in any case stays in particular. -/
theorem always (stays : Stays none first second) (number : Option Nat) : Stays number first second :=
  ⟨.inl (stays.remoteCseq.resolve_right nofun), stays.lastOutAck⟩

end Stays

theorem setToTag_stays (number : Option Nat) (dialog : Dialog) (toHeader : Option TaggedAddress) :
    OnReturn (dialog.setToTag toHeader) (Stays number dialog) := by
  unfold setToTag
  apply Checked.onReturn_bind.mpr
  apply Checked.onReturn_deref.mpr
  intro header _
  split
  · exact Checked.onReturn_pure.mpr ⟨.inl rfl, rfl⟩
  · exact Checked.onReturn_pure.mpr ⟨.inl rfl, rfl⟩

theorem initAsUas_stays (dialog : Dialog) (req : Request) (resp : Response) :
    OnReturn (dialog.initAsUas req resp) fun after =>
      ∀ new, after = some new → Stays (req.cseq.map HeaderCseq.seqNumber) dialog new := by
  unfold initAsUas
  split
  · next contact toHeader cseq via _ _ numbered _ =>
      rw [checkSecure_eq]
      apply Checked.onReturn_pure.mpr
      rintro new ⟨⟩
      rw [numbered]
      exact ⟨.inr rfl, rfl⟩
  · apply Checked.onReturn_pure.mpr
    rintro new ⟨⟩

theorem initAsUac_stays (number : Option Nat) (dialog : Dialog) (req : Request) (resp : Response) :
    OnReturn (dialog.initAsUac req resp) fun after => ∀ new, after = some new → Stays number dialog new := by
  unfold initAsUac
  split
  · rw [checkSecure_eq]
    apply Checked.onReturn_pure.mpr
    rintro new ⟨⟩
    split
    · exact ⟨.inl rfl, rfl⟩
    · exact ⟨.inl rfl, rfl⟩
  · apply Checked.onReturn_pure.mpr
    rintro new ⟨⟩

variable {number : Option Nat} {dialog : Dialog} {req : Request}

/-- Only a dialog that is initialised as UAS takes the number of the request. -/
theorem establish_stays (resp : Response)
    (taken : dialog.state = .null → dialog.isServer = true → number = req.cseq.map HeaderCseq.seqNumber) :
    OnReturn (dialog.establish req resp) fun (after, _) => Stays number dialog after := by
  have tagged : ∀ middle, Stays number dialog middle →
      OnReturn (middle.setToTag resp.toHeader >>= fun after => pure (after, true))
        fun (after, _) => Stays number dialog after := by
    intro middle stays
    apply Checked.onReturn_bind.mpr
    apply (setToTag_stays number middle resp.toHeader).mono
    intro after more
    exact Checked.onReturn_pure.mpr (stays.trans more)
  unfold establish
  split
  · exact Checked.onReturn_pure.mpr (.refl number dialog)
  · next new =>
      have isNull : dialog.state = .null := Classical.not_not.mp new
      split
      · exact Checked.onReturn_pure.mpr (.refl number dialog)
      · next callId _ =>
          have named : Stays number dialog { dialog with callId := some callId } := ⟨.inl rfl, rfl⟩
          dsimp only
          split
          · next server =>
              rw [taken isNull server] at named tagged ⊢
              apply Checked.onReturn_bind.mpr
              apply (initAsUas_stays _ req resp).mono
              intro initialised stays
              cases initialised with
              | none => exact Checked.onReturn_pure.mpr named
              | some middle => exact tagged middle (named.trans (stays middle rfl))
          · apply Checked.onReturn_bind.mpr
            apply (initAsUac_stays number _ req resp).mono
            intro initialised stays
            cases initialised with
            | none => exact Checked.onReturn_pure.mpr named
            | some middle => exact tagged middle (named.trans (stays middle rfl))

theorem establishFull_stays (number : Option Nat) (dialog : Dialog) (req : Request) (resp : Response) :
    OnReturn (dialog.establishFull req resp) fun (after, _) => Stays number dialog after := by
  have confirmed : ∀ middle, Stays number dialog middle →
      OnReturn (middle.setToTag resp.toHeader >>= fun tagged => pure (tagged.setState .confirmed, true))
        fun (after, _) => Stays number dialog after := by
    intro middle stays
    apply Checked.onReturn_bind.mpr
    apply (setToTag_stays number middle resp.toHeader).mono
    intro after tagged
    have both := stays.trans tagged
    exact Checked.onReturn_pure.mpr ⟨both.remoteCseq, both.lastOutAck⟩
  have marked : Stays number dialog (if req.method = "INVITE" then { dialog with needsAck := true } else dialog) := by
    split
    · exact ⟨.inl rfl, rfl⟩
    · exact .refl number dialog
  unfold establishFull
  dsimp only
  generalize (if req.method = "INVITE" then { dialog with needsAck := true } else dialog) = middle at marked ⊢
  split
  · apply confirmed
    split
    · exact ⟨marked.remoteCseq, marked.lastOutAck⟩
    · exact marked
  · split
    · exact Checked.onReturn_pure.mpr marked
    · exact confirmed _ ⟨marked.remoteCseq, marked.lastOutAck⟩

theorem updateEarly_stays (number : Option Nat) (dialog : Dialog) (req : Request) (resp : Response) :
    OnReturn (dialog.updateEarly req resp) fun (after, _) => Stays number dialog after := by
  unfold updateEarly
  split
  · exact Checked.onReturn_pure.mpr (.refl number dialog)
  · split
    · apply Checked.onReturn_bind.mpr
      apply (establishFull_stays number dialog req resp).mono
      intro (after, success) stays
      exact Checked.onReturn_pure.mpr stays
    · exact Checked.onReturn_pure.mpr (.refl number dialog)

theorem updateNull_stays (resp : Response)
    (taken : dialog.state = .null → dialog.isServer = true → number = req.cseq.map HeaderCseq.seqNumber) :
    OnReturn (dialog.updateNull req resp) fun (after, _) => Stays number dialog after := by
  unfold updateNull
  split
  · apply Checked.onReturn_bind.mpr
    apply (establish_stays resp taken).mono
    intro (established, success) stays
    dsimp only
    split
    · exact Checked.onReturn_pure.mpr ⟨stays.remoteCseq, stays.lastOutAck⟩
    · apply (updateEarly_stays number established req resp).mono
      intro (after, verdict) more
      exact stays.trans more
  · exact updateEarly_stays number dialog req resp

theorem updateReinvite_stays (number : Option Nat) (dialog : Dialog) (req : Request) (resp : Response) (asUas : Bool) :
    OnReturn (dialog.updateReinvite req resp asUas) fun (after, _) => Stays number dialog after := by
  unfold updateReinvite
  split
  · have marked : Stays number dialog (if asUas then dialog else dialog.setLastOutInvite req) := by
      split
      · exact .refl number dialog
      · exact ⟨.inl rfl, rfl⟩
    apply Checked.onReturn_bind.mpr
    generalize (if asUas then dialog else dialog.setLastOutInvite req) = invited at marked ⊢
    have refreshed : OnReturn (invited.refreshTarget (if asUas then req.contact else resp.contact))
        (Stays number dialog) := by
      unfold refreshTarget
      split
      · exact Checked.onReturn_pure.mpr marked
      · simp only [Checked.onReturn_bind, Checked.onReturn_deref, Checked.onReturn_pure]
        intro _ _
        exact ⟨marked.remoteCseq, marked.lastOutAck⟩
    apply refreshed.mono
    intro refreshed stays
    apply Checked.onReturn_bind.mpr
    generalize refreshed.retransmits resp asUas = retransmission
    cases retransmission with
    | error fault => trivial
    | ok retransmission =>
        apply Checked.onReturn_ok.mpr
        cases retransmission with
        | true => exact Checked.onReturn_pure.mpr stays
        | false => exact Checked.onReturn_pure.mpr ⟨stays.remoteCseq, stays.lastOutAck⟩
  · split
    · exact Checked.onReturn_pure.mpr ⟨.inl rfl, rfl⟩
    · exact Checked.onReturn_pure.mpr (.refl number dialog)

theorem updateState_stays {resp : Option Response} (terminated asUas : Bool)
    (taken : resp.isSome = true → dialog.state = .null → dialog.isServer = true →
      number = req.cseq.map HeaderCseq.seqNumber) :
    OnReturn (dialog.updateState req resp terminated asUas) fun (after, _) => Stays number dialog after := by
  unfold updateState
  split
  · next resp _ => exact updateNull_stays resp (taken rfl)
  · next resp _ => exact updateEarly_stays number dialog req resp
  · next resp _ =>
      split
      · exact updateReinvite_stays number dialog req resp asUas
      · split
        · exact Checked.onReturn_pure.mpr ⟨.inl rfl, rfl⟩
        · exact Checked.onReturn_pure.mpr (.refl number dialog)
  · split
    · exact Checked.onReturn_pure.mpr ⟨.inl rfl, rfl⟩
    · exact Checked.onReturn_pure.mpr (.refl number dialog)
  · exact Checked.onReturn_pure.mpr (.refl number dialog)

theorem settle_stays (number : Option Nat) (dialog : Dialog) (verdict : Verdict) :
    Stays number dialog (dialog.settle verdict).1 := by
  cases verdict with
  | keep => exact ⟨.inl rfl, rfl⟩
  | delete => exact ⟨.inl rfl, rfl⟩
  | retransmission => exact .refl number dialog

/-- An update that takes no number keeps the remote one, and every update keeps the last ACK. -/
theorem update_stays (transaction : TransactionId) {resp : Option Response} (terminated : Bool) {asUas : Bool}
    (taken : dialog.takes resp asUas = true → number = req.cseq.map HeaderCseq.seqNumber) :
    OnReturn (dialog.update transaction req resp terminated asUas) fun (after, _) => Stays number dialog after := by
  have touched : OnReturn (dialog.touch transaction req asUas) fun after =>
      Stays number dialog after ∧ after.state = dialog.state ∧ after.isServer = dialog.isServer := by
    unfold touch
    split
    · next uas =>
        apply Checked.onReturn_bind.mpr
        apply Checked.onReturn_deref.mpr
        intro cseq numbered
        rw [taken (by simp [takes, uas]), numbered]
        exact Checked.onReturn_pure.mpr ⟨⟨.inr rfl, rfl⟩, rfl, rfl⟩
    · exact Checked.onReturn_pure.mpr ⟨⟨.inl rfl, rfl⟩, rfl, rfl⟩
  apply Checked.onReturn_bind.mpr
  apply touched.mono
  intro middle ⟨stays, state, side⟩
  apply Checked.onReturn_bind.mpr
  apply (updateState_stays terminated asUas fun answered isNull server => taken ?_).mono
  · intro (moved, verdict) more
    exact Checked.onReturn_pure.mpr (stays.trans (more.trans (settle_stays number moved verdict)))
  · rw [state] at isNull
    rw [side] at server
    simp [takes, answered, isNull, server]

end Dialog

namespace Session

open Dialog (Stays)

/-- The number that an update by the transaction takes as the remote one. -/
def taken (session : Session) (transaction : DialogTransaction) (resp : Option Response) : Option Nat :=
  if session.dialog.takes resp (!transaction.isClient) then transaction.request.cseq.map HeaderCseq.seqNumber else none

/-- The number that an event takes as the remote one. -/
def writes (session : Session) : Event → Option Nat
  | .responded id state resp => session.transactions[id]?.bind fun transaction =>
      if excludes transaction state then none else session.taken transaction (some resp)
  | .rejoined id state resp => session.transactions[id]?.bind fun transaction =>
      if excludes transaction state then none else session.taken transaction (some resp)
  | .responseRefused id => session.transactions[id]?.bind fun transaction =>
      if transaction.isClient then none else session.taken transaction transaction.lastResponse
  | .terminated id => session.transactions[id]?.bind fun transaction =>
      if transaction.state = .terminated then none else session.taken transaction transaction.lastResponse
  | _ => none

theorem takes_terminated {dialog : Dialog} (terminated : dialog.state = .terminated) (resp : Option Response) :
    dialog.takes resp false = false := by
  simp [Dialog.takes, terminated]

variable {session : Session} {transaction : DialogTransaction} {id : TransactionId}

theorem abort_stays (terminated : session.dialog.state = .terminated) (id : TransactionId) :
    OnReturn (session.abort id) fun after =>
      Stays none session.dialog after.dialog ∧ after.dialog.state = .terminated := by
  have ended := abort_aborted terminated (List.mem_singleton_self id)
  have stays : OnReturn (session.abort id) fun after => Stays none session.dialog after.dialog := by
    unfold abort
    split
    · exact Checked.onReturn_pure.mpr (.refl none session.dialog)
    · split
      · exact Checked.onReturn_pure.mpr (.refl none session.dialog)
      · dsimp only
        split
        · have unseen : ∀ resp, session.dialog.takes resp false = true → ∀ number : Option Nat, none = number := by
            intro resp taken
            rw [takes_terminated terminated] at taken
            cases taken
          apply Checked.onReturn_bind.mpr
          apply Checked.onReturn_bind.mpr
          apply (Dialog.update_stays id _ fun taken => unseen _ taken _).mono
          intro (dialog, retransmission) more
          exact Checked.onReturn_pure.mpr more
        · exact Checked.onReturn_pure.mpr (.refl none session.dialog)
  cases aborted : session.abort id with
  | ok after => exact ⟨stays.elim aborted, (ended.elim aborted).terminated⟩
  | error fault => trivial

theorem abortAll_stays (terminated : session.dialog.state = .terminated) (queued : List TransactionId) :
    OnReturn (session.abortAll queued) fun after => Stays none session.dialog after.dialog := by
  induction queued generalizing session with
  | nil => exact Checked.onReturn_pure.mpr (.refl none session.dialog)
  | cons id rest ih =>
      apply Checked.onReturn_bind.mpr
      apply (abort_stays terminated id).mono
      intro middle ⟨first, still⟩
      exact (ih still).mono fun after second => first.trans second

/-- An update of the dialog takes the number of the request as the update of the dialog alone does. -/
theorem updateDialog_stays {number : Option Nat} (present : session.transactions[id]? = some transaction) {asUas : Bool}
    (taken : session.dialog.takes transaction.lastResponse asUas = true →
      number = transaction.request.cseq.map HeaderCseq.seqNumber) :
    OnReturn (session.updateDialog id asUas) fun (after, _) => Stays number session.dialog after.dialog := by
  have stays := Dialog.update_stays id (decide (transaction.state = .terminated)) taken
  have spec := session.dialog.update_spec id transaction.request transaction.lastResponse
    (decide (transaction.state = .terminated)) asUas
  unfold updateDialog updateBy
  rw [present]
  dsimp only
  cases updated : session.dialog.update id transaction.request transaction.lastResponse
      (decide (transaction.state = .terminated)) asUas with
  | error fault => trivial
  | ok result =>
      obtain ⟨middle, verdict, switched, rfl⟩ := spec.elim updated
      have kept : Stays number session.dialog (middle.settle verdict).1 := stays.elim updated
      rw [Checked.ok_bind, pure_bind]
      dsimp only
      split
      · exact Checked.onReturn_pure.mpr kept
      · next dropped =>
          have terminated : (middle.settle verdict).1.state = .terminated := by
            cases verdict with
            | keep => exact absurd switched.queuedCt dropped
            | retransmission => exact absurd switched.queuedCt dropped
            | delete => rfl
          apply Checked.onReturn_bind.mpr
          apply (abortAll_stays terminated session.dialog.queuedCt).mono
          intro after more
          exact Checked.onReturn_pure.mpr (kept.trans (more.always number))

theorem delete_stays (session : Session) :
    OnReturn session.delete fun after => Stays none session.dialog after.dialog := by
  have deleted : Stays none session.dialog session.dialog.delete := ⟨.inl rfl, rfl⟩
  exact (abortAll_stays rfl session.dialog.queuedCt).mono fun after more => deleted.trans more

theorem terminate_stays {number : Option Nat} (present : session.transactions[id]? = some transaction)
    (taken : transaction.state ≠ .terminated →
      session.dialog.takes transaction.lastResponse (!transaction.isClient) = true →
        number = transaction.request.cseq.map HeaderCseq.seqNumber) :
    OnReturn (session.terminate id) fun after => Stays number session.dialog after.dialog := by
  apply (terminate_ending present).mono
  intro after ending
  cases ending with
  | ended terminated => exact .refl number session.dialog
  | silent alive other => exact .refl number session.dialog
  | updated after retransmission alive inside unanswered ended =>
      exact (updateDialog_stays (finish_present present) (taken alive)).elim ended

/-- A request without an answer takes no number. -/
theorem dispatch_stays (present : session.transactions[id]? = some transaction) (initial : transaction.state = .init)
    (unsent : transaction.isClient = true ∧ transaction.lastResponse = none) (outlet : Outlet) :
    OnReturn (session.dispatch id transaction.inDialog outlet) fun after =>
      Stays none session.dialog after.dialog := by
  obtain ⟨client, silent⟩ := unsent
  have emitted : ∀ middle : Session, Stays none session.dialog middle.dialog →
      OnReturn (pure (middle.emit id)) fun after => Stays none session.dialog after.dialog := by
    intro middle stays
    apply Checked.onReturn_pure.mpr
    rw [emit_dialog]
    exact stays
  have ended : ∀ middle : Session, middle.transactions[id]? = some transaction →
      Stays none session.dialog middle.dialog →
        OnReturn (middle.terminate id) fun after => Stays none session.dialog after.dialog := by
    intro middle there stays
    refine (terminate_stays there fun _ taken => ?_).mono fun after more => stays.trans more
    rw [client, silent] at taken
    cases taken
  unfold dispatch updateOwn
  apply Checked.onReturn_bind.mpr
  split
  · rw [updateDialog_silent present initial silent]
    cases outlet with
    | ready => exact emitted _ ⟨.inl rfl, rfl⟩
    | connecting => exact Checked.onReturn_pure.mpr ⟨.inl rfl, rfl⟩
    | noChannel => exact ended _ present ⟨.inl rfl, rfl⟩
    | badUris => exact ended _ present ⟨.inl rfl, rfl⟩
  · have stays : Stays none session.dialog session.dialog := .refl none session.dialog
    cases outlet with
    | ready => exact emitted session stays
    | connecting => exact Checked.onReturn_pure.mpr stays
    | noChannel => exact ended session present stays
    | badUris => exact ended session present stays

theorem renumber_present (present : session.transactions[id]? = some transaction) (dialog : Dialog) (req : Request) :
    (session.renumber id dialog req).transactions[id]? =
      some { transaction with request := req, origin := .dialog session.drawn } := by
  simp [renumber, present]

theorem sendRequest_stays (formed : Formed session) (id : TransactionId) (outlet : Outlet) :
    OnReturn (session.sendRequest id outlet) fun after => Stays none session.dialog after.dialog := by
  unfold sendRequest
  cases present : session.transactions[id]? with
  | none => exact Checked.onReturn_pure.mpr (.refl none session.dialog)
  | some transaction =>
      dsimp only
      split
      · exact Checked.onReturn_pure.mpr (.refl none session.dialog)
      · next fit =>
          have initial : transaction.state = .init := by tauto
          have unsent := (formed.formable id transaction present).unsent initial
          split
          · exact Checked.onReturn_pure.mpr ⟨.inl rfl, rfl⟩
          · split
            · apply Checked.onReturn_bind.mpr
              unfold updateRequest Dialog.updateRequest
              rw [present]
              simp only [Checked.onReturn_bind, Checked.onReturn_deref, Checked.onReturn_pure]
              intro cseq _ target _
              have counted : Stays none session.dialog (session.dialog.updateLocalCseq transaction.request.method) :=
                ⟨.inl rfl, rfl⟩
              apply (dispatch_stays (renumber_present present _ _) initial unsent outlet).mono
              exact fun after more => counted.trans more
            · exact dispatch_stays present initial unsent outlet

theorem processQueue_stays (formed : Formed session) (outlet : Outlet) :
    OnReturn (session.processQueue outlet) fun after => Stays none session.dialog after.dialog := by
  rw [processQueue_eq]
  split
  · exact Checked.onReturn_pure.mpr (.refl none session.dialog)
  · split
    · exact Checked.onReturn_pure.mpr ⟨.inl rfl, rfl⟩
    · next id _ =>
        have popped : Stays none session.dialog (session.pop id).dialog := ⟨.inl rfl, rfl⟩
        apply (sendRequest_stays ((session.pop_moves id).formed formed) id outlet).mono
        exact fun after more => popped.trans more

theorem createRequest_stays (dialog : Dialog) (pending : Bool) (method : String) :
    OnReturn (dialog.createRequest pending method) fun (after, _) => Stays none dialog after := by
  unfold Dialog.createRequest
  split
  · apply Checked.onReturn_bind.mpr
    generalize (dialog.updateLocalCseq method).buildRequest method true = built
    cases built with
    | ok req => exact Checked.onReturn_pure.mpr ⟨.inl rfl, rfl⟩
    | error fault => trivial
  · exact Checked.onReturn_pure.mpr (.refl none dialog)

/-- The BYE that the dialog has created is sent. -/
theorem sendBye_stays (formed : Formed session) {dialog : Dialog} {bye : Request}
    (moved : Quiet session { session with dialog := dialog }) (unqueued : bye.dialogQueued = false) 
    (stays : Stays none session.dialog dialog) (outlet : Outlet) :
    OnReturn (session.sendBye dialog bye outlet) fun after => Stays none session.dialog after.dialog := by
  have added := (addDrawn_quiet moved unqueued).moves
  exact (sendRequest_stays (added.formed formed) _ outlet).mono fun after sent => stays.trans sent

theorem checkAckSent_stays (formed : Formed session) (outlet : Outlet) :
    OnReturn (session.checkAckSent outlet) fun after => Stays none session.dialog after.dialog := by
  unfold checkAckSent Dialog.checkAckSent
  split
  · simp only [Checked.onReturn_bind]
    have kinds := session.dialog.createRequest_kind session.requestPending "BYE"
    have kept := createRequest_stays session.dialog session.requestPending "BYE"
    cases created : session.dialog.createRequest session.requestPending "BYE" with
    | error fault => trivial
    | ok result =>
        obtain ⟨dialog, req⟩ := result
        obtain ⟨⟨schedule, call⟩, kind⟩ := kinds.elim created
        apply Checked.onReturn_ok.mpr
        apply Checked.onReturn_deref.mpr
        intro bye made
        exact sendBye_stays formed (.ofSchedule schedule call.ackWait) (kind bye made).2 (kept.elim created) outlet
  · exact Checked.onReturn_pure.mpr (.refl none session.dialog)

theorem on200OkEnd_stays (formed : Formed session) (outlet : Outlet) :
    OnReturn (session.on200OkEnd outlet) fun after => Stays none session.dialog after.dialog := by
  unfold on200OkEnd Dialog.on200OkEnd
  split
  · simp only [Checked.onReturn_bind]
    generalize stopped : ({ session.dialog.stop200OkRetrans with state := .confirmed } : Dialog) = confirmed
    have ended : Stays none session.dialog confirmed := by
      rw [← stopped]
      exact ⟨.inl rfl, rfl⟩
    have kinds := confirmed.createRequest_kind session.requestPending "BYE"
    have kept := createRequest_stays confirmed session.requestPending "BYE"
    cases created : confirmed.createRequest session.requestPending "BYE" with
    | error fault => trivial
    | ok result =>
        obtain ⟨dialog, req⟩ := result
        obtain ⟨⟨schedule, call⟩, kind⟩ := kinds.elim created
        have moved : Quiet session { session with dialog := dialog } := by
          rw [← stopped] at schedule call
          apply Quiet.ofDialog schedule.queuedCt schedule.lastTransaction
          · intro terminated
            cases schedule.deleted.mp terminated
          · intro armed
            have disarmed := congrArg AckWait.timer200OkEnd call.ackWait
            cases disarmed.symm.trans armed
        apply Checked.onReturn_ok.mpr
        apply Checked.onReturn_deref.mpr
        intro bye made
        exact sendBye_stays formed moved (kind bye made).2 (ended.trans (kept.elim created)) outlet
  · exact Checked.onReturn_pure.mpr (.refl none session.dialog)

theorem taken_eq {resp : Option Response} (takes : session.dialog.takes resp (!transaction.isClient) = true) :
    session.taken transaction resp = transaction.request.cseq.map HeaderCseq.seqNumber := if_pos takes

theorem respond_stays (session : Session) (id : TransactionId) (state : TransactionState) (resp : Response) :
    OnReturn (session.respond id state resp) fun after =>
      Stays (session.writes (.responded id state resp)) session.dialog after.dialog := by
  cases present : session.transactions[id]? with
  | none =>
      unfold respond
      rw [present]
      exact Checked.onReturn_pure.mpr (.refl _ session.dialog)
  | some transaction =>
      apply (respond_answering present state resp).mono
      intro after answering
      cases answering with
      | ignored barred => exact .refl _ session.dialog
      | passed admitted other => exact .refl _ session.dialog
      | updated after retransmission admitted updates ended =>
          have number : session.writes (.responded id state resp) = session.taken transaction (some resp) := by
            simp [writes, present, admitted]
          rw [number]
          exact (updateDialog_stays (answer_present present state resp) taken_eq).elim ended

theorem rejoin_stays (session : Session) (id : TransactionId) (state : TransactionState) (resp : Response) :
    OnReturn (session.rejoin id state resp) fun after =>
      Stays (session.writes (.rejoined id state resp)) session.dialog after.dialog := by
  cases present : session.transactions[id]? with
  | none =>
      unfold rejoin
      rw [present]
      exact Checked.onReturn_pure.mpr (.refl _ session.dialog)
  | some transaction =>
      apply (rejoin_answering present state resp).mono
      intro after outcome
      rcases outcome with rfl | ⟨admitted, client, invite, retransmission, ended⟩
      · exact .refl _ after.dialog
      · have number : session.writes (.rejoined id state resp) = session.taken transaction (some resp) := by
          simp [writes, present, admitted]
        have uac : (!transaction.isClient) = false := by simp [client]
        rw [number]
        refine (updateDialog_stays (answer_present present state resp) fun takes => taken_eq ?_).elim ended
        rw [uac]
        exact takes

theorem responseRefused_stays (session : Session) (id : TransactionId) :
    OnReturn (session.handle (.responseRefused id)) fun after =>
      Stays (session.writes (.responseRefused id)) session.dialog after.dialog := by
  dsimp only [handle]
  split
  · exact Checked.onReturn_pure.mpr (.refl _ session.dialog)
  · next served =>
      cases present : session.transactions[id]? with
      | none => simp [present] at served
      | some transaction =>
          have server : transaction.isClient = false := by simpa [present] using served
          have number : session.writes (.responseRefused id) = session.taken transaction transaction.lastResponse := by
            simp [writes, present, server]
          have taken : session.dialog.takes transaction.lastResponse true = true →
              session.taken transaction transaction.lastResponse =
                transaction.request.cseq.map HeaderCseq.seqNumber := by
            intro takes
            apply taken_eq
            rw [server]
            exact takes
          rw [number]
          apply Checked.onReturn_bind.mpr
          apply (updateDialog_stays present taken).mono
          intro (after, _) stays
          exact Checked.onReturn_pure.mpr stays

theorem terminated_stays (session : Session) (id : TransactionId) :
    OnReturn (session.terminate id) fun after =>
      Stays (session.writes (.terminated id)) session.dialog after.dialog := by
  cases present : session.transactions[id]? with
  | none =>
      unfold terminate
      rw [present]
      exact Checked.onReturn_pure.mpr (.refl _ session.dialog)
  | some transaction =>
      refine terminate_stays present fun alive takes => ?_
      have number : session.writes (.terminated id) = session.taken transaction transaction.lastResponse := by
        simp [writes, present, alive]
      rw [number, taken_eq takes]

/-- Every event other than the sending of an ACK keeps the last ACK, and only those that write a number change the
remote one. -/
theorem handle_stays (formed : Formed session) {event : Event} (other : ∀ ack, event ≠ .ackSent ack) :
    OnReturn (session.handle event) fun after => Stays (session.writes event) session.dialog after.dialog := by
  have added : ∀ {result : Checked Session} (number : Option Nat), OnReturn result (Adds session) →
      OnReturn result fun after => Stays number session.dialog after.dialog := by
    intro result number adds
    refine adds.mono fun after new => ?_
    rw [new.dialog]
    exact .refl number session.dialog
  cases event with
  | createRequest method =>
      apply Checked.onReturn_bind.mpr
      apply (createRequest_stays session.dialog session.requestPending method).mono
      intro (dialog, req) stays
      dsimp only
      split
      · exact Checked.onReturn_pure.mpr stays
      · split
        · exact Checked.onReturn_pure.mpr stays
        · exact Checked.onReturn_pure.mpr stays
  | createQueuedRequest method => exact added none (createQueuedRequest_adds session method)
  | createAuthenticatedRequest id => exact added none (createAuthenticatedRequest_adds session id)
  | createCancel id => exact added none (createCancel_adds session id)
  | sendRequest id outlet => exact sendRequest_stays formed id outlet
  | channelReady id =>
      apply Checked.onReturn_pure.mpr
      unfold channelReady
      split
      · rw [emit_dialog]
        exact .refl none session.dialog
      · exact .refl none session.dialog
  | processQueue outlet => exact processQueue_stays formed outlet
  | requestReceived req => exact added none (requestReceived_adds session req)
  | responded id state resp => exact respond_stays session id state resp
  | forked id => exact Checked.onReturn_pure.mpr (.refl none session.dialog)
  | rejoined id state resp => exact rejoin_stays session id state resp
  | responseRefused id => exact responseRefused_stays session id
  | terminated id => exact terminated_stays session id
  | ackSent ack => exact absurd rfl (other ack)
  | ackReceived ack =>
      have handled : OnReturn (session.dialog.handleAck ack) fun (after, _) => Stays none session.dialog after := by
        unfold Dialog.handleAck
        split
        · apply Checked.onReturn_bind.mpr
          apply Checked.onReturn_deref.mpr
          intro cseq _
          split
          · exact Checked.onReturn_pure.mpr ⟨.inl rfl, rfl⟩
          · exact Checked.onReturn_pure.mpr (.refl none session.dialog)
        · exact Checked.onReturn_pure.mpr (.refl none session.dialog)
      apply Checked.onReturn_bind.mpr
      apply handled.mono
      intro (dialog, _) stays
      exact Checked.onReturn_pure.mpr stays
  | ackChecked outlet => exact checkAckSent_stays formed outlet
  | timer200OkEnd outlet => exact on200OkEnd_stays formed outlet
  | terminateOnBye value => exact Checked.onReturn_pure.mpr ⟨.inl rfl, rfl⟩
  | deleted => exact delete_stays session

/-- What a step of a session does to the remote number and to the last ACK. -/
theorem step_stays (formed : Formed session) {event : Event} (other : ∀ ack, event ≠ .ackSent ack) :
    Stays (session.writes event) session.dialog (session.step event).dialog := by
  unfold step
  split
  · exact .refl _ session.dialog
  · have stays := handle_stays formed other
    cases handled : session.handle event with
    | ok after => exact stays.elim handled
    | error fault => exact .refl _ session.dialog

end Session

end BelleSip
