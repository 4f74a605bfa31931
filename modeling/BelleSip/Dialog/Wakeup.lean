import BelleSip.Foundation.Machine
import BelleSip.Dialog.Dispatch

/-
This file proves when the main loop always comes back to the queue of a dialog.
-/

namespace BelleSip

open Foundation
open Foundation.Checked (OnReturn)

namespace Session

/-- A dialog that could send its next queued request has a call of `_belle_sip_dialog_process_queue` on the
main loop. -/
def Scheduled (session : Session) : Prop :=
  session.dialog.state ≠ .terminated → session.dialog.queuedCt ≠ [] → session.requestPending = false →
    session.dialog.needsAck = false → 0 < session.dialog.postponed

/-- Only the end of the last transaction can bring the main loop back to the queue. -/
def relies (session : Session) : Bool :=
  session.dialog.state ≠ .terminated && !session.dialog.queuedCt.isEmpty && !session.dialog.needsAck &&
    session.dialog.postponed = 0

/-- The response is taken for a retransmission of the 200 Ok that the dialog has acknowledged last. -/
def repeats (session : Session) (transaction : DialogTransaction) (resp : Response) : Bool :=
  transaction.isClient && transaction.request.method = "INVITE" && 200 ≤ resp.statusCode &&
    resp.statusCode < 300 && session.dialog.state = .confirmed && session.dialog.handle200Ok resp = .ok true

/-- The event takes no call from the main loop that the queue relies on. -/
def wakes (session : Session) : Event → Bool
  | .processQueue outlet =>
      session.dialog.postponed ≠ 1 || session.dialog.queuedCt.tail.isEmpty || session.dequeued.all fun id =>
        session.transactions[id]?.all fun transaction => transaction.state = .init && outlet ≠ .badUris
  | .responded id state resp =>
      !session.relies || state.isTransient || session.transactions[id]?.all fun transaction =>
        if session.updates transaction resp then !session.repeats transaction resp
        else session.dialog.lastTransaction ≠ some id
  | .rejoined id state resp =>
      !session.relies || state.isTransient || session.transactions[id]?.all fun transaction =>
        !session.repeats transaction resp
  | .terminated id =>
      !session.relies || session.dialog.lastTransaction ≠ some id ||
        session.transactions[id]?.all fun transaction => transaction.inDialog && transaction.unanswered
  | _ => true

variable {session : Session} {id : TransactionId} {transaction : DialogTransaction} {state : TransactionState}

theorem relies_iff : session.relies = true ↔
    session.dialog.state ≠ .terminated ∧ session.dialog.queuedCt ≠ [] ∧ session.dialog.needsAck = false ∧
      session.dialog.postponed = 0 := by
  simp [relies, and_assoc]

theorem scheduled_of_relies (waits : session.relies = true → session.requestPending = true) :
    session.Scheduled := by
  intro alive queued idle noAck
  apply Nat.pos_of_ne_zero
  intro nothing
  rw [waits (relies_iff.mpr ⟨alive, queued, noAck, nothing⟩)] at idle
  cases idle

theorem Scheduled.pending (scheduled : session.Scheduled) (relied : session.relies = true) :
    session.requestPending = true := by
  obtain ⟨alive, queued, noAck, nothing⟩ := relies_iff.mp relied
  by_contra idle
  have positive := scheduled alive queued (Bool.eq_false_iff.mpr idle) noAck
  omega

theorem scheduled_of_postponed (positive : 0 < session.dialog.postponed) :
    session.Scheduled := fun _ _ _ _ => positive

theorem scheduled_of_terminated (terminated : session.dialog.state = .terminated) :
    session.Scheduled := fun alive => absurd terminated alive

/-- The schedule of the dialog stays, and no pending request ends. -/
theorem Scheduled.carry {before after : Session} (scheduled : before.Scheduled)
    (schedule : Dialog.SameSchedule before.dialog after.dialog)
    (needsAck : after.dialog.needsAck = before.dialog.needsAck)
    (pending : before.requestPending = true → after.requestPending = true) : after.Scheduled := by
  intro alive queued idle noAck
  rw [schedule.queuedCt] at queued
  rw [needsAck] at noAck
  rw [schedule.postponed]
  apply scheduled (alive ∘ schedule.deleted.mpr) queued _ noAck
  apply Bool.eq_false_iff.mpr
  intro busy
  rw [pending busy] at idle
  cases idle

/-- An update brings the main loop back to the queue unless it takes a response for a retransmission. -/
theorem updateDialog_scheduled (present : session.transactions[id]? = some transaction) (asUas : Bool)
    (waits : ∀ resp, transaction.lastResponse = some resp → asUas = false → session.relies = true →
      transaction.request.method = "INVITE" → 200 ≤ resp.statusCode ∧ resp.statusCode < 300 →
        session.dialog.state = .confirmed → session.dialog.handle200Ok resp = .ok true →
          transaction.state.isTransient = true) :
    OnReturn (session.updateDialog id asUas) fun (after, _) => after.Scheduled := by
  apply (updateDialog_spec present asUas).mono
  intro (after, _) ⟨middle, verdict, updated, same, deleted⟩
  cases verdict with
  | keep =>
      rw [same (by decide)]
      exact scheduled_of_postponed (Nat.succ_pos _)
  | delete => exact scheduled_of_terminated (deleted rfl).terminated
  | retransmission =>
      obtain ⟨waiting, answer, answered, invite, success, confirmed, asUac, again⟩ :=
        updated.outcome.retransmitted rfl
      rw [same (by decide)]
      apply scheduled_of_relies
      intro relied
      obtain ⟨alive, queued, noAck, nothing⟩ := relies_iff.mp relied
      have queuedBefore : session.dialog.queuedCt ≠ [] := by
        rw [← updated.queuedCt]
        exact queued
      have noAckBefore : session.dialog.needsAck = false :=
        (congrArg AckWait.needsAck waiting).symm.trans noAck
      have reliedBefore : session.relies = true :=
        relies_iff.mpr ⟨alive ∘ updated.state.mpr, queuedBefore, noAckBefore, updated.postponed.symm.trans nothing⟩
      have transient := waits answer answered asUac reliedBefore invite success confirmed again
      simp [requestPending, Dialog.settle, updated.lastTransaction, present, transient]

/-- The pending request of a session stays pending when the session changes in a way that it does not see. -/
theorem Scheduled.congr {before after : Session} (scheduled : before.Scheduled)
    (dialog : after.dialog = before.dialog) (transactions : after.transactions = before.transactions) :
    after.Scheduled := by
  unfold Scheduled requestPending at scheduled ⊢
  rw [dialog, transactions]
  exact scheduled

theorem add_scheduled (scheduled : session.Scheduled) (transaction : DialogTransaction) :
    (session.add transaction).Scheduled :=
  scheduled.carry (.refl session.dialog) rfl (requestPending_add transaction)

/-- A change that keeps a transient transaction transient. -/
theorem Scheduled.modify (scheduled : session.Scheduled) {change : DialogTransaction → DialogTransaction}
    (keeps : ∀ transaction, session.transactions[id]? = some transaction →
      transaction.state.isTransient = true → (change transaction).state.isTransient = true) :
    (session.modify id change).Scheduled := by
  have pending := requestPending_modify keeps
  intro alive queued idle noAck
  apply scheduled alive queued _ noAck
  apply Bool.eq_false_iff.mpr
  intro busy
  rw [pending busy] at idle
  cases idle

/-- An emission leaves the transaction transient. -/
theorem emit_scheduled (scheduled : session.Scheduled) (id : TransactionId) :
    (session.emit id).Scheduled := by
  cases present : session.transactions[id]? with
  | none =>
      unfold emit
      rw [present]
      exact scheduled
  | some transaction =>
      obtain ⟨dialog, transactions⟩ := emit_eq present
      have changed : (session.modify id fun sent =>
          { sent with
            state := if transaction.request.method = "INVITE" then .calling else .trying
            waiting := false }).Scheduled := by
        apply scheduled.modify
        intro sent _ _
        dsimp only
        split <;> rfl
      exact changed.congr dialog transactions

/-- The end of a transaction brings the main loop back when the queue relies on it. -/
theorem terminate_scheduled (scheduled : session.Scheduled) (wakes : session.wakes (.terminated id) = true) :
    OnReturn (session.terminate id) Scheduled := by
  cases present : session.transactions[id]? with
  | none =>
      unfold terminate
      rw [present]
      exact Checked.onReturn_pure.mpr scheduled
  | some transaction =>
      apply (terminate_ending present).mono
      intro after ending
      cases ending with
      | ended terminated => exact scheduled
      | silent alive other =>
          apply scheduled_of_relies
          intro relied
          have elsewhere : session.dialog.lastTransaction ≠ some id := by
            intro isLast
            have reached : transaction.inDialog = true ∧ transaction.unanswered = true := by
              simpa [Session.wakes, show session.relies = true from relied, isLast, present] using wakes
            rw [reached.1, reached.2] at other
            cases other
          rw [finish, requestPending_modify_ne elsewhere]
          exact scheduled.pending relied
      | updated after retransmission alive inside unanswered ended =>
          refine (updateDialog_scheduled (finish_present present) _ ?_).elim ended
          intro resp answered _ _ _ success
          have provisional : resp.statusCode < 200 := by
            simpa [DialogTransaction.unanswered, show transaction.lastResponse = some resp from answered]
              using unanswered
          omega

/-- A response that does not update the dialog must not end the transaction that the queue relies on. -/
theorem answer_scheduled (scheduled : session.Scheduled) (resp : Response)
    (waits : session.relies = true → state.isTransient = true ∨ session.dialog.lastTransaction ≠ some id) :
    (session.answer id state resp).Scheduled := by
  apply scheduled_of_relies
  intro relied
  have pending := scheduled.pending relied
  rcases waits relied with transient | other
  · apply requestPending_modify _ pending
    intro _ _ _
    exact transient
  · rw [answer, requestPending_modify_ne other]
    exact pending

/-- A response that updates the dialog must not be taken for a retransmission while the queue relies on the
last transaction. -/
theorem answered_scheduled (present : session.transactions[id]? = some transaction) (resp : Response) (asUas : Bool)
    (client : asUas = false → transaction.isClient = true)
    (waits : session.relies = true → state.isTransient = true ∨ session.repeats transaction resp = false) :
    OnReturn ((session.answer id state resp).updateDialog id asUas) fun (after, _) => after.Scheduled := by
  apply updateDialog_scheduled (answer_present present state resp)
  intro same equal asUac relied invite success confirmed again
  cases equal
  rcases waits relied with transient | fresh
  · exact transient
  · have repeated : session.repeats transaction resp = true := by
      simp only [repeats, Bool.and_eq_true, decide_eq_true_eq]
      exact ⟨⟨⟨⟨⟨client asUac, invite⟩, success.1⟩, success.2⟩, confirmed⟩, again⟩
    rw [repeated] at fresh
    cases fresh

theorem respond_scheduled (scheduled : session.Scheduled) {resp : Response}
    (wakes : session.wakes (.responded id state resp) = true) :
    OnReturn (session.respond id state resp) Scheduled := by
  cases present : session.transactions[id]? with
  | none =>
      unfold respond
      rw [present]
      exact Checked.onReturn_pure.mpr scheduled
  | some transaction =>
      have waits : session.relies = true → state.isTransient = true ∨
          (if session.updates transaction resp then session.repeats transaction resp = false
            else session.dialog.lastTransaction ≠ some id) := by
        intro relied
        simp only [Session.wakes, relied, Bool.not_true, Bool.false_or, present, Option.all_some,
          Bool.or_eq_true] at wakes
        rcases wakes with transient | rest
        · exact .inl transient
        · apply Or.inr
          split at rest
          · next updates => simpa [updates] using rest
          · next other => simpa [other] using rest
      apply (respond_answering present state resp).mono
      intro after answering
      cases answering with
      | ignored => exact scheduled
      | passed admitted other =>
          rw [other] at waits
          exact answer_scheduled scheduled resp waits
      | updated after retransmission admitted updates ended =>
          rw [updates] at waits
          have client : (!transaction.isClient) = false → transaction.isClient = true := by simp
          exact (answered_scheduled present resp _ client waits).elim ended

theorem rejoin_scheduled (scheduled : session.Scheduled) {resp : Response}
    (wakes : session.wakes (.rejoined id state resp) = true) :
    OnReturn (session.rejoin id state resp) Scheduled := by
  cases present : session.transactions[id]? with
  | none =>
      unfold rejoin
      rw [present]
      exact Checked.onReturn_pure.mpr scheduled
  | some transaction =>
      apply (rejoin_answering present state resp).mono
      intro after outcome
      rcases outcome with rfl | ⟨admitted, client, invite, retransmission, ended⟩
      · exact scheduled
      · have waits : session.relies = true →
            state.isTransient = true ∨ session.repeats transaction resp = false := by
          intro relied
          simpa [Session.wakes, relied, present] using wakes
        exact (answered_scheduled present resp false (fun _ => client) waits).elim ended

/-- A request that leaves brings the main loop back to the queue when it updates the dialog. -/
theorem delivered_scheduled {session middle after : Session} {outlet : Outlet} (formed : Formed session)
    (present : session.transactions[id]? = some transaction) (initial : transaction.state = .init)
    (readied : Readied session id transaction middle) (delivered : Delivered middle id outlet after)
    (scheduled : transaction.inDialog = false → session.Scheduled) : after.Scheduled := by
  obtain ⟨request, origin, placed, _⟩ := readied.placed
  have ready : middle.Scheduled := by
    cases inside : transaction.inDialog with
    | true => exact scheduled_of_postponed (readied.claimed.claims inside).2
    | false =>
        obtain ⟨last, postponed⟩ := readied.claimed.leaves inside
        apply (scheduled inside).carry ⟨last, readied.claimed.queuedCt, postponed, readied.claimed.state⟩
          (congrArg AckWait.needsAck readied.claimed.call.ackWait)
        exact readied.pending present inside
  have ends : middle.terminate id = .ok after → after.Scheduled := by
    intro same
    apply (terminate_scheduled ready _).elim same
    simp only [wakes, Bool.or_eq_true, Bool.not_eq_true', decide_eq_true_eq]
    cases inside : transaction.inDialog with
    | true =>
        have positive := (readied.claimed.claims inside).2
        have free : middle.relies = false := by
          apply Bool.eq_false_iff.mpr
          intro relied
          have nothing := (relies_iff.mp relied).2.2.2
          omega
        exact .inl (.inl free)
    | false =>
        apply Or.inl
        apply Or.inr
        rw [(readied.claimed.leaves inside).1]
        exact formed.outside present initial inside
  cases outlet with
  | ready =>
      rw [show after = middle.emit id from delivered]
      exact emit_scheduled ready id
  | connecting =>
      rw [show after = middle.modify id fun transaction => { transaction with waiting := true } from delivered]
      exact ready.modify fun _ _ transient => transient
  | noChannel => exact ends delivered
  | badUris => exact ends delivered

/-- A request enters a queue that another one waits in or keeps from being sent. -/
theorem queued_scheduled (scheduled : session.Scheduled) (waits : session.queues transaction = true)
    (id : TransactionId) :
    Scheduled { session with dialog := { session.dialog with queuedCt := session.dialog.queuedCt ++ [id] } } := by
  intro alive _ idle noAck
  have still : session.requestPending = false := idle
  have busy : session.dialog.queuedCt ≠ [] := by
    simpa [queues, still] using (Bool.and_eq_true_iff.mp waits).2
  exact scheduled alive busy still noAck

theorem sendRequest_scheduled (formed : Formed session) (scheduled : session.Scheduled) (id : TransactionId)
    (outlet : Outlet) : OnReturn (session.sendRequest id outlet) Scheduled := by
  cases present : session.transactions[id]? with
  | none =>
      unfold sendRequest
      rw [present]
      exact Checked.onReturn_pure.mpr scheduled
  | some transaction =>
      apply (sendRequest_attempt present (fun initial =>
        ((formed.formable id transaction present).unsent initial).2) outlet).mono
      intro after attempt
      cases attempt with
      | skipped unfit => exact scheduled
      | queued initial fit waits => exact queued_scheduled scheduled waits id
      | delivered middle after initial fit direct readied delivered =>
          exact delivered_scheduled formed present initial readied delivered fun _ => scheduled

/-- The task leaves the queue to later tasks unless the transaction that it takes cannot be sent. -/
theorem processQueue_scheduled (formed : Formed session) (scheduled : session.Scheduled) {outlet : Outlet}
    (wakes : session.wakes (.processQueue outlet) = true) :
    OnReturn (session.processQueue outlet) Scheduled := by
  rw [processQueue_eq]
  split
  · exact Checked.onReturn_pure.mpr scheduled
  · next called =>
      split
      · next nothing =>
          apply Checked.onReturn_pure.mpr
          intro alive queued idle noAck
          have still : session.requestPending = false := idle
          have alive : session.dialog.state ≠ .terminated := alive
          have noAck : session.dialog.needsAck = false := noAck
          have empty : session.dialog.queuedCt = [] := by
            simpa [dequeued, alive, still, noAck] using nothing
          exact absurd empty queued
      · next id taken =>
          have first : session.dialog.queuedCt.head? = some id := by
            unfold dequeued at taken
            split at taken
            · cases taken
            · exact taken
          obtain ⟨transaction, present, client, queued⟩ := formed.queued id (List.mem_of_mem_head? first)
          have inside := ((formed.formable id transaction present).queued client queued).1
          have popped : (session.pop id).transactions[id]? = some { transaction with sentByDialogQueue := true } := by
            simp [pop, modify, present]
          have unsent := (formed.formable id transaction present).unsent
          apply (sendRequest_attempt popped (fun initial => (unsent initial).2) outlet).mono
          intro after attempt
          cases attempt with
          | skipped unfit =>
              intro _ left _ _
              apply Nat.pos_of_ne_zero
              intro none
              have last : session.dialog.postponed = 1 := by
                have remaining : session.dialog.postponed - 1 = 0 := none
                omega
              have sendable : session.dialog.queuedCt.tail = [] ∨ (transaction.state = .init ∧ outlet ≠ .badUris) := by
                simpa [Session.wakes, last, taken, present] using wakes
              rcases sendable with empty | ⟨initial, fit⟩
              · exact left empty
              · rcases unfit with sent | bad
                · exact sent initial
                · exact fit bad
          | queued initial fit waits => simp [queues] at waits
          | delivered middle after initial fit direct readied delivered =>
              apply delivered_scheduled ((session.pop_moves id).formed formed) popped initial readied delivered
              intro outside
              rw [show transaction.inDialog = false from outside] at inside
              cases inside

theorem ofSchedule_scheduled (scheduled : session.Scheduled) {dialog : Dialog}
    (schedule : Dialog.SameSchedule session.dialog dialog) (ackWait : dialog.ackWait = session.dialog.ackWait) :
    Scheduled { session with dialog := dialog } := by
  have same : { session with dialog := dialog }.requestPending = session.requestPending := by
    unfold requestPending
    dsimp only
    rw [schedule.lastTransaction]
  apply scheduled.carry schedule (congrArg AckWait.needsAck ackWait)
  rw [same]
  exact fun pending => pending

/-- A BYE that has been created leaves. -/
theorem sendBye_scheduled (formed : Formed session) {dialog : Dialog} {bye : Request}
    (moved : Quiet session { session with dialog := dialog }) (unqueued : bye.dialogQueued = false) 
    (scheduled : Scheduled { session with dialog := dialog }) (outlet : Outlet) :
    OnReturn (session.sendBye dialog bye outlet) Scheduled := by
  have added := (addDrawn_quiet moved unqueued).formed formed
  apply sendRequest_scheduled added _ _ outlet
  exact (add_scheduled scheduled { request := bye, origin := .dialog session.drawn }).congr rfl rfl

theorem checkAckSent_scheduled (formed : Formed session) (scheduled : session.Scheduled) (outlet : Outlet) :
    OnReturn (session.checkAckSent outlet) Scheduled := by
  unfold checkAckSent Dialog.checkAckSent
  split
  · simp only [Checked.onReturn_bind]
    apply (session.dialog.createRequest_kind _ "BYE").mono
    rintro ⟨dialog, req⟩ ⟨⟨schedule, call⟩, kind⟩
    have waits := call.ackWait
    apply Checked.onReturn_deref.mpr
    intro bye made
    exact sendBye_scheduled formed (.ofSchedule schedule waits) (kind bye made).2
      (ofSchedule_scheduled scheduled schedule waits) outlet
  · exact Checked.onReturn_pure.mpr scheduled

theorem on200OkEnd_scheduled (formed : Formed session) (scheduled : session.Scheduled) (outlet : Outlet) :
    OnReturn (session.on200OkEnd outlet) Scheduled := by
  unfold on200OkEnd Dialog.on200OkEnd
  split
  · next armed =>
      have alive : session.dialog.state ≠ .terminated := by
        intro terminated
        rw [formed.stopped terminated] at armed
        cases armed
      have stopped : Scheduled
          { session with dialog := { session.dialog.stop200OkRetrans with state := .confirmed } } :=
        fun _ => scheduled alive
      have quiet : Quiet session
          { session with dialog := { session.dialog.stop200OkRetrans with state := .confirmed } } :=
        .ofDialog rfl rfl nofun nofun
      simp only [Checked.onReturn_bind]
      apply (Dialog.createRequest_kind _ _ "BYE").mono
      rintro ⟨dialog, req⟩ ⟨⟨schedule, call⟩, kind⟩
      have waits := call.ackWait
      apply Checked.onReturn_deref.mpr
      intro bye made
      exact sendBye_scheduled formed (quiet.trans (.ofSchedule schedule waits)) (kind bye made).2
        (ofSchedule_scheduled stopped schedule waits) outlet
  · exact Checked.onReturn_pure.mpr scheduled

theorem sendAck_scheduled (scheduled : session.Scheduled) (ack : Request) :
    Scheduled { session with dialog := session.dialog.sendAck ack } := by
  unfold Dialog.sendAck
  split
  · exact scheduled_of_postponed (Nat.succ_pos _)
  · exact scheduled

theorem handleAck_scheduled (scheduled : session.Scheduled) (ack : Request) :
    OnReturn (session.dialog.handleAck ack) fun (dialog, _) => Scheduled { session with dialog := dialog } := by
  unfold Dialog.handleAck
  split
  · apply Checked.onReturn_bind.mpr
    apply Checked.onReturn_deref.mpr
    intro cseq _
    split
    · exact Checked.onReturn_pure.mpr (scheduled_of_postponed (Nat.succ_pos _))
    · exact Checked.onReturn_pure.mpr scheduled
  · exact Checked.onReturn_pure.mpr scheduled

theorem createRequest_scheduled (scheduled : session.Scheduled) (method : String) :
    OnReturn (session.createRequest method) Scheduled := by
  apply Checked.onReturn_bind.mpr
  apply (session.dialog.createRequest_kind _ method).mono
  intro (dialog, req) ⟨⟨schedule, call⟩, _⟩
  have waits := call.ackWait
  have moved := ofSchedule_scheduled scheduled schedule waits
  cases req with
  | none => exact Checked.onReturn_pure.mpr moved
  | some req =>
      dsimp only
      split
      · exact Checked.onReturn_pure.mpr moved
      · apply Checked.onReturn_pure.mpr
        exact (add_scheduled moved { request := req, origin := .dialog session.drawn }).congr rfl rfl

theorem Adds.scheduled {session after : Session} (adds : Adds session after) (scheduled : session.Scheduled) :
    after.Scheduled := by
  cases adds with
  | nothing => exact scheduled
  | added transaction unsent => exact add_scheduled scheduled transaction

theorem responseRefused_scheduled (scheduled : session.Scheduled) (id : TransactionId) :
    OnReturn (session.handle (.responseRefused id)) Scheduled := by
  dsimp only [handle]
  split
  · exact Checked.onReturn_pure.mpr scheduled
  · next served =>
      apply Checked.onReturn_bind.mpr
      cases present : session.transactions[id]? with
      | none => simp [present] at served
      | some transaction =>
          apply (updateDialog_scheduled present true _).mono
          · intro (after, _) holds
            exact Checked.onReturn_pure.mpr holds
          · intro _ _ asUac
            cases asUac

/-- An event that wakes the main loop keeps the dialog scheduled. -/
theorem handle_scheduled (formed : Formed session) (scheduled : session.Scheduled) {event : Event}
    (wakes : session.wakes event = true) : OnReturn (session.handle event) Scheduled := by
  have added : ∀ {result : Checked Session}, OnReturn result (Adds session) → OnReturn result Scheduled :=
    fun adds => adds.mono fun after new => new.scheduled scheduled
  cases event with
  | createRequest method => exact createRequest_scheduled scheduled method
  | createQueuedRequest method => exact added (createQueuedRequest_adds session method)
  | createAuthenticatedRequest id => exact added (createAuthenticatedRequest_adds session id)
  | createCancel id => exact added (createCancel_adds session id)
  | sendRequest id outlet => exact sendRequest_scheduled formed scheduled id outlet
  | channelReady id =>
      apply Checked.onReturn_pure.mpr
      unfold channelReady
      split
      · exact emit_scheduled scheduled id
      · exact scheduled
  | processQueue outlet => exact processQueue_scheduled formed scheduled wakes
  | requestReceived req => exact added (requestReceived_adds session req)
  | responded id state resp => exact respond_scheduled scheduled wakes
  | forked id =>
      apply Checked.onReturn_pure.mpr
      apply scheduled.modify
      intro transaction _ transient
      split <;> exact transient
  | rejoined id state resp => exact rejoin_scheduled scheduled wakes
  | responseRefused id => exact responseRefused_scheduled scheduled id
  | terminated id => exact terminate_scheduled scheduled wakes
  | ackSent ack => exact Checked.onReturn_pure.mpr (sendAck_scheduled scheduled ack)
  | ackReceived ack =>
      apply Checked.onReturn_bind.mpr
      apply (handleAck_scheduled scheduled ack).mono
      intro (dialog, _) holds
      exact Checked.onReturn_pure.mpr holds
  | ackChecked outlet => exact checkAckSent_scheduled formed scheduled outlet
  | timer200OkEnd outlet => exact on200OkEnd_scheduled formed scheduled outlet
  | terminateOnBye value => exact Checked.onReturn_pure.mpr scheduled
  | deleted =>
      apply (delete_aborted session).mono
      intro after aborted
      exact scheduled_of_terminated aborted.terminated

theorem step_scheduled (formed : Formed session) (scheduled : session.Scheduled) {event : Event}
    (wakes : session.wakes event = true) : (session.step event).Scheduled := by
  unfold step
  split
  · exact scheduled
  · have kept := handle_scheduled formed scheduled wakes
    cases handled : session.handle event with
    | ok after => exact kept.elim handled
    | error fault => exact scheduled

end Session

end BelleSip
