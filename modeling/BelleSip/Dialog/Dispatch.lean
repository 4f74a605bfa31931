import BelleSip.Dialog.Sequence
import BelleSip.Dialog.Tracking

/-
This file states what the operations that send a request do to a session, and it proves that every event
keeps a session well formed.
-/

namespace BelleSip

open Foundation
open Foundation.Checked (OnReturn)

namespace Dialog

/-- A request without an answer updates the dialog, if it belongs to it, and becomes its last one. -/
structure Claimed (before after : Dialog) (id : TransactionId) (inDialog : Bool) : Prop where
  queuedCt : after.queuedCt = before.queuedCt
  call : SameCall before after
  claims : inDialog = true → after.lastTransaction = some id ∧ 0 < after.postponed
  leaves : inDialog = false → after.lastTransaction = before.lastTransaction ∧ after.postponed = before.postponed

namespace Claimed

variable {before middle after : Dialog} {id : TransactionId} {inDialog : Bool}

theorem state (claimed : Claimed before after id inDialog) :
    after.state = .terminated ↔ before.state = .terminated := by
  rw [claimed.call.state]

theorem behind (same : Untouched before middle) (claimed : Claimed middle after id inDialog) :
    Claimed before after id inDialog where
  queuedCt := claimed.queuedCt.trans same.schedule.queuedCt
  call := same.call.trans claimed.call
  claims := claimed.claims
  leaves := by
    intro outside
    obtain ⟨last, postponed⟩ := claimed.leaves outside
    exact ⟨last.trans same.schedule.lastTransaction, postponed.trans same.schedule.postponed⟩

end Claimed

/-- A transaction of a client that has no answer and has not ended only becomes the last one. -/
theorem update_silent (dialog : Dialog) (id : TransactionId) (req : Request) :
    dialog.update id req none false false =
      .ok ({ dialog with lastTransaction := some id }.processQueue, false) := by
  unfold update touch updateState
  cases state : dialog.state <;> simp [settle, pure, Except.pure, bind, Except.bind]

theorem updateLocalCseq_untouched (dialog : Dialog) (method : String) :
    Untouched dialog (dialog.updateLocalCseq method) := ⟨⟨rfl, rfl, rfl, Iff.rfl⟩, ⟨rfl, rfl, rfl, rfl, rfl⟩⟩

/-- A queued request is numbered and keeps its kind. -/
theorem updateRequest_kind (dialog : Dialog) (req : Request) :
    OnReturn (dialog.updateRequest req) fun (after, new) =>
      Untouched dialog after ∧ new.method = req.method ∧ new.dialogQueued = req.dialogQueued := by
  apply Checked.onReturn_bind.mpr
  apply Checked.onReturn_deref.mpr
  intro cseq _
  apply Checked.onReturn_bind.mpr
  apply Checked.onReturn_deref.mpr
  intro target _
  exact Checked.onReturn_pure.mpr ⟨dialog.updateLocalCseq_untouched req.method, rfl, rfl⟩

theorem buildRequest_kind (dialog : Dialog) (method : String) (full : Bool) :
    OnReturn (dialog.buildRequest method full) fun req => req.method = method ∧ req.dialogQueued = false := by
  unfold buildRequest
  simp only [Checked.onReturn_bind, Checked.onReturn_deref, Checked.onReturn_pure, and_self, implies_true]

/-- A request that the dialog creates is not queued. -/
theorem createRequest_kind (dialog : Dialog) (pending : Bool) (method : String) :
    OnReturn (dialog.createRequest pending method) fun (after, req) =>
      Untouched dialog after ∧ ∀ new, req = some new → new.method = method ∧ new.dialogQueued = false := by
  unfold createRequest
  split
  · apply Checked.onReturn_bind.mpr
    apply (buildRequest_kind _ method true).mono
    intro req kind
    apply Checked.onReturn_pure.mpr
    refine ⟨dialog.updateLocalCseq_untouched method, ?_⟩
    intro new same
    cases same
    exact kind
  · apply Checked.onReturn_pure.mpr
    refine ⟨.refl dialog, ?_⟩
    intro new absent
    cases absent

theorem createQueuedRequest_kind (dialog : Dialog) (method : String) :
    OnReturn (dialog.createQueuedRequest method) fun req =>
      ∀ new, req = some new → new.method ≠ "INVITE" := by
  unfold createQueuedRequest
  split
  · apply Checked.onReturn_pure.mpr
    intro new absent
    cases absent
  · next other =>
      apply Checked.onReturn_bind.mpr
      apply (buildRequest_kind dialog method false).mono
      intro req ⟨same, _⟩
      apply Checked.onReturn_pure.mpr
      intro new made invite
      cases made
      rw [show req.method = "INVITE" from invite] at same
      exact other (by simp [establishes, ← same])

end Dialog

open DialogTransaction

namespace Session

/-- The session as it is when the request of a transaction leaves it: the request may have a new number,
and it has updated the dialog. -/
structure Readied (before : Session) (id : TransactionId) (transaction : DialogTransaction)
    (after : Session) : Prop where
  placed : ∃ request origin, after.transactions[id]? =
      some { transaction with request := request, origin := origin } ∧
    request.method = transaction.request.method ∧ request.dialogQueued = transaction.request.dialogQueued
  others : ∀ other : TransactionId, other ≠ id → after.transactions[other]? = before.transactions[other]?
  claimed : Dialog.Claimed before.dialog after.dialog id transaction.inDialog

/-- The end of `belle_sip_client_transaction_send_request_to`. -/
def Delivered (before : Session) (id : TransactionId) (outlet : Outlet) (after : Session) : Prop :=
  match outlet with
  | .ready => after = before.emit id
  | .connecting => after = before.modify id fun transaction => { transaction with waiting := true }
  | _ => before.terminate id = .ok after

/-- A request that leaves the session updates the dialog without changing the call. -/
theorem updateDialog_silent {session : Session} {id : TransactionId} {transaction : DialogTransaction}
    (present : session.transactions[id]? = some transaction) (initial : transaction.state = .init)
    (unanswered : transaction.lastResponse = none) :
    session.updateDialog id false =
      .ok ({ session with
        dialog := { session.dialog with lastTransaction := some id }.processQueue }, false) := by
  have running : decide (transaction.state = .terminated) = false := by
    rw [initial]
    rfl
  unfold updateDialog updateBy
  rw [present]
  simp [unanswered, running, Dialog.update_silent, Dialog.processQueue, pure, Except.pure, bind, Except.bind]

theorem dispatch_delivers {session : Session} {id : TransactionId} {transaction : DialogTransaction}
    (present : session.transactions[id]? = some transaction) (initial : transaction.state = .init)
    (unanswered : transaction.lastResponse = none) (outlet : Outlet) :
    OnReturn (session.dispatch id transaction.inDialog outlet) fun after =>
      ∃ middle, Readied session id transaction middle ∧ Delivered middle id outlet after := by
  have delivers : ∀ middle : Session, Readied session id transaction middle →
      OnReturn (match outlet with
        | .ready => return middle.emit id
        | .connecting => return middle.modify id fun transaction => { transaction with waiting := true }
        | _ => middle.terminate id : Checked Session) fun after =>
          ∃ middle, Readied session id transaction middle ∧ Delivered middle id outlet after := by
    intro middle readied
    have terminated : OnReturn (middle.terminate id) fun after => middle.terminate id = .ok after := by
      cases middle.terminate id with
      | ok after => rfl
      | error fault => trivial
    cases outlet with
    | ready => exact Checked.onReturn_pure.mpr ⟨middle, readied, rfl⟩
    | connecting => exact Checked.onReturn_pure.mpr ⟨middle, readied, rfl⟩
    | noChannel => exact terminated.mono fun after same => ⟨middle, readied, same⟩
    | badUris => exact terminated.mono fun after same => ⟨middle, readied, same⟩
  unfold dispatch
  apply Checked.onReturn_bind.mpr
  unfold updateOwn
  split
  · next inside =>
      rw [updateDialog_silent present initial unanswered]
      apply delivers
      refine ⟨⟨_, _, present, rfl, rfl⟩, fun _ _ => rfl, rfl, ⟨rfl, rfl, rfl, rfl, rfl⟩, ?_, ?_⟩
      · exact fun _ => ⟨rfl, Nat.succ_pos _⟩
      · intro outside
        rw [inside] at outside
        cases outside
  · next outside =>
      apply Checked.onReturn_pure.mpr
      apply delivers
      refine ⟨⟨_, _, present, rfl, rfl⟩, fun _ _ => rfl, rfl, .refl session.dialog, ?_, fun _ => ⟨rfl, rfl⟩⟩
      exact fun inside => absurd inside outside

/-- What a call of `belle_sip_client_transaction_send_request` comes to. -/
inductive Attempt (session : Session) (id : TransactionId) (transaction : DialogTransaction)
    (outlet : Outlet) : Session → Prop where
  | skipped (unfit : transaction.state ≠ .init ∨ outlet = .badUris) : Attempt session id transaction outlet session
  | queued (initial : transaction.state = .init) (fit : outlet ≠ .badUris)
      (queues : session.queues transaction = true) :
      Attempt session id transaction outlet
        { session with dialog := { session.dialog with queuedCt := session.dialog.queuedCt ++ [id] } }
  | delivered (middle after : Session) (initial : transaction.state = .init) (fit : outlet ≠ .badUris)
      (direct : session.queues transaction = false) (readied : Readied session id transaction middle)
      (delivered : Delivered middle id outlet after) : Attempt session id transaction outlet after

theorem sendRequest_attempt {session : Session} {id : TransactionId} {transaction : DialogTransaction}
    (present : session.transactions[id]? = some transaction)
    (unanswered : transaction.state = .init → transaction.lastResponse = none) (outlet : Outlet) :
    OnReturn (session.sendRequest id outlet) (Attempt session id transaction outlet) := by
  unfold sendRequest
  rw [present]
  dsimp only
  split
  · next unfit => exact Checked.onReturn_pure.mpr (.skipped unfit)
  · next fit =>
      have initial : transaction.state = .init := by tauto
      have fits : outlet ≠ .badUris := by tauto
      split
      · next queues => exact Checked.onReturn_pure.mpr (.queued initial fits queues)
      · next direct =>
          have direct := Bool.eq_false_iff.mpr direct
          split
          · apply Checked.onReturn_bind.mpr
            unfold updateRequest
            rw [present]
            apply Checked.onReturn_bind.mpr
            apply (Dialog.updateRequest_kind _ _).mono
            intro (dialog, req) ⟨same, method, queued⟩
            apply Checked.onReturn_pure.mpr
            have numbered : (session.renumber id dialog req).transactions[id]? =
                some { transaction with request := req, origin := .dialog session.drawn } := by
              simp [renumber, present]
            apply (dispatch_delivers numbered initial (unanswered initial) outlet).mono
            intro after ⟨middle, readied, delivered⟩
            refine .delivered middle after initial fits direct ⟨?_, ?_, ?_⟩ delivered
            · obtain ⟨request, origin, placed, sameMethod, sameQueued⟩ := readied.placed
              exact ⟨request, origin, placed, sameMethod.trans method, sameQueued.trans queued⟩
            · intro other elsewhere
              rw [readied.others other elsewhere]
              exact List.getElem?_modify_ne _ _ (Ne.symm elsewhere)
            · exact .behind same readied.claimed
          · apply (dispatch_delivers present initial (unanswered initial) outlet).mono
            intro after ⟨middle, readied, delivered⟩
            exact .delivered middle after initial fits direct readied delivered

namespace Moves

theorem refl (session : Session) : Moves session session := (Quiet.refl session).moves

theorem trans {first second third : Session} (before : Moves first second) (after : Moves second third) :
    Moves first third where
  transactions := before.transactions.trans Loose.trans (fun _ _ formable loose => loose.formable formable)
    after.transactions
  queued := by
    intro id among
    rcases after.queued id among with middle | new
    · rcases before.queued id middle with old | ⟨transaction, present, client, queued⟩
      · exact .inl old
      · obtain ⟨next, nextPresent, loose⟩ := after.transactions.old id transaction present
        exact .inr ⟨next, nextPresent, loose.isClient.trans client, loose.dialogQueued.trans queued⟩
    · exact .inr new
  anchored := fun formed => after.anchored (before.formed formed)
  stopped := after.stopped ∘ before.stopped

/-- A change of one transaction. -/
theorem ofModify {session : Session} {id : TransactionId} {change : DialogTransaction → DialogTransaction}
    (loose : ∀ transaction, session.transactions[id]? = some transaction →
      Loose transaction (change transaction)) : Moves session (session.modify id change) where
  transactions := .modify Loose.refl loose
  queued := fun _ among => .inl among
  anchored := by
    intro formed last isLast
    obtain ⟨transaction, present, reaches⟩ := formed.anchored last isLast
    have rows : Grows Loose Formable session.transactions (session.modify id change).transactions :=
      .modify Loose.refl loose
    obtain ⟨next, nextPresent, changed⟩ := rows.old last transaction present
    exact ⟨next, nextPresent, changed.reaches reaches⟩
  stopped := fun stopped => stopped

end Moves

variable {session : Session} {transaction : DialogTransaction} {id : TransactionId}

/-- The emission changes one transaction. -/
theorem emit_eq (present : session.transactions[id]? = some transaction) :
    (session.emit id).dialog = session.dialog ∧
      (session.emit id).transactions = session.transactions.modify id fun sent =>
        { sent with
          state := if transaction.request.method = "INVITE" then .calling else .trying
          waiting := false } := by
  unfold emit
  rw [present]
  dsimp only
  split <;> exact ⟨rfl, rfl⟩

theorem emit_dialog (session : Session) (id : TransactionId) : (session.emit id).dialog = session.dialog := by
  unfold emit
  split
  · rfl
  · dsimp only
    split <;> rfl

theorem emit_moves (session : Session) (id : TransactionId) : Moves session (session.emit id) := by
  cases present : session.transactions[id]? with
  | none =>
      unfold emit
      rw [present]
      exact .refl session
  | some transaction =>
      obtain ⟨dialog, transactions⟩ := emit_eq present
      have changed : Moves session (session.modify id fun sent =>
          { sent with
            state := if transaction.request.method = "INVITE" then .calling else .trying
            waiting := false }) := by
        apply Moves.ofModify
        intro sent _
        refine ⟨rfl, rfl, rfl, .inl rfl, ?_⟩
        intro initial
        dsimp only at initial
        split at initial <;> cases initial
      refine ⟨?_, ?_, ?_, ?_⟩
      · rw [transactions]
        exact changed.transactions
      · rw [dialog, transactions]
        exact changed.queued
      · intro formed
        unfold Anchored
        rw [dialog, transactions]
        exact changed.anchored formed
      · unfold Stopped
        rw [dialog]
        exact fun stopped => stopped

theorem Delivered.moves {before after : Session} {outlet : Outlet} (delivered : Delivered before id outlet after) :
    Moves before after := by
  have terminated : before.terminate id = .ok after → Moves before after := by
    intro same
    exact ((terminate_quiet before id).elim same).moves
  unfold Delivered at delivered
  cases outlet with
  | ready =>
      rw [delivered]
      exact emit_moves before id
  | connecting =>
      rw [delivered]
      apply Moves.ofModify
      intro transaction _
      exact ⟨rfl, rfl, rfl, .inl rfl, fun initial => ⟨initial, rfl⟩⟩
  | noChannel => exact terminated delivered
  | badUris => exact terminated delivered

/-- A request that updates the dialog has not been sent yet. -/
theorem Readied.quiet {before middle : Session} (present : before.transactions[id]? = some transaction)
    (readied : Readied before id transaction middle) :
    Quiet before middle := by
  obtain ⟨request, origin, placed, method, queued⟩ := readied.placed
  have rows : Grows Slack Unsent before.transactions middle.transactions := by
    constructor
    · intro index row rowPresent
      by_cases here : index = id
      · subst here
        cases present.symm.trans rowPresent
        exact ⟨_, placed, ⟨rfl, method, queued, .inl rfl, fun initial => ⟨initial, rfl⟩⟩, rfl,
          fun inside => inside, .inl, fun ended => ended, fun transient => transient⟩
      · exact ⟨row, (readied.others index here).trans rowPresent, .refl row⟩
    · intro index next absent nextPresent
      have elsewhere : index ≠ id := by
        intro here
        rw [here, present] at absent
        cases absent
      rw [readied.others index elsewhere, absent] at nextPresent
      cases nextPresent
  refine ⟨rows, .inl readied.claimed.queuedCt, ?_, ?_⟩
  · intro formed last isLast
    cases inside : transaction.inDialog with
    | true =>
        rw [(readied.claimed.claims inside).1] at isLast
        cases isLast
        exact ⟨_, placed, .inl inside⟩
    | false =>
        rw [(readied.claimed.leaves inside).1] at isLast
        obtain ⟨old, oldPresent, reaches⟩ := formed.anchored last isLast
        obtain ⟨next, nextPresent, slack⟩ := rows.old last old oldPresent
        exact ⟨next, nextPresent, slack.toLoose.reaches reaches⟩
  · intro stopped terminated
    have waits := congrArg AckWait.timer200OkEnd readied.claimed.call.ackWait
    exact waits.trans (stopped (readied.claimed.state.mp terminated))

/-- A request that does not belong to the dialog leaves the pending one. -/
theorem Readied.pending {before middle : Session} (present : before.transactions[id]? = some transaction)
    (readied : Readied before id transaction middle) (outside : transaction.inDialog = false)
    (pending : before.requestPending = true) :
    middle.requestPending = true := by
  obtain ⟨request, origin, placed, _⟩ := readied.placed
  unfold requestPending at pending ⊢
  rw [(readied.claimed.leaves outside).1]
  split at pending
  · cases pending
  · next other _ =>
      simp only [Option.any_eq_true] at pending ⊢
      obtain ⟨row, rowPresent, transient⟩ := pending
      by_cases here : other = id
      · subst here
        cases present.symm.trans rowPresent
        exact ⟨_, placed, transient⟩
      · exact ⟨row, (readied.others other here).trans rowPresent, transient⟩

/-- A request that has not left is not the last one of the dialog unless it belongs to it. -/
theorem Formed.outside (formed : Formed session) (present : session.transactions[id]? = some transaction)
    (initial : transaction.state = .init) (outside : transaction.inDialog = false) :
    session.dialog.lastTransaction ≠ some id := by
  intro isLast
  obtain ⟨same, samePresent, reaches⟩ := formed.anchored id isLast
  cases present.symm.trans samePresent
  rcases reaches with within | ⟨_, _, sent⟩
  · rw [within] at outside
    cases outside
  · exact sent initial

theorem Attempt.moves {session after : Session} {outlet : Outlet}
    (present : session.transactions[id]? = some transaction) (formed : Formed session)
    (attempt : Attempt session id transaction outlet after) : Moves session after := by
  cases attempt with
  | skipped unfit => exact .refl session
  | queued initial fit waits =>
      refine ⟨.refl Loose.refl _, ?_, fun formed => formed.anchored, fun stopped => stopped⟩
      intro other among
      rcases List.mem_append.mp among with old | new
      · exact .inl old
      · cases List.mem_singleton.mp new
        have queued : transaction.request.dialogQueued = true := by
          simp only [queues, Bool.and_eq_true] at waits
          exact waits.1.2
        exact .inr ⟨transaction, present, ((formed.formable id transaction present).unsent initial).1, queued⟩
  | delivered middle after initial fit direct readied delivered =>
      exact (readied.quiet present).moves.trans delivered.moves

theorem sendRequest_moves (formed : Formed session) (id : TransactionId) (outlet : Outlet) :
    OnReturn (session.sendRequest id outlet) (Moves session) := by
  cases present : session.transactions[id]? with
  | none =>
      unfold sendRequest
      rw [present]
      exact Checked.onReturn_pure.mpr (.refl session)
  | some transaction =>
      apply (sendRequest_attempt present (fun initial =>
        ((formed.formable id transaction present).unsent initial).2) outlet).mono
      intro after attempt
      exact attempt.moves present formed

/-- A request that is not queued comes with a new transaction. -/
theorem unsent_of_unqueued (req : Request) (inDialog : Bool) (origin : Origin)
    (unqueued : req.dialogQueued = false) :
    DialogTransaction.Unsent { request := req, inDialog := inDialog, origin := origin } := by
  refine ⟨⟨?_, nofun, fun _ => ⟨rfl, rfl⟩⟩, rfl, fun _ => .inl rfl⟩
  intro _ queued
  rw [show req.dialogQueued = true from queued] at unqueued
  cases unqueued

/-- A request that the dialog has created is added to the session. -/
theorem addDrawn_quiet {dialog : Dialog} {req : Request} (moved : Quiet session { session with dialog := dialog })
    (unqueued : req.dialogQueued = false) :
    Quiet session ({ session with dialog := dialog }.addDrawn req) := by
  have added := moved.trans (.ofAdd (unsent_of_unqueued req true (.dialog session.drawn) unqueued))
  exact ⟨added.transactions, added.queuedCt, added.anchored, added.stopped⟩

theorem createRequest_quiet (session : Session) (method : String) :
    OnReturn (session.createRequest method) (Quiet session) := by
  apply Checked.onReturn_bind.mpr
  apply (session.dialog.createRequest_kind _ method).mono
  rintro ⟨dialog, req⟩ ⟨⟨schedule, call⟩, kind⟩
  have waits := call.ackWait
  have moved : Quiet session { session with dialog := dialog } := .ofSchedule schedule waits
  cases req with
  | none => exact Checked.onReturn_pure.mpr moved
  | some req =>
      dsimp only
      split
      · exact Checked.onReturn_pure.mpr moved
      · exact Checked.onReturn_pure.mpr (addDrawn_quiet moved (kind req rfl).2)

/-- The event adds at most one transaction, which it does not send. -/
inductive Adds (before : Session) : Session → Prop where
  | nothing : Adds before before
  | added (transaction : DialogTransaction) (unsent : transaction.Unsent) : Adds before (before.add transaction)

theorem Adds.quiet {before after : Session} (adds : Adds before after) : Quiet before after := by
  cases adds with
  | nothing => exact .refl before
  | added transaction unsent => exact .ofAdd unsent

theorem Adds.dialog {before after : Session} (adds : Adds before after) : after.dialog = before.dialog := by
  cases adds with
  | nothing => rfl
  | added transaction unsent => rfl

theorem createQueuedRequest_adds (session : Session) (method : String) :
    OnReturn (session.createQueuedRequest method) (Adds session) := by
  apply Checked.onReturn_bind.mpr
  apply (session.dialog.createQueuedRequest_kind method).mono
  intro req kind
  cases req with
  | none => exact Checked.onReturn_pure.mpr .nothing
  | some req =>
      dsimp only
      split
      · exact Checked.onReturn_pure.mpr .nothing
      · apply Checked.onReturn_pure.mpr
        apply Adds.added
        exact ⟨⟨fun _ _ => ⟨rfl, kind req rfl⟩, nofun, fun _ => ⟨rfl, rfl⟩⟩, rfl, fun _ => .inl rfl⟩

theorem createAuthenticatedRequest_adds (session : Session) (id : TransactionId) :
    OnReturn (session.createAuthenticatedRequest id) (Adds session) := by
  unfold createAuthenticatedRequest
  split
  · exact Checked.onReturn_pure.mpr .nothing
  · apply Checked.onReturn_bind.mpr
    apply Checked.onReturn_deref.mpr
    intro cseq _
    split
    · apply Checked.onReturn_bind.mpr
      generalize findDialogFromMessage _ _ _ = search
      cases search with
      | error fault => trivial
      | ok found => exact Checked.onReturn_pure.mpr (.added _ (unsent_of_unqueued _ _ _ rfl))
    · exact Checked.onReturn_pure.mpr .nothing

theorem createCancel_adds (session : Session) (id : TransactionId) :
    OnReturn (session.createCancel id) (Adds session) := by
  unfold createCancel
  split
  · exact Checked.onReturn_pure.mpr .nothing
  · split
    · apply Checked.onReturn_bind.mpr
      apply Checked.onReturn_deref.mpr
      intro cseq _
      apply Checked.onReturn_bind.mpr
      generalize findDialogFromMessage _ _ _ = search
      cases search with
      | error fault => trivial
      | ok found => exact Checked.onReturn_pure.mpr (.added _ (unsent_of_unqueued _ _ _ rfl))
    · exact Checked.onReturn_pure.mpr .nothing

/-- A received request comes with a server transaction. -/
theorem requestReceived_adds (session : Session) (req : Request) :
    OnReturn (session.handle (.requestReceived req)) (Adds session) := by
  dsimp only [handle]
  split
  · exact Checked.onReturn_pure.mpr .nothing
  · exact Checked.onReturn_pure.mpr (.added _ ⟨⟨nofun, fun _ => rfl, nofun⟩, rfl, nofun⟩)

theorem sendAck_quiet (session : Session) (ack : Request) :
    Quiet session { session with dialog := session.dialog.sendAck ack } := by
  unfold Dialog.sendAck
  split
  · exact .ofDialog rfl rfl id id
  · exact .ofDialog rfl rfl id id

theorem handleAck_quiet (session : Session) (ack : Request) :
    OnReturn (session.dialog.handleAck ack) fun (dialog, _) => Quiet session { session with dialog := dialog } := by
  unfold Dialog.handleAck
  split
  · apply Checked.onReturn_bind.mpr
    apply Checked.onReturn_deref.mpr
    intro cseq _
    split
    · exact Checked.onReturn_pure.mpr (.ofDialog rfl rfl id nofun)
    · exact Checked.onReturn_pure.mpr (.refl session)
  · exact Checked.onReturn_pure.mpr (.refl session)

/-- The queue gives its first transaction away, which is marked. -/
def pop (session : Session) (id : TransactionId) : Session :=
  { session with dialog := { session.dialog with
      postponed := session.dialog.postponed - 1
      queuedCt := session.dialog.queuedCt.tail } }.modify id fun transaction =>
    { transaction with sentByDialogQueue := true }

theorem pop_moves (session : Session) (id : TransactionId) : Moves session (session.pop id) := by
  have shorter : Moves session { session with dialog := { session.dialog with
      postponed := session.dialog.postponed - 1
      queuedCt := session.dialog.queuedCt.tail } } :=
    ⟨.refl Loose.refl _, fun _ among => .inl (List.mem_of_mem_tail among), fun formed => formed.anchored,
      fun stopped => stopped⟩
  apply shorter.trans
  apply Moves.ofModify
  intro transaction _
  exact ⟨rfl, rfl, rfl, .inl rfl, fun initial => ⟨initial, rfl⟩⟩

/-- One call of `_belle_sip_dialog_process_queue`. -/
theorem processQueue_eq (session : Session) (outlet : Outlet) :
    session.processQueue outlet =
      if session.dialog.postponed = 0 then pure session
      else match session.dequeued with
        | none => pure { session with dialog := { session.dialog with postponed := session.dialog.postponed - 1 } }
        | some id => (session.pop id).sendRequest id outlet := by
  unfold processQueue
  cases calls : session.dialog.postponed with
  | zero => rfl
  | succ postponed =>
      simp only [Nat.succ_ne_zero, if_false, pop, calls, Nat.add_sub_cancel]
      rfl

theorem processQueue_moves (formed : Formed session) (outlet : Outlet) :
    OnReturn (session.processQueue outlet) (Moves session) := by
  rw [processQueue_eq]
  split
  · exact Checked.onReturn_pure.mpr (.refl session)
  · split
    · have called : Quiet session
          { session with dialog := { session.dialog with postponed := session.dialog.postponed - 1 } } :=
        .ofDialog rfl rfl id id
      exact Checked.onReturn_pure.mpr called.moves
    · next id _ =>
        have popped := session.pop_moves id
        apply (sendRequest_moves (popped.formed formed) id outlet).mono
        intro after sent
        exact popped.trans sent

/-- The BYE that the dialog has created is sent. -/
theorem sendBye_moves (formed : Formed session) {dialog : Dialog} {bye : Request}
    (moved : Quiet session { session with dialog := dialog }) (unqueued : bye.dialogQueued = false) 
    (outlet : Outlet) : OnReturn (session.sendBye dialog bye outlet) (Moves session) := by
  have added := (addDrawn_quiet moved unqueued).moves
  apply (sendRequest_moves (added.formed formed) _ outlet).mono
  intro after sent
  exact added.trans sent

theorem checkAckSent_moves (formed : Formed session) (outlet : Outlet) :
    OnReturn (session.checkAckSent outlet) (Moves session) := by
  unfold checkAckSent Dialog.checkAckSent
  split
  · simp only [Checked.onReturn_bind]
    apply (session.dialog.createRequest_kind _ "BYE").mono
    rintro ⟨dialog, req⟩ ⟨⟨schedule, call⟩, kind⟩
    have waits := call.ackWait
    apply Checked.onReturn_deref.mpr
    intro bye made
    exact sendBye_moves formed (.ofSchedule schedule waits) (kind bye made).2 outlet
  · exact Checked.onReturn_pure.mpr (.refl session)

/-- The BYE that ends the wait for the ACK claims the dialog. -/
theorem on200OkEnd_moves (formed : Formed session) (outlet : Outlet) :
    OnReturn (session.on200OkEnd outlet) (Moves session) := by
  unfold on200OkEnd Dialog.on200OkEnd
  split
  · simp only [Checked.onReturn_bind]
    apply (Dialog.createRequest_kind _ _ "BYE").mono
    rintro ⟨dialog, req⟩ ⟨⟨schedule, call⟩, kind⟩
    have waits := call.ackWait
    have moved : Quiet session { session with dialog := dialog } := by
      apply Quiet.ofDialog schedule.queuedCt schedule.lastTransaction
      · intro ended
        cases schedule.deleted.mp ended
      · intro armed
        have stopped := congrArg AckWait.timer200OkEnd waits
        cases stopped.symm.trans armed
    apply Checked.onReturn_deref.mpr
    intro bye made
    exact sendBye_moves formed moved (kind bye made).2 outlet
  · exact Checked.onReturn_pure.mpr (.refl session)

/-- A refused response updates the dialog with the last one. -/
theorem responseRefused_quiet (formed : Formed session) (id : TransactionId) :
    OnReturn (session.handle (.responseRefused id)) (Quiet session) := by
  dsimp only [handle]
  split
  · exact Checked.onReturn_pure.mpr (.refl session)
  · next served =>
      apply Checked.onReturn_bind.mpr
      cases present : session.transactions[id]? with
      | none => simp [present] at served
      | some transaction =>
          have server : transaction.isClient = false := by simpa [present] using served
          apply (updateDialog_quiet present (.inl ((formed.formable id transaction present).received server)) true).mono
          intro (after, _) quiet
          exact Checked.onReturn_pure.mpr quiet

/-- What an event can do to a session. -/
theorem handle_moves (formed : Formed session) (event : Event) :
    OnReturn (session.handle event) (Moves session) := by
  have quietly : ∀ {result : Checked Session}, OnReturn result (Quiet session) →
      OnReturn result (Moves session) := fun quiet => quiet.mono fun after same => same.moves
  have added : ∀ {result : Checked Session}, OnReturn result (Adds session) →
      OnReturn result (Moves session) := fun adds => adds.mono fun after new => new.quiet.moves
  cases event with
  | createRequest method => exact quietly (createRequest_quiet session method)
  | createQueuedRequest method => exact added (createQueuedRequest_adds session method)
  | createAuthenticatedRequest id => exact added (createAuthenticatedRequest_adds session id)
  | createCancel id => exact added (createCancel_adds session id)
  | sendRequest id outlet => exact sendRequest_moves formed id outlet
  | channelReady id =>
      apply Checked.onReturn_pure.mpr
      unfold channelReady
      split
      · exact emit_moves session id
      · exact .refl session
  | processQueue outlet => exact processQueue_moves formed outlet
  | requestReceived req => exact added (requestReceived_adds session req)
  | responded id state resp => exact quietly (respond_quiet session id state resp)
  | forked id => exact Checked.onReturn_pure.mpr (fork_quiet session id).moves
  | rejoined id state resp => exact quietly (rejoin_quiet session id state resp)
  | responseRefused id => exact quietly (responseRefused_quiet formed id)
  | terminated id => exact quietly (terminate_quiet session id)
  | ackSent ack => exact Checked.onReturn_pure.mpr (sendAck_quiet session ack).moves
  | ackReceived ack =>
      apply quietly
      apply Checked.onReturn_bind.mpr
      apply (handleAck_quiet session ack).mono
      intro (dialog, _) quiet
      exact Checked.onReturn_pure.mpr quiet
  | ackChecked outlet => exact checkAckSent_moves formed outlet
  | timer200OkEnd outlet => exact on200OkEnd_moves formed outlet
  | terminateOnBye value =>
      have kept : Quiet session { session with dialog := { session.dialog with terminateOnBye := value } } :=
        .ofDialog rfl rfl id id
      exact Checked.onReturn_pure.mpr kept.moves
  | deleted => exact quietly (delete_quiet session)

theorem step_formed (formed : Formed session) (event : Event) :
    Formed (session.step event) := by
  unfold step
  split
  · exact formed
  · have moves := handle_moves formed event
    cases handled : session.handle event with
    | ok after => exact (moves.elim handled).formed formed
    | error fault => exact ⟨formed.formable, formed.queued, formed.anchored, formed.stopped⟩

/-- A session whose only transaction is the one that its dialog was created on, and whose dialog has nothing
to do. When that transaction has been sent, it has updated the dialog. -/
structure Created (session : Session) (initial : DialogTransaction) : Prop where
  only : session.transactions = [initial]
  formable : initial.Formable
  queuedCt : session.dialog.queuedCt = []
  ackWait : session.dialog.ackWait = ⟨false, false, false, none⟩
  last : (session.dialog.lastTransaction = none ∧ initial.busy = false) ∨
    (session.dialog.lastTransaction = some 0 ∧ initial.inDialog = true)

theorem Created.formed {initial : DialogTransaction} (created : Created session initial) :
    Formed session where
  formable := by
    intro id transaction present
    rw [created.only] at present
    have among := List.mem_of_getElem? present
    rw [List.mem_singleton.mp among]
    exact created.formable
  queued := by
    intro id among
    rw [created.queuedCt] at among
    cases among
  anchored := by
    intro id isLast
    rcases created.last with ⟨none, _⟩ | ⟨first, inside⟩
    · rw [none] at isLast
      cases isLast
    · rw [first] at isLast
      cases isLast
      exact ⟨initial, by rw [created.only]; rfl, .inl inside⟩
  stopped := fun _ => congrArg AckWait.timer200OkEnd created.ackWait

theorem establishedCall_created :
    Created establishedCall
      { request := Dialog.peerRequest "INVITE" 20, state := .terminated, origin := .dialog 0 } where
  only := rfl
  formable := ⟨nofun, nofun, nofun⟩
  queuedCt := rfl
  ackWait := rfl
  last := .inr ⟨rfl, rfl⟩

end Session

end BelleSip
