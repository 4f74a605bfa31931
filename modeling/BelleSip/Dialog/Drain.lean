import BelleSip.Foundation.Turns
import BelleSip.Dialog.Wakeup

/-
This file proves when every request in the queue of a dialog has its turn.
-/

namespace BelleSip

open Foundation
open Foundation.Checked (OnReturn)

namespace Session

/-- Nothing is sent any more: the dialog has been deleted, or the program has stopped. -/
def Over (session : Session) : Prop := session.halted = true ∨ session.dialog.state = .terminated

/-- Nothing keeps the dialog from sending its next queued request. -/
structure Idle (session : Session) : Prop where
  running : session.halted = false
  alive : session.dialog.state ≠ .terminated
  done : session.requestPending = false
  acknowledged : session.dialog.needsAck = false

instance (session : Session) : Decidable session.Idle :=
  decidable_of_iff (session.halted = false ∧ session.dialog.state ≠ .terminated ∧ session.requestPending = false ∧
    session.dialog.needsAck = false)
    ⟨fun ⟨running, alive, done, acknowledged⟩ => ⟨running, alive, done, acknowledged⟩,
      fun idle => ⟨idle.running, idle.alive, idle.done, idle.acknowledged⟩⟩

/-- The main loop takes the first transaction of the queue, and its request is sent or waits for its channel, unless
the transaction has ended or its URIs are bad. -/
structure Taken (before : Session) (id : TransactionId) (outlet : Outlet) (after : Session) : Prop where
  first : before.dialog.queuedCt = id :: after.dialog.queuedCt
  sent : outlet ≠ .badUris → ∃ transaction, after.transactions[id]? = some transaction ∧
    (transaction.state = .init → transaction.waiting = true)

/-- The queue keeps its transactions, or the dialog is deleted. -/
def Lines (before after : Session) : Prop :=
  after.dialog.state = .terminated ∨ ∃ more, after.dialog.queuedCt = before.dialog.queuedCt ++ more

theorem Lines.same {before after : Session} (same : after.dialog.queuedCt = before.dialog.queuedCt) :
    Lines before after := Or.inr ⟨[], by rw [same, List.append_nil]⟩

theorem Lines.refl (session : Session) : Lines session session := .same rfl

theorem Lines.behind {before middle after : Session} (same : middle.dialog.queuedCt = before.dialog.queuedCt)
    (lines : Lines middle after) : Lines before after := by
  unfold Lines at lines ⊢
  rw [← same]
  exact lines

variable {session : Session}

/-- An update leaves the queue alone unless it deletes the dialog. -/
theorem updateDialog_same {id : TransactionId} {transaction : DialogTransaction}
    (present : session.transactions[id]? = some transaction) (asUas : Bool) :
    OnReturn (session.updateDialog id asUas) fun (after, _) =>
      after.dialog.state = .terminated ∨ after.dialog.queuedCt = session.dialog.queuedCt := by
  apply (updateDialog_spec present asUas).mono
  intro (after, _) ⟨middle, verdict, updated, same, deleted⟩
  cases verdict with
  | keep =>
      rw [same (by decide)]
      exact Or.inr updated.queuedCt
  | retransmission =>
      rw [same (by decide)]
      exact Or.inr updated.queuedCt
  | delete => exact Or.inl (deleted rfl).terminated

theorem lines_of_same {before after : Session}
    (same : after.dialog.state = .terminated ∨ after.dialog.queuedCt = before.dialog.queuedCt) :
    Lines before after := same.elim Or.inl Lines.same

theorem terminate_same (session : Session) (id : TransactionId) : OnReturn (session.terminate id) fun after =>
    after.dialog.state = .terminated ∨ after.dialog.queuedCt = session.dialog.queuedCt := by
  cases present : session.transactions[id]? with
  | none =>
      unfold terminate
      rw [present]
      exact Checked.onReturn_pure.mpr (Or.inr rfl)
  | some transaction =>
      apply (terminate_ending present).mono
      intro after ending
      cases ending with
      | ended terminated => exact Or.inr rfl
      | silent alive other => exact Or.inr rfl
      | updated after retransmission alive inside unanswered ended =>
          exact (updateDialog_same (finish_present present) _).elim ended

/-- The transaction has ended. -/
theorem terminate_ended {id : TransactionId} {transaction : DialogTransaction}
    (present : session.transactions[id]? = some transaction) : OnReturn (session.terminate id) fun after =>
      ∃ next, after.transactions[id]? = some next ∧ next.state = .terminated := by
  apply (terminate_ending present).mono
  intro after ending
  cases ending with
  | ended terminated => exact ⟨transaction, present, terminated⟩
  | silent alive other => exact ⟨_, finish_present present, rfl⟩
  | updated after retransmission alive inside unanswered ended =>
      have finished := finish_present present
      have quiet := (updateDialog_quiet finished (.inl inside) (!transaction.isClient)).elim ended
      obtain ⟨next, nextPresent, slack⟩ := quiet.transactions.old id _ finished
      exact ⟨next, nextPresent, slack.ended rfl⟩

/-- A request that leaves. -/
structure Leaves (before : Session) (id : TransactionId) (after : Session) : Prop where
  queue : after.dialog.state = .terminated ∨ after.dialog.queuedCt = before.dialog.queuedCt
  sent : ∃ transaction, after.transactions[id]? = some transaction ∧
    (transaction.state = .init → transaction.waiting = true)

theorem delivered_leaves {session middle after : Session} {id : TransactionId} {transaction : DialogTransaction}
    {outlet : Outlet} (readied : Readied session id transaction middle)
    (delivered : Delivered middle id outlet after) : Leaves session id after := by
  obtain ⟨request, origin, placed, _⟩ := readied.placed
  have queued := readied.claimed.queuedCt
  have ends : middle.terminate id = .ok after → Leaves session id after := by
    intro same
    refine ⟨((terminate_same middle id).elim same).imp_right fun kept => kept.trans queued, ?_⟩
    obtain ⟨next, nextPresent, ended⟩ := (terminate_ended placed).elim same
    refine ⟨next, nextPresent, ?_⟩
    intro initial
    rw [ended] at initial
    cases initial
  cases outlet with
  | ready =>
      rw [show after = middle.emit id from delivered]
      refine ⟨Or.inr ((congrArg Dialog.queuedCt (emit_dialog middle id)).trans queued), ?_⟩
      obtain ⟨_, transactions⟩ := emit_eq placed
      rw [transactions, List.getElem?_modify_eq, placed]
      refine ⟨_, rfl, ?_⟩
      intro initial
      dsimp only at initial
      split at initial <;> cases initial
  | connecting =>
      rw [show after = middle.modify id fun transaction => { transaction with waiting := true } from delivered]
      refine ⟨Or.inr queued, ?_⟩
      change ∃ next, (middle.transactions.modify id _)[id]? = some next ∧ _
      rw [List.getElem?_modify_eq, placed]
      exact ⟨_, rfl, fun _ => rfl⟩
  | noChannel => exact ends delivered
  | badUris => exact ends delivered

theorem sendRequest_lines (formed : Formed session) (id : TransactionId) (outlet : Outlet) :
    OnReturn (session.sendRequest id outlet) (Lines session) := by
  cases present : session.transactions[id]? with
  | none =>
      unfold sendRequest
      rw [present]
      exact Checked.onReturn_pure.mpr (.refl session)
  | some transaction =>
      apply (sendRequest_attempt present (fun initial =>
        ((formed.formable id transaction present).unsent initial).2) outlet).mono
      intro after attempt
      cases attempt with
      | skipped unfit => exact .refl session
      | queued initial fit waits => exact Or.inr ⟨[id], rfl⟩
      | delivered middle after initial fit direct readied delivered =>
          exact lines_of_same (delivered_leaves readied delivered).queue

/-- A call of `_belle_sip_dialog_process_queue` takes the first transaction, unless the dialog has to wait. -/
theorem processQueue_turn (formed : Formed session) (outlet : Outlet) :
    OnReturn (session.processQueue outlet) fun after => after.dialog.state = .terminated ∨
      (session.dialog.postponed = 0 ∨ session.dequeued = none) ∧
        after.dialog.queuedCt = session.dialog.queuedCt ∨ ∃ id, Taken session id outlet after := by
  rw [processQueue_eq]
  split
  · next uncalled => exact Checked.onReturn_pure.mpr (Or.inr (Or.inl ⟨Or.inl uncalled, rfl⟩))
  · split
    · next nothing => exact Checked.onReturn_pure.mpr (Or.inr (Or.inl ⟨Or.inr nothing, rfl⟩))
    · next id taken =>
        have first : session.dialog.queuedCt.head? = some id := by
          unfold dequeued at taken
          split at taken
          · cases taken
          · exact taken
        have line := List.eq_cons_of_mem_head? first
        obtain ⟨transaction, present, client, queued⟩ := formed.queued id (List.mem_of_mem_head? first)
        have popped : (session.pop id).transactions[id]? = some { transaction with sentByDialogQueue := true } := by
          simp [pop, modify, present]
        apply (sendRequest_attempt popped (fun initial =>
          ((formed.formable id transaction present).unsent initial).2) outlet).mono
        intro after attempt
        cases attempt with
        | skipped unfit =>
            refine Or.inr (Or.inr ⟨id, line, fun fit => ⟨_, popped, fun initial => ?_⟩⟩)
            rcases unfit with sent | bad
            · exact absurd initial sent
            · exact absurd bad fit
        | queued initial fit waits => simp [queues] at waits
        | delivered middle after initial fit direct readied delivered =>
            have leaves := delivered_leaves readied delivered
            rcases leaves.queue with terminated | same
            · exact Or.inl terminated
            · refine Or.inr (Or.inr ⟨id, ?_, fun _ => leaves.sent⟩)
              rw [same]
              exact line

/-- A call for an idle dialog takes the first transaction. -/
theorem step_takes (formed : Formed session) (idle : session.Idle) (called : 0 < session.dialog.postponed)
    (queued : session.dialog.queuedCt ≠ []) (outlet : Outlet) :
    (session.step (.processQueue outlet)).Over ∨
      ∃ id, Taken session id outlet (session.step (.processQueue outlet)) := by
  have turn := processQueue_turn formed outlet
  cases handled : session.processQueue outlet with
  | error fault =>
      have stepped : session.step (.processQueue outlet) = { session with halted := true } := by
        simp [step, idle.running, handle, handled]
      rw [stepped]
      exact Or.inl (Or.inl rfl)
  | ok after =>
      have stepped : session.step (.processQueue outlet) = after := by
        simp [step, idle.running, handle, handled]
      rw [stepped]
      rcases turn.elim handled with terminated | ⟨nothing, _⟩ | taken
      · exact Or.inl (Or.inr terminated)
      · obtain ⟨id, rest, line⟩ := List.exists_cons_of_ne_nil queued
        rcases nothing with uncalled | empty
        · omega
        · simp [dequeued, idle.alive, idle.done, idle.acknowledged, line] at empty
      · exact Or.inr taken

theorem respond_lines (session : Session) (id : TransactionId) (state : TransactionState) (resp : Response) :
    OnReturn (session.respond id state resp) (Lines session) := by
  cases present : session.transactions[id]? with
  | none =>
      unfold respond
      rw [present]
      exact Checked.onReturn_pure.mpr (.refl session)
  | some transaction =>
      apply (respond_answering present state resp).mono
      intro after answering
      cases answering with
      | ignored barred => exact .refl session
      | passed admitted other => exact .same rfl
      | updated after retransmission admitted updates ended =>
          exact lines_of_same ((updateDialog_same (answer_present present state resp) _).elim ended)

theorem rejoin_lines (session : Session) (id : TransactionId) (state : TransactionState) (resp : Response) :
    OnReturn (session.rejoin id state resp) (Lines session) := by
  cases present : session.transactions[id]? with
  | none =>
      unfold rejoin
      rw [present]
      exact Checked.onReturn_pure.mpr (.refl session)
  | some transaction =>
      apply (rejoin_answering present state resp).mono
      intro after outcome
      rcases outcome with rfl | ⟨admitted, client, invite, retransmission, ended⟩
      · exact .refl after
      · exact lines_of_same ((updateDialog_same (answer_present present state resp) _).elim ended)

theorem responseRefused_lines (session : Session) (id : TransactionId) :
    OnReturn (session.handle (.responseRefused id)) (Lines session) := by
  dsimp only [handle]
  split
  · exact Checked.onReturn_pure.mpr (.refl session)
  · next served =>
      apply Checked.onReturn_bind.mpr
      cases present : session.transactions[id]? with
      | none => simp [present] at served
      | some transaction =>
          apply (updateDialog_same present true).mono
          intro (after, _) same
          exact Checked.onReturn_pure.mpr (lines_of_same same)

theorem Adds.lines {session after : Session} (adds : Adds session after) : Lines session after := by
  cases adds with
  | nothing => exact .refl session
  | added transaction unsent => exact .same rfl

theorem createRequest_lines (session : Session) (method : String) :
    OnReturn (session.createRequest method) (Lines session) := by
  apply Checked.onReturn_bind.mpr
  apply (session.dialog.createRequest_kind _ method).mono
  intro (dialog, req) ⟨⟨schedule, _⟩, _⟩
  cases req with
  | none => exact Checked.onReturn_pure.mpr (.same schedule.queuedCt)
  | some req =>
      dsimp only
      split
      · exact Checked.onReturn_pure.mpr (.same schedule.queuedCt)
      · exact Checked.onReturn_pure.mpr (.same schedule.queuedCt)

/-- The BYE that the dialog has created leaves the queue alone. -/
theorem sendBye_lines (formed : Formed session) {dialog : Dialog} {bye : Request}
    (moved : Quiet session { session with dialog := dialog }) (unqueued : bye.dialogQueued = false) 
    (same : dialog.queuedCt = session.dialog.queuedCt) (outlet : Outlet) :
    OnReturn (session.sendBye dialog bye outlet) (Lines session) := by
  have added := (addDrawn_quiet moved unqueued).formed formed
  exact (sendRequest_lines added _ outlet).mono fun after lines => lines.behind same

theorem checkAckSent_lines (formed : Formed session) (outlet : Outlet) :
    OnReturn (session.checkAckSent outlet) (Lines session) := by
  unfold checkAckSent Dialog.checkAckSent
  split
  · simp only [Checked.onReturn_bind]
    apply (session.dialog.createRequest_kind _ "BYE").mono
    rintro ⟨dialog, req⟩ ⟨⟨schedule, call⟩, kind⟩
    apply Checked.onReturn_deref.mpr
    intro bye made
    exact sendBye_lines formed (.ofSchedule schedule call.ackWait) (kind bye made).2 schedule.queuedCt outlet
  · exact Checked.onReturn_pure.mpr (.refl session)

theorem on200OkEnd_lines (formed : Formed session) (outlet : Outlet) :
    OnReturn (session.on200OkEnd outlet) (Lines session) := by
  unfold on200OkEnd Dialog.on200OkEnd
  split
  · have quiet : Quiet session
        { session with dialog := { session.dialog.stop200OkRetrans with state := .confirmed } } :=
      .ofDialog rfl rfl nofun nofun
    simp only [Checked.onReturn_bind]
    apply (Dialog.createRequest_kind _ _ "BYE").mono
    rintro ⟨dialog, req⟩ ⟨⟨schedule, call⟩, kind⟩
    apply Checked.onReturn_deref.mpr
    intro bye made
    exact sendBye_lines formed (quiet.trans (.ofSchedule schedule call.ackWait)) (kind bye made).2
      schedule.queuedCt outlet
  · exact Checked.onReturn_pure.mpr (.refl session)

theorem sendAck_lines (session : Session) (ack : Request) :
    Lines session { session with dialog := session.dialog.sendAck ack } := by
  unfold Dialog.sendAck
  split
  · exact .same rfl
  · exact .same rfl

theorem handleAck_lines (session : Session) (ack : Request) :
    OnReturn (session.dialog.handleAck ack) fun (dialog, _) => Lines session { session with dialog := dialog } := by
  unfold Dialog.handleAck
  split
  · apply Checked.onReturn_bind.mpr
    apply Checked.onReturn_deref.mpr
    intro cseq _
    split
    · exact Checked.onReturn_pure.mpr (.same rfl)
    · exact Checked.onReturn_pure.mpr (.refl session)
  · exact Checked.onReturn_pure.mpr (.refl session)

/-- Only the main loop takes a transaction from the queue. -/
theorem handle_lines (formed : Formed session) (event : Event) :
    OnReturn (session.handle event) fun after =>
      Lines session after ∨ ∃ id outlet, event = .processQueue outlet ∧ Taken session id outlet after := by
  have kept : ∀ {result : Checked Session}, OnReturn result (Lines session) → OnReturn result fun after =>
      Lines session after ∨ ∃ id outlet, event = .processQueue outlet ∧ Taken session id outlet after :=
    fun lines => lines.mono fun after same => Or.inl same
  have added : ∀ {result : Checked Session}, OnReturn result (Adds session) → OnReturn result fun after =>
      Lines session after ∨ ∃ id outlet, event = .processQueue outlet ∧ Taken session id outlet after :=
    fun adds => adds.mono fun after new => Or.inl new.lines
  cases event with
  | createRequest method => exact kept (createRequest_lines session method)
  | createQueuedRequest method => exact added (createQueuedRequest_adds session method)
  | createAuthenticatedRequest id => exact added (createAuthenticatedRequest_adds session id)
  | createCancel id => exact added (createCancel_adds session id)
  | sendRequest id outlet => exact kept (sendRequest_lines formed id outlet)
  | channelReady id =>
      apply kept
      apply Checked.onReturn_pure.mpr
      unfold channelReady
      split
      · exact .same (congrArg Dialog.queuedCt (emit_dialog session id))
      · exact .refl session
  | processQueue outlet =>
      apply (processQueue_turn formed outlet).mono
      intro after turn
      rcases turn with terminated | ⟨_, same⟩ | ⟨id, taken⟩
      · exact Or.inl (Or.inl terminated)
      · exact Or.inl (.same same)
      · exact Or.inr ⟨id, outlet, rfl, taken⟩
  | requestReceived req => exact added (requestReceived_adds session req)
  | responded id state resp => exact kept (respond_lines session id state resp)
  | forked id => exact Or.inl (.same rfl)
  | rejoined id state resp => exact kept (rejoin_lines session id state resp)
  | responseRefused id => exact kept (responseRefused_lines session id)
  | terminated id => exact kept ((terminate_same session id).mono fun after same => lines_of_same same)
  | ackSent ack => exact Or.inl (sendAck_lines session ack)
  | ackReceived ack =>
      apply kept
      apply Checked.onReturn_bind.mpr
      apply (handleAck_lines session ack).mono
      intro (dialog, _) lines
      exact Checked.onReturn_pure.mpr lines
  | ackChecked outlet => exact kept (checkAckSent_lines formed outlet)
  | timer200OkEnd outlet => exact kept (on200OkEnd_lines formed outlet)
  | terminateOnBye value => exact Or.inl (.same rfl)
  | deleted =>
      apply kept
      apply (delete_aborted session).mono
      intro after aborted
      exact Or.inl aborted.terminated

theorem step_lines (formed : Formed session) (event : Event) : (session.step event).Over ∨
    (∃ id outlet, event = .processQueue outlet ∧ Taken session id outlet (session.step event)) ∨
      ∃ more, (session.step event).dialog.queuedCt = session.dialog.queuedCt ++ more := by
  unfold step
  split
  · next stopped => exact Or.inl (Or.inl stopped)
  · have moved := handle_lines formed event
    cases handled : session.handle event with
    | error fault => exact Or.inl (Or.inl rfl)
    | ok after =>
        rcases moved.elim handled with (terminated | appended) | taken
        · exact Or.inl (Or.inr terminated)
        · exact Or.inr (Or.inr appended)
        · exact Or.inr (Or.inl taken)

/-- Again and again the dialog is idle, and the main loop makes the call that it has been asked for while it is. -/
structure Fair (sessions : Nat → Session) (events : Nat → Event) : Prop where
  done : ∀ time, ∃ later ≥ time, (sessions later).Over ∨ (sessions later).Idle
  called : ∀ time, (sessions time).Idle → 0 < (sessions time).dialog.postponed → ∃ later ≥ time,
    (sessions later).Over ∨ (sessions later).Idle ∧ 0 < (sessions later).dialog.postponed ∧
      ∃ outlet, events later = .processQueue outlet

/-- The main loop takes this transaction from the queue at this time. -/
def TakenAt (sessions : Nat → Session) (events : Nat → Event) (time : Nat) (id : TransactionId) : Prop :=
  ∃ outlet, events time = .processQueue outlet ∧ Taken (sessions time) id outlet (sessions (time + 1))

/-- Each queued transaction is taken in its turn, unless the dialog is deleted before. -/
def Drains (sessions : Nat → Session) (events : Nat → Event) : Prop :=
  ∀ time, ∀ id ∈ (sessions time).dialog.queuedCt,
    ∃ later ≥ time, (sessions later).Over ∨ TakenAt sessions events later id

theorem trace_turns (formed : Formed session) (scheduled : session.Scheduled) {events : Nat → Event}
    (awake : ∀ time, (Machine.trace step session events time).wakes (events time) = true)
    (fair : Fair (Machine.trace step session events) events) :
    Turns (fun time => (Machine.trace step session events time).dialog.queuedCt)
      (fun time => (Machine.trace step session events time).Over)
      (TakenAt (Machine.trace step session events) events) := by
  have preserved : ∀ (before : Session) (event : Event), Formed before ∧ before.Scheduled →
      before.wakes event = true → Formed (before.step event) ∧ (before.step event).Scheduled := by
    intro before event ⟨formed, scheduled⟩ wakes
    exact ⟨step_formed formed event, step_scheduled formed scheduled wakes⟩
  have kept := Machine.trace_invariant preserved ⟨formed, scheduled⟩ awake
  refine ⟨?_, ?_, ?_⟩
  · rintro time id ⟨outlet, _, taken⟩
    exact taken.first
  · intro time
    rcases step_lines (kept time).1 (events time) with closed | ⟨id, outlet, called, taken⟩ | appended
    · exact Or.inl closed
    · exact Or.inr (Or.inl ⟨id, outlet, called, taken⟩)
    · exact Or.inr (Or.inr appended)
  · intro time _
    obtain ⟨later, reached, outcome⟩ := fair.done time
    rcases outcome with closed | idle
    · exact ⟨later, reached, Or.inl closed⟩
    · by_cases empty : (Machine.trace step session events later).dialog.queuedCt = []
      · exact ⟨later, reached, Or.inr (Or.inl empty)⟩
      · have asked := (kept later).2 idle.alive empty idle.done idle.acknowledged
        obtain ⟨last, after, outcome⟩ := fair.called later idle asked
        have behind : last ≥ time := Nat.le_trans reached after
        rcases outcome with closed | ⟨idle, asked, outlet, called⟩
        · exact ⟨last, behind, Or.inl closed⟩
        · by_cases empty : (Machine.trace step session events last).dialog.queuedCt = []
          · exact ⟨last, behind, Or.inr (Or.inl empty)⟩
          · have next : Machine.trace step session events (last + 1) =
                (Machine.trace step session events last).step (.processQueue outlet) := by
              rw [← called]
              rfl
            rcases step_takes (kept last).1 idle asked empty outlet with closed | ⟨id, taken⟩
            · exact ⟨last + 1, Nat.le_succ_of_le behind, Or.inl (next ▸ closed)⟩
            · exact ⟨last, behind, Or.inr (Or.inr ⟨id, outlet, called, next ▸ taken⟩)⟩

/-- In every run whose events wake the main loop, no dialog with a queue is left without a call of it, and from there
each queued request has its turn. -/
theorem run_scheduled {session : Session} {initial : DialogTransaction} (created : Created session initial)
    {events : List Event}
    (awake : Machine.Along step (fun session event => session.wakes event = true) session events) :
    (Machine.run step session events).Scheduled ∧ ∀ future : Nat → Event,
      (∀ time, (Machine.trace step (Machine.run step session events) future time).wakes (future time) = true) →
        Fair (Machine.trace step (Machine.run step session events) future) future →
          Drains (Machine.trace step (Machine.run step session events) future) future := by
  have start : Formed session ∧ session.Scheduled :=
    ⟨created.formed, fun _ queued => absurd created.queuedCt queued⟩
  have preserved : ∀ (before : Session) (event : Event), Formed before ∧ before.Scheduled →
      before.wakes event = true → Formed (before.step event) ∧ (before.step event).Scheduled := by
    intro before event ⟨formed, scheduled⟩ wakes
    exact ⟨step_formed formed event, step_scheduled formed scheduled wakes⟩
  obtain ⟨formed, scheduled⟩ := Machine.run_invariant preserved start awake
  exact ⟨scheduled, fun future awake fair time id waits => (trace_turns formed scheduled awake fair).taken waits⟩

/-- Two INFO requests wait behind a third one. -/
def waitingInfo : List Event :=
  [.createRequest "INFO", .sendRequest 1 .ready, .createQueuedRequest "INFO", .sendRequest 2 .ready,
    .createQueuedRequest "INFO", .sendRequest 3 .ready, .processQueue .ready]

/-- Each of them is answered, and the main loop makes its calls. -/
def answeredInfo : Nat → Event
  | 0 => .responded 1 .completed (Dialog.okResponse "INFO" 21)
  | 2 => .responded 2 .completed (Dialog.okResponse "INFO" 22)
  | 4 => .responded 3 .completed (Dialog.okResponse "INFO" 23)
  | _ => .processQueue .ready

/-- The sessions of this run. -/
def informing : Nat → Session := Machine.trace step (Machine.run step establishedCall waitingInfo) answeredInfo

/-- In the end nothing happens any more. -/
theorem informing_rest {time : Nat} (later : 8 ≤ time) : informing time = informing 8 := by
  refine Machine.trace_rest rfl ?_ later
  intro time after
  match time, after with
  | _ + 8, _ =>
      change step (informing 8) (.processQueue .ready) = informing 8
      decide +kernel

theorem informing_wakes (time : Nat) : (informing time).wakes (answeredInfo time) = true := by
  by_cases early : time < 8
  · have all : ∀ time < 8, (informing time).wakes (answeredInfo time) = true := by decide +kernel
    exact all time early
  · rw [informing_rest (Nat.le_of_not_lt early)]
    match time, early with
    | _ + 8, _ =>
        change (informing 8).wakes (.processQueue .ready) = true
        decide +kernel

theorem informing_fair : Fair informing answeredInfo where
  done := by
    intro time
    refine ⟨max time 8, le_max_left time 8, Or.inr ?_⟩
    rw [informing_rest (le_max_right time 8)]
    decide +kernel
  called := by
    intro time idle asked
    refine ⟨time, le_rfl, Or.inr ⟨idle, asked, ?_⟩⟩
    match time, idle with
    | 0, idle => exact absurd idle (by decide +kernel)
    | 2, idle => exact absurd idle (by decide +kernel)
    | 4, idle => exact absurd idle (by decide +kernel)
    | 1, _ | 3, _ | _ + 5, _ => exact ⟨.ready, rfl⟩

/-- Both requests are sent. -/
theorem run_scheduled_info : (informing 0).dialog.queuedCt = [2, 3] ∧ (informing 0).Scheduled ∧
    Drains informing answeredInfo := by
  have awake : Machine.Along step (fun session event => session.wakes event = true) establishedCall waitingInfo := by
    decide +kernel
  obtain ⟨scheduled, drains⟩ := run_scheduled establishedCall_created awake
  exact ⟨by decide +kernel, scheduled, drains answeredInfo informing_wakes informing_fair⟩

/-- Two requests wait for the end of a re-INVITE, and the first one is terminated before its ACK is sent. -/
def abandonedRequest : List Event :=
  [.createRequest "INVITE", .sendRequest 1 .ready, .processQueue .ready, .createQueuedRequest "INFO",
    .sendRequest 2 .ready, .createQueuedRequest "INFO", .sendRequest 3 .ready,
    .responded 1 .accepted (Dialog.okResponse "INVITE" 21), .processQueue .ready, .terminated 2,
    .processQueue .ready, .ackSent (Dialog.peerRequest "ACK" 21), .processQueue .ready]

/-- The second request waits for ever, although the dialog is idle. -/
theorem not_scheduled_abandoned :
    Created establishedCall { request := Dialog.peerRequest "INVITE" 20, state := .terminated, origin := .dialog 0 } ∧
      (Machine.run step establishedCall abandonedRequest).dialog.queuedCt = [3] ∧
        ¬(Machine.run step establishedCall abandonedRequest).Scheduled := by
  refine ⟨establishedCall_created, by decide, ?_⟩
  intro scheduled
  have called := scheduled (by decide) (by decide) (by decide) (by decide)
  revert called
  decide

end Session

end BelleSip
