import BelleSip.Foundation.Growth
import BelleSip.Dialog.Outcome

/-
This file states what the operations of a session do to its transactions and to its queue.
-/

namespace BelleSip

open Foundation
open Foundation.Checked (OnReturn)

namespace DialogTransaction

/-- The dialog of the transaction is this one, or it is an INVITE that this dialog has sent. -/
def Reaches (transaction : DialogTransaction) : Prop :=
  transaction.inDialog = true ∨
    (transaction.isClient = true ∧ transaction.request.method = "INVITE" ∧ transaction.state ≠ .init)

/-- A client transaction of the dialog that has been sent and has no final response. -/
def busy (transaction : DialogTransaction) : Bool :=
  transaction.isClient && transaction.inDialog && (transaction.waiting || transaction.state ≠ .init) &&
    transaction.state.isTransient

/-- A queued request and a received one belong to the dialog, and no unsent request has an answer. -/
structure Formable (transaction : DialogTransaction) : Prop where
  queued : transaction.isClient = true → transaction.request.dialogQueued = true →
    transaction.inDialog = true ∧ transaction.request.method ≠ "INVITE"
  received : transaction.isClient = false → transaction.inDialog = true
  unsent : transaction.state = .init → transaction.isClient = true ∧ transaction.lastResponse = none

/-- A transaction keeps its kind, and only an INVITE that has been sent leaves the dialog. -/
structure Loose (before after : DialogTransaction) : Prop where
  isClient : after.isClient = before.isClient
  method : after.request.method = before.request.method
  dialogQueued : after.request.dialogQueued = before.request.dialogQueued
  inDialog : after.inDialog = before.inDialog ∨
    (before.isClient = true ∧ before.request.method = "INVITE" ∧ after.state ≠ .init)
  initial : after.state = .init → before.state = .init ∧ after.lastResponse = before.lastResponse

/-- The request of the transaction is not sent, and the transaction does not become transient again. -/
structure Slack (before after : DialogTransaction) : Prop extends Loose before after where
  waiting : after.waiting = before.waiting
  inside : after.inDialog = true → before.inDialog = true
  left : before.state = .init → after.state = .init ∨ after.state = .terminated
  ended : before.state = .terminated → after.state = .terminated
  transient : after.state.isTransient = true → before.state.isTransient = true

/-- A transaction that the event has created and has not sent. -/
structure Unsent (transaction : DialogTransaction) : Prop extends Formable transaction where
  waiting : transaction.waiting = false
  state : transaction.isClient = true → transaction.state = .init ∨ transaction.state = .terminated

theorem Loose.refl (transaction : DialogTransaction) : Loose transaction transaction :=
  ⟨rfl, rfl, rfl, .inl rfl, fun initial => ⟨initial, rfl⟩⟩

theorem Loose.trans (first second third : DialogTransaction) (before : Loose first second)
    (after : Loose second third) : Loose first third where
  isClient := after.isClient.trans before.isClient
  method := after.method.trans before.method
  dialogQueued := after.dialogQueued.trans before.dialogQueued
  inDialog := by
    rcases after.inDialog with same | ⟨client, invite, left⟩
    · rcases before.inDialog with again | ⟨client, invite, left⟩
      · exact .inl (same.trans again)
      · exact .inr ⟨client, invite, fun initial => left (after.initial initial).1⟩
    · rw [before.isClient] at client
      rw [before.method] at invite
      exact .inr ⟨client, invite, left⟩
  initial := by
    intro initial
    obtain ⟨middle, answer⟩ := after.initial initial
    obtain ⟨first, same⟩ := before.initial middle
    exact ⟨first, answer.trans same⟩

theorem Slack.refl (transaction : DialogTransaction) : Slack transaction transaction :=
  ⟨.refl transaction, rfl, fun inside => inside, .inl, fun ended => ended, fun transient => transient⟩

theorem Slack.trans (first second third : DialogTransaction) (before : Slack first second)
    (after : Slack second third) : Slack first third where
  toLoose := .trans first second third before.toLoose after.toLoose
  waiting := after.waiting.trans before.waiting
  inside := before.inside ∘ after.inside
  left := by
    intro initial
    rcases before.left initial with stays | ended
    · exact after.left stays
    · exact .inr (after.ended ended)
  ended := after.ended ∘ before.ended
  transient := before.transient ∘ after.transient

/-- A transaction that ends is not sent. -/
theorem Slack.terminate (transaction : DialogTransaction) :
    Slack transaction { transaction with state := .terminated } where
  toLoose := ⟨rfl, rfl, rfl, .inl rfl, nofun⟩
  waiting := rfl
  inside := fun inside => inside
  left := fun _ => .inr rfl
  ended := fun _ => rfl
  transient := nofun

variable {before after : DialogTransaction}

theorem slack_of_ends (ends : Session.Ends before after) :
    Slack before after := by
  rcases ends with rfl | rfl
  · exact .refl _
  · exact .terminate before

/-- A response that is not excluded changes a transaction that has been sent and has not ended. -/
theorem Slack.respond {transaction : DialogTransaction} {state : TransactionState}
    (admitted : Session.excludes transaction state = false) (resp : Response) :
    Slack transaction { transaction with state := state, lastResponse := some resp } := by
  simp only [Session.excludes, Bool.or_eq_false_iff, decide_eq_false_iff_not, Bool.and_eq_false_iff,
    Bool.not_eq_false'] at admitted
  obtain ⟨⟨⟨sent, alive⟩, leaves⟩, forward⟩ := admitted
  refine ⟨⟨rfl, rfl, rfl, .inl rfl, ?_⟩, rfl, fun inside => inside, ?_, ?_, ?_⟩
  · exact fun initial => absurd initial leaves
  · exact fun initial => absurd initial sent
  · exact fun ended => absurd ended alive
  · intro transient
    rcases forward with final | before
    · rw [show state.isTransient = true from transient] at final
      cases final
    · exact before

theorem Loose.formable (loose : Loose before after) (formable : Formable before) : Formable after where
  queued := by
    intro client queued
    rw [loose.isClient] at client
    rw [loose.dialogQueued] at queued
    obtain ⟨inside, other⟩ := formable.queued client queued
    rw [loose.method]
    rcases loose.inDialog with same | ⟨_, invite, _⟩
    · exact ⟨same.trans inside, other⟩
    · exact absurd invite other
  received := by
    intro server
    rw [loose.isClient] at server
    rcases loose.inDialog with same | ⟨client, _⟩
    · exact same.trans (formable.received server)
    · rw [server] at client
      cases client
  unsent := by
    intro initial
    obtain ⟨before, same⟩ := loose.initial initial
    obtain ⟨client, nothing⟩ := formable.unsent before
    exact ⟨loose.isClient.trans client, same.trans nothing⟩

theorem Loose.reaches (loose : Loose before after) (reaches : before.Reaches) : after.Reaches := by
  rcases reaches with inside | ⟨client, invite, left⟩
  · rcases loose.inDialog with same | ⟨client, invite, left⟩
    · exact .inl (same.trans inside)
    · exact .inr ⟨loose.isClient.trans client, loose.method.trans invite, left⟩
  · exact .inr ⟨loose.isClient.trans client, loose.method.trans invite, fun initial => left (loose.initial initial).1⟩

theorem Slack.unsent (slack : Slack before after) (unsent : Unsent before) : Unsent after where
  toFormable := slack.toLoose.formable unsent.toFormable
  waiting := slack.waiting.trans unsent.waiting
  state := by
    intro client
    rw [slack.isClient] at client
    rcases unsent.state client with initial | ended
    · exact slack.left initial
    · exact .inr (slack.ended ended)

end DialogTransaction

open DialogTransaction

namespace Session

variable {session : Session}

/-- A new transaction leaves the pending one. -/
theorem requestPending_add (transaction : DialogTransaction) (pending : session.requestPending = true) :
    (session.add transaction).requestPending = true := by
  unfold requestPending at pending ⊢
  dsimp only [add]
  split at pending
  · cases pending
  · next id _ =>
      simp only [Option.any_eq_true] at pending ⊢
      obtain ⟨present, found, transient⟩ := pending
      refine ⟨present, ?_, transient⟩
      rw [List.getElem?_append_left (List.getElem?_eq_some_iff.mp found).1]
      exact found

/-- A change of another transaction than the last one leaves the pending one. -/
theorem requestPending_modify_ne {id : TransactionId} (other : session.dialog.lastTransaction ≠ some id)
    (change : DialogTransaction → DialogTransaction) :
    (session.modify id change).requestPending = session.requestPending := by
  unfold requestPending
  dsimp only [modify]
  split
  · rfl
  · next last isLast =>
      rw [List.getElem?_modify_ne]
      rintro rfl
      exact other isLast

/-- A change of the last transaction that keeps it transient. -/
theorem requestPending_modify {id : TransactionId} {change : DialogTransaction → DialogTransaction}
    (keeps : ∀ transaction, session.transactions[id]? = some transaction →
      transaction.state.isTransient = true → (change transaction).state.isTransient = true)
    (pending : session.requestPending = true) : (session.modify id change).requestPending = true := by
  unfold requestPending at pending ⊢
  dsimp only [modify]
  split at pending
  · cases pending
  · next last isLast =>
      simp only [Option.any_eq_true] at pending ⊢
      obtain ⟨transaction, found, transient⟩ := pending
      rw [List.getElem?_modify, found]
      by_cases here : id = last
      · subst here
        exact ⟨change transaction, by simp, keeps transaction found transient⟩
      · exact ⟨transaction, by simp [here], transient⟩

theorem requestPending_last {id : TransactionId} {transaction : DialogTransaction}
    (last : session.dialog.lastTransaction = some id) (present : session.transactions[id]? = some transaction)
    (transient : transaction.state.isTransient = true) : session.requestPending = true := by
  simp [requestPending, last, present, transient]

/-- The last transaction of a dialog reaches the dialog. -/
def Anchored (session : Session) : Prop := ∀ id, session.dialog.lastTransaction = some id →
  ∃ transaction, session.transactions[id]? = some transaction ∧ transaction.Reaches

/-- A deleted dialog has stopped its timers. -/
def Stopped (session : Session) : Prop :=
  session.dialog.state = .terminated → session.dialog.timer200OkEnd = false

/-- What every session satisfies. -/
structure Formed (session : Session) : Prop where
  formable : ∀ (id : TransactionId) (transaction : DialogTransaction),
    session.transactions[id]? = some transaction → transaction.Formable
  queued : ∀ id ∈ session.dialog.queuedCt, ∃ transaction, session.transactions[id]? = some transaction ∧
    transaction.isClient = true ∧ transaction.request.dialogQueued = true
  anchored : session.Anchored
  stopped : session.Stopped

/-- The event keeps the kinds of the transactions, and only queued requests enter the queue. -/
structure Moves (before after : Session) : Prop where
  transactions : Grows Loose Formable before.transactions after.transactions
  queued : ∀ id ∈ after.dialog.queuedCt, id ∈ before.dialog.queuedCt ∨ ∃ transaction,
    after.transactions[id]? = some transaction ∧ transaction.isClient = true ∧
      transaction.request.dialogQueued = true
  anchored : before.Formed → after.Anchored
  stopped : before.Stopped → after.Stopped

/-- The event sends no request of this session. -/
structure Quiet (before after : Session) : Prop where
  transactions : Grows Slack Unsent before.transactions after.transactions
  queuedCt : after.dialog.queuedCt = before.dialog.queuedCt ∨ after.dialog.queuedCt = []
  anchored : before.Formed → after.Anchored
  stopped : before.Stopped → after.Stopped

theorem Moves.formed {before after : Session} (moves : Moves before after) (formed : Formed before) :
    Formed after where
  formable := by
    intro id transaction present
    rcases moves.transactions.back present with ⟨old, oldPresent, loose⟩ | ⟨_, fresh⟩
    · exact loose.formable (formed.formable id old oldPresent)
    · exact fresh
  queued := by
    intro id among
    rcases moves.queued id among with old | new
    · obtain ⟨transaction, present, client, queued⟩ := formed.queued id old
      obtain ⟨next, nextPresent, loose⟩ := moves.transactions.old id transaction present
      exact ⟨next, nextPresent, loose.isClient.trans client, loose.dialogQueued.trans queued⟩
    · exact new
  anchored := moves.anchored formed
  stopped := moves.stopped formed.stopped

namespace Quiet

theorem refl (session : Session) : Quiet session session :=
  ⟨.refl Slack.refl _, .inl rfl, fun formed => formed.anchored, fun stopped => stopped⟩

theorem moves {before after : Session} (quiet : Quiet before after) : Moves before after where
  transactions :=
    { old := fun index row present => by
        obtain ⟨next, nextPresent, slack⟩ := quiet.transactions.old index row present
        exact ⟨next, nextPresent, slack.toLoose⟩
      new := fun index next absent present =>
        (quiet.transactions.new index next absent present).toFormable }
  queued := by
    intro id among
    rcases quiet.queuedCt with same | empty
    · rw [same] at among
      exact .inl among
    · rw [empty] at among
      cases among
  anchored := quiet.anchored
  stopped := quiet.stopped

theorem formed {before after : Session} (quiet : Quiet before after) (formed : Formed before) : Formed after :=
  quiet.moves.formed formed

theorem trans {first second third : Session} (before : Quiet first second) (after : Quiet second third) :
    Quiet first third where
  transactions := before.transactions.trans Slack.trans (fun _ _ unsent slack => slack.unsent unsent)
    after.transactions
  queuedCt := by
    rcases after.queuedCt with same | empty
    · rw [same]
      exact before.queuedCt
    · exact .inr empty
  anchored := fun formed => after.anchored (before.formed formed)
  stopped := after.stopped ∘ before.stopped

/-- The last transaction stays and keeps reaching the dialog. -/
theorem anchor {before after : Session} (transactions : Grows Slack Unsent before.transactions after.transactions)
    (last : after.dialog.lastTransaction = before.dialog.lastTransaction) (anchored : before.Anchored) :
    after.Anchored := by
  intro id isLast
  rw [last] at isLast
  obtain ⟨transaction, present, reaches⟩ := anchored id isLast
  obtain ⟨next, nextPresent, slack⟩ := transactions.old id transaction present
  exact ⟨next, nextPresent, slack.toLoose.reaches reaches⟩

variable {session : Session}

/-- A change of the dialog that leaves its queue and its last transaction. -/
theorem ofDialog {dialog : Dialog} (queuedCt : dialog.queuedCt = session.dialog.queuedCt)
    (last : dialog.lastTransaction = session.dialog.lastTransaction)
    (ended : dialog.state = .terminated → session.dialog.state = .terminated)
    (timer : dialog.timer200OkEnd = true → session.dialog.timer200OkEnd = true) :
    Quiet session { session with dialog := dialog } := by
  have rows : Grows Slack Unsent session.transactions session.transactions := .refl Slack.refl _
  refine ⟨rows, .inl queuedCt, ?_, ?_⟩
  · intro formed id isLast
    exact formed.anchored id (last.symm.trans isLast)
  · intro stopped terminated
    apply Bool.eq_false_iff.mpr
    intro armed
    have idle := stopped (ended terminated)
    rw [timer armed] at idle
    cases idle

/-- A change of the dialog that leaves its schedule and its wait for an ACK. -/
theorem ofSchedule {dialog : Dialog} (schedule : Dialog.SameSchedule session.dialog dialog)
    (ackWait : dialog.ackWait = session.dialog.ackWait) : Quiet session { session with dialog := dialog } := by
  apply ofDialog schedule.queuedCt schedule.lastTransaction schedule.deleted.mp
  intro armed
  exact (congrArg AckWait.timer200OkEnd ackWait).symm.trans armed

/-- A change of one transaction that does not send it. -/
theorem ofModify {id : TransactionId} {change : DialogTransaction → DialogTransaction}
    (slack : ∀ transaction, session.transactions[id]? = some transaction →
      Slack transaction (change transaction)) : Quiet session (session.modify id change) := by
  have rows : Grows Slack Unsent session.transactions (session.modify id change).transactions :=
    .modify Slack.refl slack
  exact ⟨rows, .inl rfl, fun formed => anchor rows rfl formed.anchored, fun stopped => stopped⟩

theorem ofAdd {transaction : DialogTransaction} (unsent : transaction.Unsent) :
    Quiet session (session.add transaction) := by
  have rows : Grows Slack Unsent session.transactions (session.add transaction).transactions :=
    .append Slack.refl unsent
  exact ⟨rows, .inl rfl, fun formed => anchor rows rfl formed.anchored, fun stopped => stopped⟩

/-- A dialog is deleted, and the transactions of its queue are terminated. -/
theorem ofAborted {session after : Session} {dialog : Dialog}
    (aborted : Aborted session.dialog.queuedCt { session with dialog := dialog.delete } after)
    (anchored : session.Anchored → { session with dialog := dialog }.Anchored) : Quiet session after := by
  have rows : Grows Slack Unsent session.transactions after.transactions := by
    constructor
    · intro index row present
      obtain ⟨next, nextPresent, ends⟩ := aborted.transactions.old index row present
      exact ⟨next, nextPresent, slack_of_ends ends⟩
    · intro index next absent present
      exact (aborted.transactions.new index next absent present).elim
  refine ⟨rows, .inr aborted.queuedCt, ?_, fun _ _ => congrArg AckWait.timer200OkEnd aborted.ackWait⟩
  intro formed id isLast
  have reached : ∃ transaction, session.transactions[id]? = some transaction ∧ transaction.Reaches := by
    rcases aborted.lastTransaction with same | ⟨queued, among, same⟩
    · exact anchored formed.anchored id (same.symm.trans isLast)
    · rw [isLast] at same
      cases same
      obtain ⟨transaction, present, client, queued⟩ := formed.queued id among
      exact ⟨transaction, present, .inl ((formed.formable id transaction present).queued client queued).1⟩
  obtain ⟨transaction, present, reaches⟩ := reached
  obtain ⟨next, nextPresent, slack⟩ := rows.old id transaction present
  exact ⟨next, nextPresent, slack.toLoose.reaches reaches⟩

end Quiet

variable {transaction : DialogTransaction} {id : TransactionId} {session : Session}

/-- An update by a transaction that reaches the dialog. -/
theorem updateDialog_quiet (present : session.transactions[id]? = some transaction) (reaches : transaction.Reaches)
    (asUas : Bool) :
    OnReturn (session.updateDialog id asUas) fun (after, _) => Quiet session after := by
  apply (updateDialog_spec present asUas).mono
  intro (after, _) ⟨middle, verdict, updated, same, deleted⟩
  have anchored : ∀ dialog : Dialog, dialog.lastTransaction = some id →
      { session with dialog := dialog }.Anchored := by
    intro dialog last other isLast
    rw [last] at isLast
    cases isLast
    exact ⟨transaction, present, reaches⟩
  have stopped : session.Stopped → middle.state = .terminated → middle.timer200OkEnd = false := by
    intro stopped terminated
    have ended := updated.state.mp terminated
    have waits := (updated.outcome.ended ended).1
    exact (congrArg AckWait.timer200OkEnd waits).trans (stopped ended)
  cases verdict with
  | keep =>
      rw [same (by decide)]
      exact ⟨.refl Slack.refl _, .inl updated.queuedCt, fun _ => anchored _ updated.lastTransaction, stopped⟩
  | retransmission =>
      rw [same (by decide)]
      exact ⟨.refl Slack.refl _, .inl updated.queuedCt, fun _ => anchored _ updated.lastTransaction, stopped⟩
  | delete => exact .ofAborted (deleted rfl) fun _ => anchored middle updated.lastTransaction

theorem delete_quiet (session : Session) : OnReturn session.delete (Quiet session) := by
  apply (delete_aborted session).mono
  intro after aborted
  exact .ofAborted aborted fun anchored => anchored

/-- A transaction is terminated. -/
def finish (session : Session) (id : TransactionId) : Session :=
  session.modify id fun transaction => { transaction with state := .terminated }

theorem finish_present (present : session.transactions[id]? = some transaction) :
    (session.finish id).transactions[id]? = some { transaction with state := .terminated } := by
  simp [finish, modify, present]

/-- What the termination of a transaction comes to. -/
inductive Ending (session : Session) (id : TransactionId) (transaction : DialogTransaction) : Session → Prop where
  | ended (terminated : transaction.state = .terminated) : Ending session id transaction session
  | silent (alive : transaction.state ≠ .terminated)
      (other : (transaction.inDialog && transaction.unanswered) = false) :
      Ending session id transaction (session.finish id)
  | updated (after : Session) (retransmission : Bool) (alive : transaction.state ≠ .terminated)
      (inside : transaction.inDialog = true) (unanswered : transaction.unanswered = true)
      (ended : (session.finish id).updateDialog id (!transaction.isClient) = .ok (after, retransmission)) :
      Ending session id transaction after

theorem terminate_ending (present : session.transactions[id]? = some transaction) :
    OnReturn (session.terminate id) (Ending session id transaction) := by
  unfold terminate
  rw [present]
  dsimp only
  split
  · next terminated => exact Checked.onReturn_pure.mpr (.ended terminated)
  · next alive =>
      split
      · next reached =>
          have both := Bool.and_eq_true_iff.mp reached
          apply Checked.onReturn_bind.mpr
          show OnReturn ((session.finish id).updateDialog id (!transaction.isClient)) _
          cases ended : (session.finish id).updateDialog id (!transaction.isClient) with
          | error fault => trivial
          | ok result => exact Checked.onReturn_pure.mpr (.updated result.1 result.2 alive both.1 both.2 ended)
      · next other => exact Checked.onReturn_pure.mpr (.silent alive (Bool.eq_false_iff.mpr other))

theorem finish_quiet (session : Session) (id : TransactionId) : Quiet session (session.finish id) :=
  .ofModify fun transaction _ => Slack.terminate transaction

theorem terminate_quiet (session : Session) (id : TransactionId) :
    OnReturn (session.terminate id) (Quiet session) := by
  cases present : session.transactions[id]? with
  | none =>
      unfold terminate
      rw [present]
      exact Checked.onReturn_pure.mpr (.refl session)
  | some transaction =>
      apply (terminate_ending present).mono
      intro after ending
      cases ending with
      | ended terminated => exact .refl session
      | silent alive other => exact finish_quiet session id
      | updated after retransmission alive inside unanswered ended =>
          have quiet := updateDialog_quiet (finish_present present) (.inl inside) (!transaction.isClient)
          exact (finish_quiet session id).trans (quiet.elim ended)

/-- The response goes to the dialog, not to another one of a fork. -/
def updates (session : Session) (transaction : DialogTransaction) (resp : Response) : Bool :=
  transaction.inDialog && (!(transaction.isClient && transaction.request.method = "INVITE" &&
    101 ≤ resp.statusCode && resp.statusCode < 300 && session.dialog.visible) ||
      session.dialog.matchMessage resp.toHeaders false = .ok true)

/-- A transaction has a new state and a new response. -/
def answer (session : Session) (id : TransactionId) (state : TransactionState) (resp : Response) : Session :=
  session.modify id fun transaction => { transaction with state := state, lastResponse := some resp }

theorem answer_present (present : session.transactions[id]? = some transaction) (state : TransactionState)
    (resp : Response) :
    (session.answer id state resp).transactions[id]? =
      some { transaction with state := state, lastResponse := some resp } := by
  simp [answer, modify, present]

/-- What a response to a transaction comes to. -/
inductive Answering (session : Session) (id : TransactionId) (transaction : DialogTransaction)
    (state : TransactionState) (resp : Response) : Session → Prop where
  | ignored (barred : excludes transaction state = true) : Answering session id transaction state resp session
  | passed (admitted : excludes transaction state = false) (other : session.updates transaction resp = false) :
      Answering session id transaction state resp (session.answer id state resp)
  | updated (after : Session) (retransmission : Bool) (admitted : excludes transaction state = false)
      (updates : session.updates transaction resp = true)
      (ended : (session.answer id state resp).updateDialog id (!transaction.isClient) =
        .ok (after, retransmission)) : Answering session id transaction state resp after

theorem respond_answering (present : session.transactions[id]? = some transaction) (state : TransactionState)
    (resp : Response) :
    OnReturn (session.respond id state resp) (Answering session id transaction state resp) := by
  unfold respond
  rw [present]
  dsimp only
  split
  · next barred => exact Checked.onReturn_pure.mpr (.ignored barred)
  · next forward =>
      have admitted := Bool.eq_false_iff.mpr forward
      have updated : ∀ asUas : Bool, asUas = (!transaction.isClient) →
          session.updates transaction resp = true → OnReturn
            ((session.answer id state resp).updateDialog id asUas >>= fun result => pure result.1)
              (Answering session id transaction state resp) := by
        intro asUas side reached
        apply Checked.onReturn_bind.mpr
        cases ended : (session.answer id state resp).updateDialog id asUas with
        | error fault => trivial
        | ok result =>
            rw [side] at ended
            exact Checked.onReturn_pure.mpr (.updated result.1 result.2 admitted reached ended)
      split
      · next outside =>
          have away : transaction.inDialog = false := by simpa using outside
          exact Checked.onReturn_pure.mpr (.passed admitted (by simp [updates, away]))
      · next outside =>
          have inside : transaction.inDialog = true := by simpa using outside
          split
          · next special =>
              have client : transaction.isClient = true := by
                simp only [Bool.and_eq_true] at special
                exact special.1.1.1.1
              apply Checked.onReturn_bind.mpr
              show OnReturn (session.dialog.matchMessage resp.toHeaders false) _
              cases matched : session.dialog.matchMessage resp.toHeaders false with
              | error fault => trivial
              | ok found =>
                  apply Checked.onReturn_ok.mpr
                  cases found with
                  | true => exact updated false (by rw [client]; rfl) (by simp [updates, inside, matched])
                  | false =>
                      apply Checked.onReturn_pure.mpr
                      apply Answering.passed admitted
                      rw [updates, inside, matched]
                      dsimp only [modify] at special
                      rw [special]
                      rfl
          · next special =>
              apply updated _ rfl
              have plain := Bool.eq_false_iff.mpr special
              dsimp only [modify] at plain
              rw [updates, inside, plain]
              rfl

/-- A response to an INVITE of another dialog comes to nothing or updates this one. -/
theorem rejoin_answering (present : session.transactions[id]? = some transaction) (state : TransactionState)
    (resp : Response) :
    OnReturn (session.rejoin id state resp) fun after => after = session ∨
      (excludes transaction state = false ∧ transaction.isClient = true ∧ transaction.request.method = "INVITE" ∧
        ∃ retransmission, (session.answer id state resp).updateDialog id false = .ok (after, retransmission)) := by
  unfold rejoin
  rw [present]
  dsimp only
  split
  · exact Checked.onReturn_pure.mpr (.inl rfl)
  · next forward =>
      split
      · next away =>
          simp only [Bool.and_eq_true, decide_eq_true_eq] at away
          apply Checked.onReturn_bind.mpr
          generalize Dialog.matchMessage _ _ _ = matched
          cases matched with
          | error fault => trivial
          | ok found =>
              apply Checked.onReturn_ok.mpr
              cases found with
              | false => exact Checked.onReturn_pure.mpr (.inl rfl)
              | true =>
                  apply Checked.onReturn_bind.mpr
                  show OnReturn ((session.answer id state resp).updateDialog id false) _
                  cases ended : (session.answer id state resp).updateDialog id false with
                  | error fault => trivial
                  | ok result =>
                      apply Checked.onReturn_pure.mpr
                      exact .inr ⟨Bool.eq_false_iff.mpr forward, away.1.1.1.1.2, away.1.1.1.2, result.2, rfl⟩
      · exact Checked.onReturn_pure.mpr (.inl rfl)

theorem answer_quiet (present : session.transactions[id]? = some transaction) {state : TransactionState}
    (admitted : excludes transaction state = false) (resp : Response) :
    Quiet session (session.answer id state resp) := by
  apply Quiet.ofModify
  intro same samePresent
  cases present.symm.trans samePresent
  exact Slack.respond admitted resp

/-- A response changes the transaction, and it may update the dialog afterwards. -/
theorem respond_quiet (session : Session) (id : TransactionId) (state : TransactionState) (resp : Response) :
    OnReturn (session.respond id state resp) (Quiet session) := by
  cases present : session.transactions[id]? with
  | none =>
      unfold respond
      rw [present]
      exact Checked.onReturn_pure.mpr (.refl session)
  | some transaction =>
      apply (respond_answering present state resp).mono
      intro after answering
      cases answering with
      | ignored barred => exact .refl session
      | passed admitted other => exact answer_quiet present admitted resp
      | updated after retransmission admitted updates ended =>
          have inside := (Bool.and_eq_true_iff.mp updates).1
          have quiet := updateDialog_quiet (answer_present present state resp) (.inl inside) (!transaction.isClient)
          exact (answer_quiet present admitted resp).trans (quiet.elim ended)

theorem fork_quiet (session : Session) (id : TransactionId) : Quiet session (session.fork id) := by
  apply Quiet.ofModify
  intro transaction _
  split
  · next forks =>
      simp only [Bool.and_eq_true, decide_eq_true_eq] at forks
      exact ⟨⟨rfl, rfl, rfl, .inr ⟨forks.1.1, forks.1.2, forks.2⟩, fun initial => ⟨initial, rfl⟩⟩,
        rfl, nofun, .inl, fun ended => ended, fun transient => transient⟩
  · exact Slack.refl transaction

theorem rejoin_quiet (session : Session) (id : TransactionId) (state : TransactionState) (resp : Response) :
    OnReturn (session.rejoin id state resp) (Quiet session) := by
  cases present : session.transactions[id]? with
  | none =>
      unfold rejoin
      rw [present]
      exact Checked.onReturn_pure.mpr (.refl session)
  | some transaction =>
      apply (rejoin_answering present state resp).mono
      intro after outcome
      rcases outcome with rfl | ⟨admitted, client, invite, retransmission, ended⟩
      · exact .refl after
      · have sent : state ≠ .init := by
          intro initial
          simp [excludes, initial] at admitted
        have quiet := updateDialog_quiet (answer_present present state resp) (.inr ⟨client, invite, sent⟩) false
        exact (answer_quiet present admitted resp).trans (quiet.elim ended)

end Session

end BelleSip
