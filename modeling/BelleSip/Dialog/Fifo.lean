import BelleSip.Foundation.Handover
import BelleSip.Foundation.Machine
import BelleSip.Dialog.Dispatch

/-
This file proves when the queue of a dialog sends its requests in order, once, and one at a time.
-/

namespace BelleSip

open Foundation
open Foundation.Checked (OnReturn)

namespace DialogTransaction

/-- A queued request of the dialog. -/
def queued (transaction : DialogTransaction) : Bool := transaction.isClient && transaction.request.dialogQueued

/-- A queued request that waits for its channel. -/
def held (transaction : DialogTransaction) : Bool :=
  transaction.queued && transaction.waiting && transaction.state = .init

end DialogTransaction

namespace Session

def occupies (session : Session) (id : TransactionId) : Bool :=
  session.transactions[id]?.any DialogTransaction.busy

def holds (session : Session) (id : TransactionId) : Bool :=
  session.transactions[id]?.any DialogTransaction.held

/-- No other client transaction of the dialog is transient. -/
def alone (session : Session) (id : TransactionId) : Bool :=
  (List.range session.transactions.length).all fun other => other = id || !session.occupies other

/-- No queued request waits for its channel. -/
def free (session : Session) : Bool :=
  (List.range session.transactions.length).all fun id => !session.holds id

/-- The event has sent this queued request. -/
def leaves (before after : Session) (id : TransactionId) : Bool :=
  after.transactions[id]?.any (fun transaction =>
    transaction.queued && transaction.state ≠ .init && transaction.state ≠ .terminated) &&
      before.transactions[id]?.all (·.state = .init)

/-- The queued requests that the event has sent. -/
def departing (before after : Session) : List TransactionId :=
  (List.range after.transactions.length).filter fun id => leaves before after id

/-- The application hands a queued request in that the queue has not taken yet. -/
def entering (session : Session) : Event → List TransactionId
  | .sendRequest id outlet =>
      if session.transactions[id]?.any fun transaction => transaction.queued && transaction.state = .init &&
        outlet ≠ .badUris && !transaction.sentByDialogQueue then [id] else []
  | _ => []

/-- A transaction that gets this state and this answer leaves no other one behind. -/
def settles (session : Session) (id : TransactionId) (state : TransactionState) (resp : Option Response) : Bool :=
  if state.isTransient then resp.all (·.statusCode < 200) else session.alone id

/-- The dialog can send this request although other requests of it are transient. -/
def overtakes (session : Session) (id : TransactionId) (outlet : Outlet) : Bool :=
  session.free && (outlet ≠ .noChannel || session.alone id)

/-- The event lets the last transaction of the dialog end only when no other request of the dialog is
transient, and nothing overtakes a queued request that waits for its channel. -/
def takesTurns (session : Session) : Event → Bool
  | .sendRequest id outlet => session.transactions[id]?.all fun transaction =>
      transaction.state ≠ .init || outlet = .badUris || session.queues transaction ||
        if transaction.queued then !transaction.sentByDialogQueue || transaction.waiting
        else !transaction.inDialog || session.overtakes id outlet
  | .responded id state resp => session.transactions[id]?.all fun transaction =>
      excludes transaction state ||
        !(session.updates transaction resp || session.dialog.lastTransaction = some id) ||
          session.settles id state (some resp)
  | .rejoined id state resp => session.transactions[id]?.all fun transaction =>
      excludes transaction state || session.settles id state (some resp)
  | .responseRefused id => session.transactions[id]?.all fun transaction =>
      transaction.isClient || session.settles id transaction.state transaction.lastResponse
  | .terminated id => session.transactions[id]?.all fun transaction =>
      transaction.state = .terminated ||
        !(transaction.inDialog && transaction.unanswered || session.dialog.lastTransaction = some id) ||
          session.alone id
  | .ackChecked outlet => !session.dialog.needsAck || session.overtakes session.transactions.length outlet
  | .timer200OkEnd outlet =>
      !session.dialog.timer200OkEnd || session.overtakes session.transactions.length outlet
  | .deleted => session.dialog.queuedCt.isEmpty || session.alone session.transactions.length
  | _ => true

/-- A session with the queued requests that have been handed in, those that have been sent, and those that
have been sent while another request of the dialog was transient. -/
structure Ledger where
  session : Session
  entered : List TransactionId := []
  sent : List TransactionId := []
  overlapping : List TransactionId := []

def Ledger.step (ledger : Ledger) (event : Event) : Ledger :=
  let after := ledger.session.step event
  let departed := departing ledger.session after
  { session := after
    entered := ledger.entered ++ ledger.session.entering event
    sent := ledger.sent ++ departed
    overlapping := ledger.overlapping ++ departed.filter fun id => !after.alone id }

/-- The queued requests are sent in the order in which they have been handed in, each at most once, and none
is sent while another request of the dialog is transient. -/
structure Ledger.Fifo (ledger : Ledger) : Prop where
  once : ledger.sent.Nodup
  ordered : ledger.sent.Sublist ledger.entered
  separate : ledger.overlapping = []

/-- The invariant of the queue. -/
structure Kept (session : Session) (entered sent : List TransactionId) : Prop where
  formed : Formed session
  tracked : ∀ id, session.occupies id = true → session.requestPending = true
  alone : ∀ id, session.holds id = true → session.alone id = true
  handover : Handover entered session.dialog.queuedCt sent fun id => session.holds id = true
  left : ∀ id ∈ sent, ∃ transaction, session.transactions[id]? = some transaction ∧ transaction.state ≠ .init
  once : sent.Nodup

variable {session : Session} {id : TransactionId}

theorem occupies_iff : session.occupies id = true ↔
    ∃ transaction, session.transactions[id]? = some transaction ∧ transaction.busy = true := by
  simp [occupies, Option.any_eq_true]

theorem holds_iff : session.holds id = true ↔
    ∃ transaction, session.transactions[id]? = some transaction ∧ transaction.held = true := by
  simp [holds, Option.any_eq_true]

theorem alone_iff :
    session.alone id = true ↔ ∀ other, session.occupies other = true → other = id := by
  simp only [alone, List.all_eq_true, List.mem_range, Bool.or_eq_true, decide_eq_true_eq, Bool.not_eq_true']
  constructor
  · intro rest other occupies
    obtain ⟨transaction, present, _⟩ := occupies_iff.mp occupies
    rcases rest other (List.getElem?_eq_some_iff.mp present).1 with same | idle
    · exact same
    · rw [idle] at occupies
      cases occupies
  · intro only other _
    by_cases occupies : session.occupies other = true
    · exact .inl (only other occupies)
    · exact .inr (Bool.eq_false_iff.mpr occupies)

theorem free_iff : session.free = true ↔ ∀ id, session.holds id = false := by
  simp only [free, List.all_eq_true, List.mem_range, Bool.not_eq_true']
  constructor
  · intro rest id
    apply Bool.eq_false_iff.mpr
    intro holds
    obtain ⟨transaction, present, _⟩ := holds_iff.mp holds
    rw [rest id (List.getElem?_eq_some_iff.mp present).1] at holds
    cases holds
  · exact fun nothing id _ => nothing id

/-- A queued request that waits for its channel keeps the dialog busy. -/
theorem Formed.occupies_of_holds (formed : Formed session) (holds : session.holds id = true) :
    session.occupies id = true := by
  obtain ⟨transaction, present, held⟩ := holds_iff.mp holds
  simp only [DialogTransaction.held, DialogTransaction.queued, Bool.and_eq_true, decide_eq_true_eq] at held
  obtain ⟨⟨⟨client, queued⟩, waiting⟩, initial⟩ := held
  have inside := ((formed.formable id transaction present).queued client queued).1
  apply occupies_iff.mpr
  refine ⟨transaction, present, ?_⟩
  simp [DialogTransaction.busy, client, inside, waiting, initial, TransactionState.isTransient]

namespace Quiet

variable {before after : Session}

/-- A quiet event makes no request busy. -/
theorem occupies (quiet : Quiet before after) {id : TransactionId} (busy : after.occupies id = true) :
    before.occupies id = true := by
  obtain ⟨transaction, present, held⟩ := occupies_iff.mp busy
  simp only [DialogTransaction.busy, Bool.and_eq_true, Bool.or_eq_true, decide_eq_true_eq] at held
  obtain ⟨⟨⟨client, inside⟩, handed⟩, transient⟩ := held
  rcases quiet.transactions.back present with ⟨old, oldPresent, slack⟩ | ⟨_, unsent⟩
  · apply occupies_iff.mpr
    refine ⟨old, oldPresent, ?_⟩
    have oldTransient := slack.transient transient
    have oldHanded : old.waiting = true ∨ old.state ≠ .init := by
      rcases handed with waiting | sent
      · exact .inl (slack.waiting.symm.trans waiting)
      · apply Or.inr
        intro initial
        rcases slack.left initial with stays | ended
        · exact sent stays
        · rw [ended] at transient
          cases transient
    simp [DialogTransaction.busy, slack.isClient.symm.trans client, slack.inside inside, oldTransient, oldHanded]
  · rcases handed with waiting | sent
    · rw [unsent.waiting] at waiting
      cases waiting
    · rcases unsent.state client with initial | ended
      · exact absurd initial sent
      · rw [ended] at transient
        cases transient

/-- A quiet event makes no queued request wait. -/
theorem holds (quiet : Quiet before after) {id : TransactionId} (waits : after.holds id = true) :
    before.holds id = true := by
  obtain ⟨transaction, present, held⟩ := holds_iff.mp waits
  simp only [DialogTransaction.held, DialogTransaction.queued, Bool.and_eq_true, decide_eq_true_eq] at held
  obtain ⟨⟨⟨client, queued⟩, waiting⟩, initial⟩ := held
  rcases quiet.transactions.back present with ⟨old, oldPresent, slack⟩ | ⟨_, unsent⟩
  · apply holds_iff.mpr
    refine ⟨old, oldPresent, ?_⟩
    simp [DialogTransaction.held, DialogTransaction.queued, slack.isClient.symm.trans client,
      slack.dialogQueued.symm.trans queued, slack.waiting.symm.trans waiting, (slack.initial initial).1]
  · rw [unsent.waiting] at waiting
    cases waiting

/-- A quiet event sends no queued request. -/
theorem leaves (quiet : Quiet before after) (id : TransactionId) : before.leaves after id = false := by
  apply Bool.eq_false_iff.mpr
  intro leaves
  simp only [Session.leaves, Bool.and_eq_true, Option.any_eq_true, DialogTransaction.queued,
    decide_eq_true_eq] at leaves
  obtain ⟨⟨transaction, present, ⟨⟨client, _⟩, sent⟩, alive⟩, initial⟩ := leaves
  rcases quiet.transactions.back present with ⟨old, oldPresent, slack⟩ | ⟨_, unsent⟩
  · simp only [oldPresent, Option.all_some, decide_eq_true_eq] at initial
    rcases slack.left initial with stays | ended
    · exact sent stays
    · exact alive ended
  · rcases unsent.state client with stays | ended
    · exact sent stays
    · exact alive ended

end Quiet

variable {entered sent : List TransactionId} {session : Session} {id : TransactionId} {transaction : DialogTransaction}
  {before after : Session} {outlet : Outlet}

theorem leaves_same (same : after.transactions[id]? = before.transactions[id]?) : before.leaves after id = false := by
  rw [leaves, same]
  cases before.transactions[id]? with
  | none => rfl
  | some row => by_cases initial : row.state = .init <;> simp [initial]

theorem departing_nil (none : ∀ id, before.leaves after id = false) :
    departing before after = [] := by
  simp [departing, none]

/-- A request that is the only one to leave. -/
theorem departing_one (leaves : before.leaves after id = true)
    (rest : ∀ other, other ≠ id → before.leaves after other = false) : departing before after = [id] := by
  have among : id < after.transactions.length := by
    simp only [Session.leaves, Bool.and_eq_true, Option.any_eq_true] at leaves
    obtain ⟨⟨transaction, present, _⟩, _⟩ := leaves
    exact (List.getElem?_eq_some_iff.mp present).1
  have same : departing before after = (List.range after.transactions.length).filter (· = id) := by
    apply List.filter_congr
    intro other _
    by_cases here : other = id
    · rw [here, leaves]
      simp
    · rw [rest other here]
      simp [here]
  rw [same, List.filter_eq, List.count_eq_one_of_mem List.nodup_range (List.mem_range.mpr among)]
  rfl

/-- A quiet event keeps the invariant when it leaves no busy request behind the last one. -/
theorem Kept.quiet {session after : Session} (kept : Kept session entered sent) (quiet : Quiet session after)
    (tracked : ∀ id, after.occupies id = true → after.requestPending = true) : Kept after entered sent where
  formed := quiet.formed kept.formed
  tracked := tracked
  alone := by
    intro id holds
    have only := alone_iff.mp (kept.alone id (quiet.holds holds))
    exact alone_iff.mpr fun other occupies => only other (quiet.occupies occupies)
  handover := by
    have fewer : Handover entered session.dialog.queuedCt sent fun id => after.holds id = true :=
      kept.handover.mono fun id holds => quiet.holds holds
    rcases quiet.queuedCt with same | empty
    · rw [same]
      exact fewer
    · rw [empty]
      exact fewer.abandon
  left := by
    intro id among
    obtain ⟨transaction, present, sent⟩ := kept.left id among
    obtain ⟨next, nextPresent, slack⟩ := quiet.transactions.old id transaction present
    exact ⟨next, nextPresent, fun initial => sent (slack.initial initial).1⟩
  once := kept.once

/-- A request has been handed to its channel, which may not be ready yet. -/
structure Hands (before : Session) (id : TransactionId) (transaction : DialogTransaction)
    (after : Session) : Prop where
  placed : ∃ next, after.transactions[id]? = some next ∧ next.queued = transaction.queued ∧
    next.inDialog = transaction.inDialog ∧ next.state.isTransient = true ∧ next.state ≠ .terminated
  others : ∀ other : TransactionId, other ≠ id → after.transactions[other]? = before.transactions[other]?
  queuedCt : after.dialog.queuedCt = before.dialog.queuedCt
  moves : Moves before after

theorem Kept.hand {session after : Session} (kept : Kept session entered sent)
    (present : session.transactions[id]? = some transaction) (initial : transaction.state = .init)
    (hands : Hands session id transaction after)
    (tracked : ∀ other, after.occupies other = true → after.requestPending = true) {more : List TransactionId}
    (queued : transaction.queued = true → session.alone id = true ∧
      Handover (entered ++ more) session.dialog.queuedCt sent (· = id))
    (direct : transaction.queued = false → transaction.inDialog = true → session.free = true) :
    Kept after (entered ++ more) (sent ++ departing session after) ∧
      ∀ other ∈ departing session after, after.alone other = true := by
  obtain ⟨next, placed, sameQueued, sameDialog, transient, alive⟩ := hands.placed
  have occupies : ∀ other, other ≠ id → after.occupies other = session.occupies other := by
    intro other elsewhere
    rw [Session.occupies, hands.others other elsewhere, Session.occupies]
  have holds : ∀ other, other ≠ id → after.holds other = session.holds other := by
    intro other elsewhere
    rw [Session.holds, hands.others other elsewhere, Session.holds]
  have stays : ∀ other, other ≠ id → session.leaves after other = false := by
    intro other elsewhere
    exact leaves_same (hands.others other elsewhere)
  have unsent : id ∉ sent := by
    intro among
    obtain ⟨same, samePresent, gone⟩ := kept.left id among
    cases present.symm.trans samePresent
    exact gone initial
  have left : ∀ other ∈ sent, ∃ row, after.transactions[other]? = some row ∧ row.state ≠ .init := by
    intro other among
    have elsewhere : other ≠ id := by
      intro here
      rw [here] at among
      exact unsent among
    rw [hands.others other elsewhere]
    exact kept.left other among
  have formed := hands.moves.formed kept.formed
  cases kind : transaction.queued with
  | false =>
      have nothing : departing session after = [] := by
        apply departing_nil
        intro other
        by_cases here : other = id
        · rw [here, Session.leaves, placed]
          simp [sameQueued, kind]
        · exact stays other here
      have elsewhere : ∀ other, after.holds other = true → other ≠ id := by
        intro other waits here
        rw [here, Session.holds, placed] at waits
        simp [DialogTransaction.held, sameQueued, kind] at waits
      rw [nothing, List.append_nil]
      refine ⟨⟨formed, tracked, ?_, ?_, left, kept.once⟩, by simp⟩
      · intro other waits
        have waited : session.holds other = true := by
          rw [← holds other (elsewhere other waits)]
          exact waits
        have only := alone_iff.mp (kept.alone other waited)
        apply alone_iff.mpr
        intro busy occupied
        by_cases here : busy = id
        · cases inside : transaction.inDialog with
          | true =>
              rw [free_iff.mp (direct kind inside) other] at waited
              cases waited
          | false =>
              rw [here, Session.occupies, placed] at occupied
              simp [DialogTransaction.busy, sameDialog, inside] at occupied
        · rw [occupies busy here] at occupied
          exact only busy occupied
      · rw [hands.queuedCt]
        apply (kept.handover.enter more).mono
        intro other waits
        rw [← holds other (elsewhere other waits)]
        exact waits
  | true =>
      obtain ⟨alone, inTurn⟩ := queued kind
      rw [← hands.queuedCt] at inTurn
      have only := alone_iff.mp alone
      have afterwards : after.alone id = true := by
        apply alone_iff.mpr
        intro other occupied
        by_contra elsewhere
        rw [occupies other elsewhere] at occupied
        exact elsewhere (only other occupied)
      have waits : ∀ other, after.holds other = true → other = id := by
        intro other waits
        exact alone_iff.mp afterwards other (formed.occupies_of_holds waits)
      have keeps : ∀ other, after.holds other = true → after.alone other = true := by
        intro other waiting
        rw [waits other waiting]
        exact afterwards
      by_cases unready : next.state = .init
      · have nothing : departing session after = [] := by
          apply departing_nil
          intro other
          by_cases here : other = id
          · rw [here, Session.leaves, placed]
            simp [unready]
          · exact stays other here
        rw [nothing, List.append_nil]
        exact ⟨⟨formed, tracked, keeps, inTurn.mono waits, left, kept.once⟩, by simp⟩
      · have leaves : session.leaves after id = true := by
          simp [Session.leaves, placed, present, sameQueued, kind, unready, alive, initial]
        have nothing : ∀ other, ¬after.holds other = true := by
          intro other waiting
          have held := waiting
          rw [waits other waiting, Session.holds, placed] at held
          simp [DialogTransaction.held, unready] at held
        rw [departing_one leaves stays]
        refine ⟨⟨formed, tracked, keeps, inTurn.release rfl nothing, ?_, ?_⟩, ?_⟩
        · intro other among
          rcases List.mem_append.mp among with earlier | now
          · exact left other earlier
          · rw [List.mem_singleton.mp now]
            exact ⟨next, placed, unready⟩
        · apply List.nodup_append.mpr
          refine ⟨kept.once, List.nodup_singleton id, ?_⟩
          intro other among last isLast same
          rw [List.mem_singleton.mp isLast] at same
          rw [same] at among
          exact unsent among
        · intro other now
          rw [List.mem_singleton.mp now]
          exact afterwards

/-- The event keeps the invariant, and what it sends is sent alone. -/
def Follows (session : Session) (entered sent more : List TransactionId) (after : Session) : Prop :=
  Kept after (entered ++ more) (sent ++ departing session after) ∧
    ∀ id ∈ departing session after, after.alone id = true

theorem Kept.enter (kept : Kept session entered sent) (more : List TransactionId) :
    Kept session (entered ++ more) sent :=
  ⟨kept.formed, kept.tracked, kept.alone, kept.handover.enter more, kept.left, kept.once⟩

theorem Kept.follows {session after : Session} (kept : Kept session entered sent) (quiet : Quiet session after)
    (tracked : ∀ id, after.occupies id = true → after.requestPending = true) (more : List TransactionId) :
    Follows session entered sent more after := by
  unfold Follows
  rw [departing_nil quiet.leaves, List.append_nil]
  exact ⟨(kept.quiet quiet tracked).enter more, by simp⟩

/-- A quiet event that keeps a pending request pending. -/
theorem Kept.still {session after : Session} (kept : Kept session entered sent) (quiet : Quiet session after)
    (pending : session.requestPending = true → after.requestPending = true) (more : List TransactionId) :
    Follows session entered sent more after :=
  kept.follows quiet (fun id busy => pending (kept.tracked id (quiet.occupies busy))) more

theorem Kept.same (kept : Kept session entered sent) (more : List TransactionId) :
    Follows session entered sent more session :=
  kept.still (.refl session) (fun pending => pending) more

theorem requestPending_dialog {dialog : Dialog} (last : dialog.lastTransaction = session.dialog.lastTransaction) :
    { session with dialog := dialog }.requestPending = session.requestPending := by
  unfold requestPending
  dsimp only
  rw [last]

/-- An event after which no request is busy. -/
theorem tracked_of_idle (alone : session.alone id = true) (idle : session.occupies id = false) :
    ∀ other, session.occupies other = true → session.requestPending = true := by
  intro other busy
  rw [alone_iff.mp alone other busy, idle] at busy
  cases busy

theorem Quiet.alone (quiet : Quiet before after) (alone : before.alone id = true) : after.alone id = true :=
  alone_iff.mpr fun other busy => alone_iff.mp alone other (quiet.occupies busy)

theorem Quiet.idle (quiet : Quiet before after) (idle : before.occupies id = false) : after.occupies id = false := by
  apply Bool.eq_false_iff.mpr
  intro busy
  rw [quiet.occupies busy] at idle
  cases idle

theorem Quiet.settles (quiet : Quiet before after) {state : TransactionState} {resp : Option Response}
    (settles : before.settles id state resp = true) :
    after.settles id state resp = true := by
  unfold Session.settles at settles ⊢
  split
  · next transient =>
      rw [if_pos transient] at settles
      exact settles
  · next ended =>
      rw [if_neg ended] at settles
      exact quiet.alone settles

theorem idle_length (session : Session) : session.occupies session.transactions.length = false := by
  simp [occupies]

theorem idle_of_ended (present : session.transactions[id]? = some transaction)
    (ended : transaction.state.isTransient = false) :
    session.occupies id = false := by
  simp [occupies, present, DialogTransaction.busy, ended]

/-- An update by a transaction that settles leaves no busy request behind the last one. -/
theorem updateDialog_tracked (present : session.transactions[id]? = some transaction) (reaches : transaction.Reaches)
    (settles : session.settles id transaction.state transaction.lastResponse = true) (asUas : Bool) :
    OnReturn (session.updateDialog id asUas) fun (after, _) =>
      Quiet session after ∧ ∀ other, after.occupies other = true → after.requestPending = true := by
  have quiet := updateDialog_quiet present reaches asUas
  have spec := updateDialog_spec present asUas
  cases updated : session.updateDialog id asUas with
  | error fault => trivial
  | ok result =>
      have moved : Quiet session result.1 := quiet.elim updated
      refine ⟨moved, ?_⟩
      unfold Session.settles at settles
      split at settles
      · next transient =>
          obtain ⟨middle, verdict, updated, kept, _⟩ := spec.elim updated
          have running : decide (transaction.state = .terminated) = false := by
            apply decide_eq_false
            intro terminated
            rw [terminated] at transient
            cases transient
          have outcome := updated.outcome
          rw [running] at outcome
          have early : ∀ answer, transaction.lastResponse = some answer → answer.statusCode < 200 := by
            intro answer answered
            rw [answered] at settles
            exact of_decide_eq_true settles
          intro other _
          have last : (middle.settle verdict).1.lastTransaction = some id := by
            cases verdict <;> exact updated.lastTransaction
          rw [kept (outcome.provisional early)]
          unfold requestPending
          dsimp only
          rw [last]
          simp [present, transient]
      · next ended =>
          exact tracked_of_idle (moved.alone settles)
            (moved.idle (idle_of_ended present (Bool.eq_false_iff.mpr ended)))

theorem respond_follows (kept : Kept session entered sent) {state : TransactionState} {resp : Response}
    (turns : session.takesTurns (.responded id state resp) = true) :
    OnReturn (session.respond id state resp) (Follows session entered sent []) := by
  cases present : session.transactions[id]? with
  | none =>
      unfold respond
      rw [present]
      exact Checked.onReturn_pure.mpr (kept.same [])
  | some transaction =>
      simp only [takesTurns, present, Option.all_some, Bool.or_eq_true, Bool.not_eq_true', Bool.or_eq_false_iff,
        decide_eq_false_iff_not] at turns
      apply (respond_answering present state resp).mono
      intro after answering
      cases answering with
      | ignored barred => exact kept.same []
      | passed admitted other =>
          have quiet := answer_quiet present admitted resp
          by_cases isLast : session.dialog.lastTransaction = some id
          · have settles : session.settles id state (some resp) = true := by
              simpa [admitted, isLast] using turns
            unfold Session.settles at settles
            split at settles
            · next transient =>
                apply kept.still quiet (requestPending_modify fun _ _ _ => transient)
            · next ended =>
                have idle := idle_of_ended (answer_present present state resp) (Bool.eq_false_iff.mpr ended)
                exact kept.follows quiet (tracked_of_idle (quiet.alone settles) idle) []
          · apply kept.still quiet
            intro pending
            rw [answer, requestPending_modify_ne isLast]
            exact pending
      | updated after retransmission admitted updates ended =>
          have quiet := answer_quiet present admitted resp
          have settles : session.settles id state (some resp) = true := by
            simpa [admitted, updates] using turns
          have inside := (Bool.and_eq_true_iff.mp updates).1
          have updated := (updateDialog_tracked (answer_present present state resp) (.inl inside)
            (quiet.settles settles) (!transaction.isClient)).elim ended
          exact kept.follows (quiet.trans updated.1) updated.2 []

theorem rejoin_follows (kept : Kept session entered sent) {state : TransactionState} {resp : Response}
    (turns : session.takesTurns (.rejoined id state resp) = true) :
    OnReturn (session.rejoin id state resp) (Follows session entered sent []) := by
  cases present : session.transactions[id]? with
  | none =>
      unfold rejoin
      rw [present]
      exact Checked.onReturn_pure.mpr (kept.same [])
  | some transaction =>
      apply (rejoin_answering present state resp).mono
      intro after outcome
      rcases outcome with rfl | ⟨admitted, client, invite, retransmission, ended⟩
      · exact kept.same []
      · have quiet := answer_quiet present admitted resp
        have settles : session.settles id state (some resp) = true := by
          simpa [takesTurns, present, admitted] using turns
        have left : state ≠ .init := by
          intro initial
          simp [excludes, initial] at admitted
        have updated := (updateDialog_tracked (answer_present present state resp) (.inr ⟨client, invite, left⟩)
          (quiet.settles settles) false).elim ended
        exact kept.follows (quiet.trans updated.1) updated.2 []

theorem responseRefused_follows (kept : Kept session entered sent)
    (turns : session.takesTurns (.responseRefused id) = true) :
    OnReturn (session.handle (.responseRefused id)) (Follows session entered sent []) := by
  dsimp only [handle]
  split
  · exact Checked.onReturn_pure.mpr (kept.same [])
  · next served =>
      apply Checked.onReturn_bind.mpr
      cases present : session.transactions[id]? with
      | none => simp [present] at served
      | some transaction =>
          have server : transaction.isClient = false := by simpa [present] using served
          have settles : session.settles id transaction.state transaction.lastResponse = true := by
            simpa [takesTurns, present, server] using turns
          have inside := (kept.formed.formable id transaction present).received server
          apply (updateDialog_tracked present (.inl inside) settles true).mono
          intro (after, _) ⟨quiet, tracked⟩
          exact Checked.onReturn_pure.mpr (kept.follows quiet tracked [])

theorem terminate_follows (kept : Kept session entered sent) (turns : session.takesTurns (.terminated id) = true) :
    OnReturn (session.terminate id) (Follows session entered sent []) := by
  cases present : session.transactions[id]? with
  | none =>
      unfold terminate
      rw [present]
      exact Checked.onReturn_pure.mpr (kept.same [])
  | some transaction =>
      simp only [takesTurns, present, Option.all_some] at turns
      have quiet := session.finish_quiet id
      have idle : (session.finish id).occupies id = false := idle_of_ended (finish_present present) rfl
      apply (terminate_ending present).mono
      intro after ending
      cases ending with
      | ended terminated => exact kept.same []
      | silent alive other =>
          by_cases isLast : session.dialog.lastTransaction = some id
          · have alone : session.alone id = true := by simpa [alive, other, isLast] using turns
            exact kept.follows quiet (tracked_of_idle (quiet.alone alone) idle) []
          · apply kept.still quiet
            intro pending
            rw [finish, requestPending_modify_ne isLast]
            exact pending
      | updated after retransmission alive inside unanswered ended =>
          have alone : session.alone id = true := by simpa [alive, inside, unanswered] using turns
          have updated := (updateDialog_tracked (finish_present present) (.inl inside) (quiet.alone alone)
            (!transaction.isClient)).elim ended
          exact kept.follows (quiet.trans updated.1) updated.2 []

theorem delete_follows (kept : Kept session entered sent) (turns : session.takesTurns .deleted = true) :
    OnReturn session.delete (Follows session entered sent []) := by
  have quiet := delete_quiet session
  simp only [takesTurns, Bool.or_eq_true, List.isEmpty_iff] at turns
  rcases turns with empty | alone
  · unfold delete at quiet ⊢
    rw [empty] at quiet ⊢
    apply kept.still quiet
    intro pending
    exact pending
  · apply quiet.mono
    intro after quiet
    exact kept.follows quiet (tracked_of_idle (quiet.alone alone) (quiet.idle session.idle_length)) []

theorem terminate_idle (present : session.transactions[id]? = some transaction) :
    OnReturn (session.terminate id) fun after => after.occupies id = false := by
  have idle : (session.finish id).occupies id = false := idle_of_ended (finish_present present) rfl
  apply (terminate_ending present).mono
  intro after ending
  cases ending with
  | ended terminated =>
      apply idle_of_ended present
      rw [terminated]
      rfl
  | silent alive other => exact idle
  | updated after retransmission alive inside unanswered ended =>
      have quiet := (updateDialog_quiet (finish_present present) (.inl inside) (!transaction.isClient)).elim ended
      exact quiet.idle idle

/-- The emission hands the request to its channel. -/
theorem emit_hands (present : session.transactions[id]? = some transaction) :
    Hands session id transaction (session.emit id) where
  placed := by
    rw [(emit_eq present).2, List.getElem?_modify_eq, present]
    refine ⟨_, rfl, rfl, rfl, ?_⟩
    dsimp only
    split <;> decide
  others := by
    intro other elsewhere
    rw [(emit_eq present).2]
    exact List.getElem?_modify_ne _ _ (Ne.symm elsewhere)
  queuedCt := by rw [session.emit_dialog id]
  moves := session.emit_moves id

/-- A request that updates the dialog is handed to its channel. -/
theorem Delivered.hands {before middle after : Session} (present : before.transactions[id]? = some transaction)
    (initial : transaction.state = .init) (readied : Readied before id transaction middle)
    (delivered : Delivered middle id outlet after) (sent : outlet = .ready ∨ outlet = .connecting) :
    Hands before id transaction after := by
  obtain ⟨request, origin, placed, method, queued⟩ := readied.placed
  have moves := (readied.quiet present).moves.trans delivered.moves
  rcases sent with rfl | rfl
  · rw [show after = middle.emit id from delivered] at moves ⊢
    have hands := emit_hands placed
    obtain ⟨next, nextPlaced, sameQueued, sameDialog, transient⟩ := hands.placed
    have kind : next.queued = transaction.queued := by
      rw [sameQueued, DialogTransaction.queued, DialogTransaction.queued, queued]
    refine ⟨⟨next, nextPlaced, kind, sameDialog, transient⟩, ?_, ?_, moves⟩
    · intro other elsewhere
      exact (hands.others other elsewhere).trans (readied.others other elsewhere)
    · exact hands.queuedCt.trans readied.claimed.queuedCt
  · rw [show after = middle.modify id fun transaction => { transaction with waiting := true } from delivered]
      at moves ⊢
    refine ⟨?_, ?_, readied.claimed.queuedCt, moves⟩
    · dsimp only [modify]
      rw [List.getElem?_modify_eq, placed]
      refine ⟨_, rfl, ?_, rfl, ?_⟩
      · rw [DialogTransaction.queued, DialogTransaction.queued, queued]
      · dsimp only
        rw [initial]
        decide
    · intro other elsewhere
      rw [← readied.others other elsewhere]
      exact List.getElem?_modify_ne _ _ (Ne.symm elsewhere)

/-- A request that has been handed to its channel is pending when it is the last one of the dialog. -/
theorem Delivered.tracked {before middle after : Session}
    (tracked : ∀ other, before.occupies other = true → before.requestPending = true)
    (present : before.transactions[id]? = some transaction) (initial : transaction.state = .init)
    (readied : Readied before id transaction middle) (delivered : Delivered middle id outlet after)
    (sent : outlet = .ready ∨ outlet = .connecting) :
    ∀ other, after.occupies other = true → after.requestPending = true := by
  have hands := delivered.hands present initial readied sent
  obtain ⟨next, placed, _, sameDialog, transient, _⟩ := hands.placed
  have same : after.dialog = middle.dialog := by
    rcases sent with rfl | rfl
    · rw [show after = middle.emit id from delivered]
      exact middle.emit_dialog id
    · rw [show after = middle.modify id fun transaction => { transaction with waiting := true } from delivered]
      rfl
  intro other busy
  cases inside : transaction.inDialog with
  | true =>
      apply requestPending_last _ placed transient
      rw [same]
      exact (readied.claimed.claims inside).1
  | false =>
      have elsewhere : other ≠ id := by
        intro here
        rw [here, Session.occupies, placed] at busy
        simp [DialogTransaction.busy, sameDialog, inside] at busy
      rw [Session.occupies, hands.others other elsewhere] at busy
      have pending := tracked other busy
      unfold requestPending at pending ⊢
      rw [same, (readied.claimed.leaves inside).1]
      split at pending
      · cases pending
      · next last _ =>
          by_cases here : last = id
          · rw [here, placed]
            exact transient
          · rw [hands.others last here]
            exact pending

/-- A request that no channel takes ends, and no other one is busy. -/
theorem Delivered.failed {before middle after : Session} {entered sent more : List TransactionId}
    (kept : Kept before entered sent) (present : before.transactions[id]? = some transaction)
    (initial : transaction.state = .init) (readied : Readied before id transaction middle)
    (terminated : middle.terminate id = .ok after) (alone : transaction.inDialog = true → before.alone id = true) :
    Follows before entered sent more after := by
  obtain ⟨request, origin, placed, _⟩ := readied.placed
  have first := readied.quiet present
  have quiet := first.trans ((terminate_quiet middle id).elim terminated)
  cases inside : transaction.inDialog with
  | true =>
      have idle := (terminate_idle placed).elim terminated
      exact kept.follows quiet (tracked_of_idle (quiet.alone (alone inside)) idle) more
  | false =>
      apply kept.still quiet
      intro pending
      have waits := readied.pending present inside pending
      have elsewhere : middle.dialog.lastTransaction ≠ some id := by
        rw [(readied.claimed.leaves inside).1]
        exact kept.formed.outside present initial inside
      cases (terminate_ending placed).elim terminated with
      | ended ended => exact waits
      | silent alive other =>
          rw [finish, requestPending_modify_ne elsewhere]
          exact waits
      | updated after retransmission alive within unanswered ended =>
          rw [show transaction.inDialog = true from within] at inside
          cases inside

/-- A request that is sent directly is alone if it is queued, and overtakes none if it is not. -/
theorem Delivered.follows {session middle after : Session} {entered sent more : List TransactionId}
    (kept : Kept session entered sent) (present : session.transactions[id]? = some transaction)
    (initial : transaction.state = .init) (fit : outlet ≠ .badUris) (readied : Readied session id transaction middle)
    (delivered : Delivered middle id outlet after) (queued : transaction.queued = true → session.alone id = true ∧
      Handover (entered ++ more) session.dialog.queuedCt sent (· = id))
    (direct : transaction.queued = false → transaction.inDialog = true → session.overtakes id outlet = true) :
    Follows session entered sent more after := by
  have handed : outlet = .ready ∨ outlet = .connecting → Follows session entered sent more after := by
    intro goes
    apply kept.hand present initial (delivered.hands present initial readied goes)
      (delivered.tracked kept.tracked present initial readied goes) queued
    intro kind inside
    exact (Bool.and_eq_true_iff.mp (direct kind inside)).1
  cases outlet with
  | ready => exact handed (.inl rfl)
  | connecting => exact handed (.inr rfl)
  | noChannel =>
      apply Delivered.failed kept present initial readied delivered
      intro inside
      cases kind : transaction.queued with
      | true => exact (queued kind).1
      | false => simpa using (Bool.and_eq_true_iff.mp (direct kind inside)).2
  | badUris => exact absurd rfl fit

/-- A request waits behind others in the queue. -/
theorem Kept.enqueue (kept : Kept session entered sent) (present : session.transactions[id]? = some transaction)
    (queued : transaction.queued = true) : Follows session entered sent [id]
      { session with dialog := { session.dialog with queuedCt := session.dialog.queuedCt ++ [id] } } := by
  have nothing : departing session
      { session with dialog := { session.dialog with queuedCt := session.dialog.queuedCt ++ [id] } } = [] :=
    departing_nil fun other => leaves_same rfl
  have kind := Bool.and_eq_true_iff.mp queued
  have formed : Formed
      { session with dialog := { session.dialog with queuedCt := session.dialog.queuedCt ++ [id] } } := by
    refine ⟨kept.formed.formable, ?_, kept.formed.anchored, kept.formed.stopped⟩
    intro other among
    rcases List.mem_append.mp among with earlier | now
    · exact kept.formed.queued other earlier
    · rw [List.mem_singleton.mp now]
      exact ⟨transaction, present, kind.1, kind.2⟩
  unfold Follows
  rw [nothing, List.append_nil]
  exact ⟨⟨formed, kept.tracked, kept.alone, kept.handover.enqueue id, kept.left, kept.once⟩, by simp⟩

/-- A queued request that does not have to wait is alone. -/
theorem Kept.direct (kept : Kept session entered sent) (queued : transaction.queued = true)
    (direct : session.queues transaction = false) (untaken : transaction.sentByDialogQueue = false) :
    session.alone id = true ∧ Handover (entered ++ [id]) session.dialog.queuedCt sent (· = id) := by
  have kind := (Bool.and_eq_true_iff.mp queued).2
  simp only [queues, untaken, kind, Bool.not_false, Bool.true_and, Bool.or_eq_false_iff, Bool.not_eq_false',
    List.isEmpty_iff] at direct
  obtain ⟨idle, empty⟩ := direct
  have alone : session.alone id = true := by
    apply alone_iff.mpr
    intro other busy
    rw [kept.tracked other busy] at idle
    cases idle
  have handover := kept.handover
  rw [empty] at handover ⊢
  exact ⟨alone, (handover.pass id).mono fun other same => .inr same⟩

theorem sendRequest_follows (kept : Kept session entered sent)
    (turns : session.takesTurns (.sendRequest id outlet) = true) :
    OnReturn (session.sendRequest id outlet)
      (Follows session entered sent (session.entering (.sendRequest id outlet))) := by
  cases present : session.transactions[id]? with
  | none =>
      unfold sendRequest
      rw [present]
      exact Checked.onReturn_pure.mpr (kept.same _)
  | some transaction =>
      have silent : transaction.state = .init → transaction.lastResponse = none :=
        fun initial => ((kept.formed.formable id transaction present).unsent initial).2
      apply (sendRequest_attempt present silent outlet).mono
      intro after attempt
      cases attempt with
      | skipped unfit => exact kept.same _
      | queued initial fit waits =>
          have client := ((kept.formed.formable id transaction present).unsent initial).1
          simp only [queues, Bool.and_eq_true, Bool.not_eq_true'] at waits
          have kind : transaction.queued = true := by simp [DialogTransaction.queued, client, waits.1.2]
          have enters : session.entering (.sendRequest id outlet) = [id] := by
            simp [entering, present, kind, initial, fit, waits.1.1]
          rw [enters]
          exact kept.enqueue present kind
      | delivered middle after initial fit direct readied delivered =>
          simp only [takesTurns, present, Option.all_some, initial, fit, direct, ne_eq, not_true, decide_false,
            Bool.false_or] at turns
          apply Delivered.follows kept present initial fit readied delivered
          · intro kind
            rw [if_pos kind] at turns
            cases taken : transaction.sentByDialogQueue with
            | false =>
                have enters : session.entering (.sendRequest id outlet) = [id] := by
                  simp [entering, present, kind, initial, fit, taken]
                rw [enters]
                exact kept.direct kind direct taken
            | true =>
                have waiting : transaction.waiting = true := by simpa [taken] using turns
                have holds : session.holds id = true := by
                  simp [holds, present, DialogTransaction.held, kind, waiting, initial]
                refine ⟨kept.alone id holds, ?_⟩
                apply (kept.handover.enter _).mono
                intro other same
                rw [same]
                exact holds
          · intro kind inside
            simpa [kind, inside] using turns

/-- The sessions have the same unsent requests. -/
theorem Follows.back {before middle after : Session} {entered sent more : List TransactionId}
    (same : ∀ id : TransactionId, before.transactions[id]?.all (·.state = .init) =
      middle.transactions[id]?.all (·.state = .init))
    (follows : Follows middle entered sent more after) : Follows before entered sent more after := by
  have departed : departing before after = departing middle after := by
    apply List.filter_congr
    intro id _
    rw [Session.leaves, Session.leaves, same id]
  unfold Follows at follows ⊢
  rw [departed]
  exact follows

/-- The queue gives its first request away while no other one is busy. -/
theorem Kept.pop (kept : Kept session entered sent) (taken : session.dequeued = some id) :
    Kept (session.pop id) entered sent ∧ (session.pop id).alone id = true ∧
      Handover entered (session.pop id).dialog.queuedCt sent (· = id) := by
  have idle : session.requestPending = false := by
    unfold dequeued at taken
    split at taken
    · cases taken
    · next free =>
        simp only [Bool.or_eq_true, not_or, Bool.not_eq_true] at free
        exact free.1.2
  have first : session.dialog.queuedCt = id :: session.dialog.queuedCt.tail := by
    apply List.eq_cons_of_mem_head?
    unfold dequeued at taken
    split at taken
    · cases taken
    · exact taken
  have handover := kept.handover
  rw [first] at handover
  have shorter : Kept { session with dialog := { session.dialog with
      postponed := session.dialog.postponed - 1
      queuedCt := session.dialog.queuedCt.tail } } entered sent :=
    { formed := ⟨kept.formed.formable, fun other among => kept.formed.queued other (List.mem_of_mem_tail among),
        kept.formed.anchored, kept.formed.stopped⟩
      tracked := kept.tracked
      alone := kept.alone
      handover := handover.dequeue.mono fun other holds => .inl holds
      left := kept.left
      once := kept.once }
  have quiet : Quiet { session with dialog := { session.dialog with
      postponed := session.dialog.postponed - 1
      queuedCt := session.dialog.queuedCt.tail } } (session.pop id) := by
    apply Quiet.ofModify
    intro transaction _
    exact ⟨⟨rfl, rfl, rfl, .inl rfl, fun initial => ⟨initial, rfl⟩⟩, rfl, fun inside => inside, .inl,
      fun ended => ended, fun transient => transient⟩
  have nobody : ∀ other, session.occupies other = false := by
    intro other
    apply Bool.eq_false_iff.mpr
    intro busy
    rw [kept.tracked other busy] at idle
    cases idle
  have still : ∀ other, (session.pop id).occupies other = false := fun other => quiet.idle (nobody other)
  refine ⟨shorter.quiet quiet ?_, ?_, handover.dequeue.mono fun other same => .inr same⟩
  · intro other busy
    rw [still other] at busy
    cases busy
  · apply alone_iff.mpr
    intro other busy
    rw [still other] at busy
    cases busy

theorem processQueue_follows (kept : Kept session entered sent) (outlet : Outlet) :
    OnReturn (session.processQueue outlet) (Follows session entered sent []) := by
  rw [processQueue_eq]
  split
  · exact Checked.onReturn_pure.mpr (kept.same [])
  · split
    · have called : Quiet session
          { session with dialog := { session.dialog with postponed := session.dialog.postponed - 1 } } :=
        .ofDialog rfl rfl id id
      exact Checked.onReturn_pure.mpr (kept.still called (fun pending => pending) [])
    · next id taken =>
        obtain ⟨popped, alone, inTurn⟩ := kept.pop taken
        have marked : ∀ other : TransactionId, session.transactions[other]?.all (·.state = .init) =
            (session.pop id).transactions[other]?.all (·.state = .init) := by
          intro other
          simp only [pop, modify, List.getElem?_modify]
          cases session.transactions[other]? with
          | none => rfl
          | some row => by_cases here : id = other <;> simp [here]
        cases present : (session.pop id).transactions[id]? with
        | none =>
            unfold sendRequest
            rw [present]
            exact Checked.onReturn_pure.mpr ((popped.same []).back marked)
        | some transaction =>
            have mark : transaction.sentByDialogQueue = true := by
              cases found : session.transactions[id]? with
              | none => simp [pop, modify, found] at present
              | some row =>
                  simp only [pop, modify, List.getElem?_modify_eq, found] at present
                  rw [← Option.some.inj present]
            have unqueued : transaction.queued = true := by
              obtain ⟨row, found, client, queued⟩ : ∃ row, session.transactions[id]? = some row ∧
                  row.isClient = true ∧ row.request.dialogQueued = true := by
                apply kept.formed.queued id
                unfold dequeued at taken
                split at taken
                · cases taken
                · exact List.mem_of_mem_head? taken
              simp only [pop, modify, List.getElem?_modify_eq, found] at present
              rw [← Option.some.inj present]
              simp [DialogTransaction.queued, client, queued]
            have silent : transaction.state = .init → transaction.lastResponse = none :=
              fun initial => ((popped.formed.formable id transaction present).unsent initial).2
            apply (sendRequest_attempt present silent outlet).mono
            intro after attempt
            apply Follows.back marked
            cases attempt with
            | skipped unfit => exact popped.same []
            | queued initial fit waits => simp [queues, mark] at waits
            | delivered middle after initial fit direct readied delivered =>
                apply Delivered.follows popped present initial fit readied delivered
                · intro _
                  rw [List.append_nil]
                  exact ⟨alone, inTurn⟩
                · intro plain
                  rw [unqueued] at plain
                  cases plain

/-- A request that the dialog has created is added, and it is not busy. -/
theorem Kept.draw (kept : Kept session entered sent) {dialog : Dialog} {req : Request}
    (moved : Quiet session { session with dialog := dialog }) 
    (last : dialog.lastTransaction = session.dialog.lastTransaction) (unqueued : req.dialogQueued = false) :
    Follows session entered sent [] ({ session with dialog := dialog }.addDrawn req) := by
  apply kept.still (addDrawn_quiet moved unqueued)
  intro pending
  rw [← requestPending_dialog last] at pending
  exact requestPending_add { request := req, origin := .dialog session.drawn } pending

/-- The BYE of the dialog overtakes no queued request that waits for its channel. -/
theorem sendBye_follows (kept : Kept session entered sent) {dialog : Dialog} {bye : Request}
    (moved : Quiet session { session with dialog := dialog }) 
    (last : dialog.lastTransaction = session.dialog.lastTransaction) (unqueued : bye.dialogQueued = false)
    {outlet : Outlet} (overtakes : session.overtakes session.transactions.length outlet = true) :
    OnReturn (session.sendBye dialog bye outlet) (Follows session entered sent []) := by
  have quiet := addDrawn_quiet moved unqueued
  have drawn := (kept.draw moved last unqueued).1
  rw [departing_nil quiet.leaves, List.append_nil, List.append_nil] at drawn
  have present : ({ session with dialog := dialog }.addDrawn bye).transactions[session.transactions.length]? =
      some { request := bye, origin := .dialog session.drawn } := by
    simp [addDrawn, add]
  have unsent : ∀ other : TransactionId, session.transactions[other]?.all (·.state = .init) =
      ({ session with dialog := dialog }.addDrawn bye).transactions[other]?.all (·.state = .init) := by
    intro other
    simp only [addDrawn, add, List.getElem?_append]
    split
    · rfl
    · next beyond =>
        rw [List.getElem?_eq_none_iff.mpr (Nat.le_of_not_lt beyond)]
        cases other - session.transactions.length <;> rfl
  apply (sendRequest_attempt present (fun _ => rfl) outlet).mono
  intro after attempt
  apply Follows.back unsent
  cases attempt with
  | skipped unfit => exact drawn.same []
  | queued initial fit waits => simp [queues, unqueued] at waits
  | delivered middle after initial fit direct readied delivered =>
      apply Delivered.follows drawn present initial fit readied delivered
      · intro kind
        simp [DialogTransaction.queued, unqueued] at kind
      · intro _ _
        simp only [Session.overtakes, Bool.and_eq_true, Bool.or_eq_true, decide_eq_true_eq] at overtakes ⊢
        obtain ⟨free, goes⟩ := overtakes
        refine ⟨?_, goes.imp_right quiet.alone⟩
        apply free_iff.mpr
        intro other
        apply Bool.eq_false_iff.mpr
        intro waits
        have waited := quiet.holds waits
        rw [free_iff.mp free other] at waited
        cases waited

theorem checkAckSent_follows (kept : Kept session entered sent) (turns : session.takesTurns (.ackChecked outlet) = true)
    :
    OnReturn (session.checkAckSent outlet) (Follows session entered sent []) := by
  unfold checkAckSent Dialog.checkAckSent
  split
  · next needed =>
      have overtakes : session.overtakes session.transactions.length outlet = true := by
        simpa [takesTurns, needed] using turns
      simp only [Checked.onReturn_bind]
      apply (session.dialog.createRequest_kind _ "BYE").mono
      rintro ⟨dialog, req⟩ ⟨⟨schedule, call⟩, kind⟩
      apply Checked.onReturn_deref.mpr
      intro bye made
      exact sendBye_follows kept (.ofSchedule schedule call.ackWait) schedule.lastTransaction (kind bye made).2
        overtakes
  · exact Checked.onReturn_pure.mpr (kept.same [])

theorem on200OkEnd_follows (kept : Kept session entered sent)
    (turns : session.takesTurns (.timer200OkEnd outlet) = true) :
    OnReturn (session.on200OkEnd outlet) (Follows session entered sent []) := by
  unfold on200OkEnd Dialog.on200OkEnd
  split
  · next armed =>
      have overtakes : session.overtakes session.transactions.length outlet = true := by
        simpa [takesTurns, armed] using turns
      have stopped : Quiet session
          { session with dialog := { session.dialog.stop200OkRetrans with state := .confirmed } } :=
        .ofDialog rfl rfl nofun nofun
      simp only [Checked.onReturn_bind]
      apply (Dialog.createRequest_kind _ _ "BYE").mono
      rintro ⟨dialog, req⟩ ⟨⟨schedule, call⟩, kind⟩
      apply Checked.onReturn_deref.mpr
      intro bye made
      exact sendBye_follows kept (stopped.trans (.ofSchedule schedule call.ackWait)) schedule.lastTransaction
        (kind bye made).2 overtakes
  · exact Checked.onReturn_pure.mpr (kept.same [])

/-- A request that waits for its channel leaves when the channel is ready. -/
theorem channelReady_follows (kept : Kept session entered sent) (id : TransactionId) :
    Follows session entered sent [] (session.channelReady id) := by
  unfold channelReady
  split
  · next ready =>
      simp only [Option.any_eq_true, Bool.and_eq_true, decide_eq_true_eq] at ready
      obtain ⟨transaction, present, waiting, initial⟩ := ready
      have hands := emit_hands present
      obtain ⟨next, placed, _, sameDialog, transient, _⟩ := hands.placed
      have client := ((kept.formed.formable id transaction present).unsent initial).1
      have busy : transaction.inDialog = true → session.occupies id = true := by
        intro inside
        simp [occupies, present, DialogTransaction.busy, client, inside, waiting, initial,
          TransactionState.isTransient]
      apply kept.hand present initial hands
      · intro other occupied
        have pending : session.requestPending = true := by
          by_cases here : other = id
          · apply kept.tracked id
            apply busy
            rw [here, Session.occupies, placed] at occupied
            cases inside : transaction.inDialog with
            | true => rfl
            | false => simp [DialogTransaction.busy, sameDialog, inside] at occupied
          · rw [Session.occupies, hands.others other here] at occupied
            exact kept.tracked other occupied
        unfold requestPending at pending ⊢
        rw [session.emit_dialog id]
        split at pending
        · cases pending
        · next last _ =>
            by_cases here : last = id
            · rw [here, placed]
              exact transient
            · rw [hands.others last here]
              exact pending
      · intro kind
        have holds : session.holds id = true := by
          simp [holds, present, DialogTransaction.held, kind, waiting, initial]
        refine ⟨kept.alone id holds, ?_⟩
        apply (kept.handover.enter []).mono
        intro other same
        rw [same]
        exact holds
      · intro plain inside
        -- a queued request that waits would be alone, and this one is busy
        apply free_iff.mpr
        intro other
        apply Bool.eq_false_iff.mpr
        intro waits
        have same := alone_iff.mp (kept.alone other waits) id (busy inside)
        rw [← same, Session.holds, present] at waits
        simp [DialogTransaction.held, plain] at waits
  · exact kept.same []

theorem createRequest_follows (kept : Kept session entered sent) (method : String) :
    OnReturn (session.createRequest method) (Follows session entered sent []) := by
  apply Checked.onReturn_bind.mpr
  apply (session.dialog.createRequest_kind _ method).mono
  intro (dialog, req) ⟨⟨schedule, call⟩, kind⟩
  have moved : Quiet session { session with dialog := dialog } := .ofSchedule schedule call.ackWait
  have still : Follows session entered sent [] { session with dialog := dialog } := by
    apply kept.still moved
    intro pending
    rw [requestPending_dialog schedule.lastTransaction]
    exact pending
  cases req with
  | none => exact Checked.onReturn_pure.mpr still
  | some req =>
      dsimp only
      split
      · exact Checked.onReturn_pure.mpr still
      · exact Checked.onReturn_pure.mpr (kept.draw moved schedule.lastTransaction (kind req rfl).2)

theorem Adds.follows {session after : Session} (adds : Adds session after) (kept : Kept session entered sent) :
    Follows session entered sent [] after := by
  apply kept.still adds.quiet
  intro pending
  cases adds with
  | nothing => exact pending
  | added transaction unsent => exact requestPending_add transaction pending

theorem sendAck_follows (kept : Kept session entered sent) (ack : Request) :
    Follows session entered sent [] { session with dialog := session.dialog.sendAck ack } := by
  apply kept.still (sendAck_quiet session ack)
  intro pending
  rw [requestPending_dialog]
  · exact pending
  · unfold Dialog.sendAck
    split <;> rfl

theorem handleAck_follows (kept : Kept session entered sent) (ack : Request) :
    OnReturn (session.dialog.handleAck ack) fun (dialog, _) =>
      Follows session entered sent [] { session with dialog := dialog } := by
  unfold Dialog.handleAck
  split
  · apply Checked.onReturn_bind.mpr
    apply Checked.onReturn_deref.mpr
    intro cseq _
    split
    · apply Checked.onReturn_pure.mpr
      have quiet : Quiet session
          { session with dialog := { session.dialog with needsAck := false }.stop200OkRetrans.processQueue } :=
        .ofDialog rfl rfl id nofun
      exact kept.still quiet (fun pending => pending) []
    · exact Checked.onReturn_pure.mpr (kept.same [])
  · exact Checked.onReturn_pure.mpr (kept.same [])

/-- What an event that takes turns sends is sent alone and in order. -/
theorem handle_follows (kept : Kept session entered sent) {event : Event} (turns : session.takesTurns event = true) :
    OnReturn (session.handle event) (Follows session entered sent (session.entering event)) := by
  have added : ∀ {result : Checked Session}, OnReturn result (Adds session) →
      OnReturn result (Follows session entered sent []) := fun adds => adds.mono fun after new => new.follows kept
  cases event with
  | createRequest method => exact createRequest_follows kept method
  | createQueuedRequest method => exact added (createQueuedRequest_adds session method)
  | createAuthenticatedRequest id => exact added (createAuthenticatedRequest_adds session id)
  | createCancel id => exact added (createCancel_adds session id)
  | sendRequest id outlet => exact sendRequest_follows kept turns
  | channelReady id => exact Checked.onReturn_pure.mpr (channelReady_follows kept id)
  | processQueue outlet => exact processQueue_follows kept outlet
  | requestReceived req => exact added (requestReceived_adds session req)
  | responded id state resp => exact respond_follows kept turns
  | forked id =>
      apply Checked.onReturn_pure.mpr
      apply kept.still (fork_quiet session id)
      apply requestPending_modify
      intro transaction _ transient
      split <;> exact transient
  | rejoined id state resp => exact rejoin_follows kept turns
  | responseRefused id => exact responseRefused_follows kept turns
  | terminated id => exact terminate_follows kept turns
  | ackSent ack => exact Checked.onReturn_pure.mpr (sendAck_follows kept ack)
  | ackReceived ack =>
      apply Checked.onReturn_bind.mpr
      apply (handleAck_follows kept ack).mono
      intro (dialog, _) follows
      exact Checked.onReturn_pure.mpr follows
  | ackChecked outlet => exact checkAckSent_follows kept turns
  | timer200OkEnd outlet => exact on200OkEnd_follows kept turns
  | terminateOnBye value =>
      have quiet : Quiet session { session with dialog := { session.dialog with terminateOnBye := value } } :=
        .ofDialog rfl rfl id id
      exact Checked.onReturn_pure.mpr (kept.still quiet (fun pending => pending) [])
  | deleted => exact delete_follows kept turns

theorem step_follows (kept : Kept session entered sent) {event : Event} (turns : session.takesTurns event = true) :
    Follows session entered sent (session.entering event) (session.step event) := by
  unfold step
  split
  · exact kept.same _
  · have follows := handle_follows kept turns
    cases handled : session.handle event with
    | ok after => exact follows.elim handled
    | error fault =>
        have halted : Quiet session { session with halted := true } :=
          ⟨.refl DialogTransaction.Slack.refl _, .inl rfl, fun formed => formed.anchored, fun stopped => stopped⟩
        exact kept.still halted (fun pending => pending) _

theorem Ledger.step_kept {ledger : Ledger} (kept : Kept ledger.session ledger.entered ledger.sent)
    (separate : ledger.overlapping = []) {event : Event} (turns : ledger.session.takesTurns event = true) :
    Kept (ledger.step event).session (ledger.step event).entered (ledger.step event).sent ∧
      (ledger.step event).overlapping = [] := by
  obtain ⟨next, alone⟩ := step_follows kept turns
  refine ⟨next, ?_⟩
  dsimp only [Ledger.step]
  rw [separate, List.nil_append, List.filter_eq_nil_iff]
  intro id among
  simp [alone id among]

/-- A created dialog has sent no queued request. -/
theorem Created.kept {initial : DialogTransaction} (created : Created session initial)
    (unqueued : initial.request.dialogQueued = false) : Kept session [] [] := by
  have first : ∀ {id : TransactionId} {transaction : DialogTransaction},
      session.transactions[id]? = some transaction → transaction = initial := by
    intro id transaction present
    rw [created.only] at present
    exact List.mem_singleton.mp (List.mem_of_getElem? present)
  have quiet : ∀ id, ¬session.holds id = true := by
    intro id waits
    obtain ⟨transaction, present, held⟩ := holds_iff.mp waits
    rw [first present] at held
    simp [DialogTransaction.held, DialogTransaction.queued, unqueued] at held
  refine ⟨created.formed, ?_, fun id waits => absurd waits (quiet id), ?_, nofun, List.nodup_nil⟩
  · intro id occupied
    obtain ⟨transaction, present, busy⟩ := occupies_iff.mp occupied
    rw [first present] at busy
    rcases created.last with ⟨_, idle⟩ | ⟨last, _⟩
    · rw [idle] at busy
      cases busy
    · simp only [DialogTransaction.busy, Bool.and_eq_true] at busy
      exact requestPending_last last (by rw [created.only]; rfl) busy.2
  · rw [created.queuedCt]
    exact .nil _ quiet

/-- In every run whose events take turns, the queued requests are sent in order, once, and one at a time. -/
theorem run_fifo {session : Session} {initial : DialogTransaction} (created : Created session initial)
    (unqueued : initial.request.dialogQueued = false) {events : List Event}
    (turns : Machine.Along Ledger.step (fun ledger event => ledger.session.takesTurns event = true)
      { session := session } events) : (Machine.run Ledger.step { session := session } events).Fifo := by
  have preserved : ∀ (ledger : Ledger) (event : Event),
      Kept ledger.session ledger.entered ledger.sent ∧ ledger.overlapping = [] →
        ledger.session.takesTurns event = true →
          Kept (ledger.step event).session (ledger.step event).entered (ledger.step event).sent ∧
            (ledger.step event).overlapping = [] :=
    fun ledger event kept turns => Ledger.step_kept kept.1 kept.2 turns
  obtain ⟨kept, separate⟩ := Machine.run_invariant preserved ⟨created.kept unqueued, rfl⟩ turns
  exact ⟨kept.once, kept.handover.ordered, separate⟩

/-- An INFO waits behind a re-INVITE and is sent after the ACK. -/
theorem run_fifo_info :
    (Machine.run Ledger.step { session := establishedCall }
      [.createRequest "INVITE", .sendRequest 1 .ready, .createQueuedRequest "INFO", .sendRequest 2 .ready,
        .responded 1 .accepted (Dialog.okResponse "INVITE" 21), .ackSent (Dialog.peerRequest "ACK" 21),
        .processQueue .ready, .processQueue .ready]).Fifo :=
  run_fifo establishedCall_created rfl (by decide)

/-- An INFO waits behind a re-INVITE, and the peer sends an INFO of its own, which is answered. -/
def crossedInfo : List Event :=
  [.createRequest "INVITE", .sendRequest 1 .ready, .processQueue .ready, .createQueuedRequest "INFO",
    .sendRequest 2 .ready, .requestReceived (Dialog.peerRequest "INFO" 30),
    .responded 3 .completed (Dialog.okResponse "INFO" 30), .processQueue .ready]

/-- The queued INFO is sent while the re-INVITE has no answer. -/
theorem not_fifo_crossed :
    Created establishedCall { request := Dialog.peerRequest "INVITE" 20, state := .terminated, origin := .dialog 0 } ∧
      (Machine.run Ledger.step { session := establishedCall } crossedInfo).sent = [2] ∧
        ¬(Machine.run Ledger.step { session := establishedCall } crossedInfo).Fifo := by
  refine ⟨establishedCall_created, by decide, ?_⟩
  intro fifo
  have separate := fifo.separate
  revert separate
  decide

end Session

end BelleSip
