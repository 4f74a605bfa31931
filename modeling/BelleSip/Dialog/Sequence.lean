import Mathlib.Data.List.Basic
import BelleSip.Foundation.Machine
import BelleSip.Dialog.Ack
import BelleSip.Dialog.Session

/-
This file proves when the requests of a dialog carry increasing CSeq numbers.
-/

namespace BelleSip

open Foundation
open Foundation.Checked (OnReturn)

namespace Dialog

/-- The number that the dialog counts up stays, and an established dialog stays established. -/
structure SameNumber (before after : Dialog) : Prop where
  localCseq : after.localCseq = before.localCseq
  state : before.state ≠ .null → after.state ≠ .null

namespace SameNumber

theorem refl (dialog : Dialog) : SameNumber dialog dialog := ⟨rfl, id⟩

theorem trans {first second third : Dialog} (before : SameNumber first second)
    (after : SameNumber second third) : SameNumber first third :=
  ⟨after.localCseq.trans before.localCseq, after.state ∘ before.state⟩

end SameNumber

theorem setToTag_same (dialog : Dialog) (toHeader : Option TaggedAddress) :
    OnReturn (dialog.setToTag toHeader) (SameNumber dialog) := by
  unfold setToTag
  cases toHeader with
  | none => simp [Checked.deref]
  | some header => cases dialog.isServer <;> exact Checked.onReturn_pure.mpr ⟨rfl, id⟩

theorem SameNumber.confirm {before after : Dialog} (same : SameNumber before after) :
    SameNumber before (after.setState .confirmed) :=
  ⟨same.localCseq, fun _ => by simp [setState]⟩

theorem establishFull_same (dialog : Dialog) (req : Request) (resp : Response) :
    OnReturn (dialog.establishFull req resp) fun (after, _) => SameNumber dialog after := by
  have confirmed : ∀ middle, SameNumber dialog middle →
      OnReturn (middle.setToTag resp.toHeader >>= fun tagged => pure (tagged.setState .confirmed, true))
        fun (after, _) => SameNumber dialog after := by
    intro middle same
    apply Checked.onReturn_bind.mpr
    apply (setToTag_same middle resp.toHeader).mono
    intro after tagged
    exact Checked.onReturn_pure.mpr (same.trans tagged).confirm
  have marked : SameNumber dialog
      (if req.method = "INVITE" then { dialog with needsAck := true } else dialog) := by
    split <;> exact ⟨rfl, id⟩
  unfold establishFull
  dsimp only
  generalize (if req.method = "INVITE" then { dialog with needsAck := true } else dialog) = middle at marked ⊢
  split
  · apply confirmed
    split <;> exact ⟨marked.localCseq, marked.state⟩
  · split
    · exact Checked.onReturn_pure.mpr marked
    · exact confirmed _ ⟨marked.localCseq, marked.state⟩

theorem updateEarly_same (dialog : Dialog) (req : Request) (resp : Response) :
    OnReturn (dialog.updateEarly req resp) fun (after, _) => SameNumber dialog after := by
  unfold updateEarly
  split
  · exact Checked.onReturn_pure.mpr (SameNumber.refl dialog)
  · split
    · apply Checked.onReturn_bind.mpr
      apply (establishFull_same dialog req resp).mono
      intro (after, success) same
      exact Checked.onReturn_pure.mpr same
    · exact Checked.onReturn_pure.mpr (SameNumber.refl dialog)

theorem refreshTarget_same (dialog : Dialog) (contact : Option HeaderAddress) :
    OnReturn (dialog.refreshTarget contact) (SameNumber dialog) := by
  cases contact with
  | none => exact Checked.onReturn_pure.mpr (SameNumber.refl dialog)
  | some contact =>
      unfold refreshTarget
      simp only [Checked.onReturn_bind, Checked.onReturn_deref, Checked.onReturn_pure]
      intro _ _
      exact ⟨rfl, id⟩

theorem updateReinvite_same (dialog : Dialog) (req : Request) (resp : Response) (asUas : Bool) :
    OnReturn (dialog.updateReinvite req resp asUas) fun (after, _) => SameNumber dialog after := by
  unfold updateReinvite
  split
  · have marked : SameNumber dialog (if asUas then dialog else dialog.setLastOutInvite req) := by
      split <;> exact ⟨rfl, id⟩
    apply Checked.onReturn_bind.mpr
    apply (refreshTarget_same _ _).mono
    intro refreshed same
    apply Checked.onReturn_bind.mpr
    generalize refreshed.retransmits resp asUas = retransmission
    cases retransmission with
    | error fault => trivial
    | ok retransmission =>
        have kept := marked.trans same
        apply Checked.onReturn_ok.mpr
        cases retransmission with
        | true => exact Checked.onReturn_pure.mpr kept
        | false => exact Checked.onReturn_pure.mpr ⟨kept.localCseq, kept.state⟩
  · split <;> exact Checked.onReturn_pure.mpr ⟨rfl, id⟩

theorem updateState_same {dialog : Dialog} (alive : dialog.state ≠ .null) (req : Request)
    (resp : Option Response) (terminated asUas : Bool) :
    OnReturn (dialog.updateState req resp terminated asUas) fun (after, _) => SameNumber dialog after := by
  unfold updateState
  split
  · exact absurd (by assumption) alive
  · exact updateEarly_same dialog req _
  · split
    · exact updateReinvite_same dialog req _ asUas
    · split <;> exact Checked.onReturn_pure.mpr ⟨rfl, id⟩
  · split <;> exact Checked.onReturn_pure.mpr ⟨rfl, id⟩
  · exact Checked.onReturn_pure.mpr (SameNumber.refl dialog)

theorem settle_same (dialog : Dialog) (verdict : Verdict) : SameNumber dialog (dialog.settle verdict).1 := by
  cases verdict with
  | keep => exact ⟨rfl, id⟩
  | delete => exact ⟨rfl, fun _ => by simp [settle, delete, setState]⟩
  | retransmission => exact SameNumber.refl dialog

theorem touch_same (dialog : Dialog) (transaction : TransactionId) (req : Request) (asUas : Bool) :
    OnReturn (dialog.touch transaction req asUas) (SameNumber dialog) := by
  unfold touch
  cases asUas with
  | true =>
      simp only [if_true, Checked.onReturn_bind, Checked.onReturn_deref, Checked.onReturn_pure]
      intro _ _
      exact ⟨rfl, id⟩
  | false => exact Checked.onReturn_pure.mpr ⟨rfl, id⟩

/-- No update of an established dialog touches the number that it counts up. -/
theorem update_same {dialog : Dialog} (alive : dialog.state ≠ .null) (transaction : TransactionId)
    (req : Request) (resp : Option Response) (terminated asUas : Bool) :
    OnReturn (dialog.update transaction req resp terminated asUas) fun (after, _) =>
      SameNumber dialog after := by
  apply Checked.onReturn_bind.mpr
  apply (touch_same dialog transaction req asUas).mono
  intro touched first
  apply Checked.onReturn_bind.mpr
  apply (updateState_same (first.state alive) req resp terminated asUas).mono
  intro (moved, verdict) second
  apply Checked.onReturn_pure.mpr
  exact first.trans (second.trans (settle_same moved verdict))

theorem delete_same (dialog : Dialog) : SameNumber dialog dialog.delete :=
  ⟨rfl, fun _ => by simp [delete, setState]⟩

theorem sendAck_same (dialog : Dialog) (ack : Request) : SameNumber dialog (dialog.sendAck ack) := by
  unfold sendAck
  split <;> exact ⟨rfl, id⟩

theorem handleAck_same (dialog : Dialog) (ack : Request) :
    OnReturn (dialog.handleAck ack) fun (after, _) => SameNumber dialog after := by
  unfold handleAck
  split
  · simp only [Checked.onReturn_bind, Checked.onReturn_deref]
    intro cseq _
    split <;> exact Checked.onReturn_pure.mpr ⟨rfl, id⟩
  · exact Checked.onReturn_pure.mpr (SameNumber.refl dialog)

end Dialog

/-- A transaction keeps its method, number, and origin, and never returns to its initial state. -/
structure DialogTransaction.Same (before after : DialogTransaction) : Prop where
  method : after.request.method = before.request.method
  seqNumber : after.seqNumber = before.seqNumber
  origin : after.origin = before.origin
  left : before.state ≠ .init → after.state ≠ .init

namespace Session

/-- The numbers of the transactions and of the requests sent stay, and the dialog never counts down. -/
structure Keeps (before after : Session) : Prop where
  localCseq : before.dialog.localCseq ≤ after.dialog.localCseq
  alive : before.dialog.state ≠ .null → after.dialog.state ≠ .null
  transactions : ∀ id : TransactionId, Option.Rel DialogTransaction.Same before.transactions[id]?
    after.transactions[id]?
  drawn : after.drawn = before.drawn
  emissions : after.emissions = before.emissions

theorem same_refl (transaction : DialogTransaction) : transaction.Same transaction := ⟨rfl, rfl, rfl, id⟩

theorem rel_refl : ∀ transaction : Option DialogTransaction,
    Option.Rel DialogTransaction.Same transaction transaction
  | none => .none
  | some transaction => .some (same_refl transaction)

namespace Keeps

theorem refl (session : Session) : Keeps session session :=
  ⟨Nat.le_refl _, id, fun _ => rel_refl _, rfl, rfl⟩

theorem trans {first second third : Session} (before : Keeps first second) (after : Keeps second third) :
    Keeps first third where
  localCseq := Nat.le_trans before.localCseq after.localCseq
  alive := after.alive ∘ before.alive
  transactions := by
    intro id
    have one := before.transactions id
    have two := after.transactions id
    generalize first.transactions[id]? = a at one
    generalize second.transactions[id]? = b at one two
    generalize third.transactions[id]? = c at two
    cases one with
    | none =>
        cases two with
        | none => exact .none
    | some same =>
        cases two with
        | some again =>
            exact .some ⟨again.method.trans same.method, again.seqNumber.trans same.seqNumber,
                again.origin.trans same.origin,
              again.left ∘ same.left⟩
  drawn := after.drawn.trans before.drawn
  emissions := after.emissions.trans before.emissions

/-- A change of the dialog alone. -/
theorem ofDialog {session : Session} {dialog : Dialog} (same : Dialog.SameNumber session.dialog dialog) :
    Keeps session { session with dialog := dialog } :=
  ⟨Nat.le_of_eq same.localCseq.symm, same.state, fun _ => rel_refl _, rfl, rfl⟩

/-- A change of one transaction that keeps its number and its origin. -/
theorem ofModify {session : Session} {id : TransactionId} {change : DialogTransaction → DialogTransaction}
    (same : ∀ transaction, session.transactions[id]? = some transaction →
      transaction.Same (change transaction)) : Keeps session (session.modify id change) where
  localCseq := Nat.le_refl _
  alive := fun alive => alive
  transactions := by
    intro other
    show Option.Rel _ _ (session.transactions.modify id change)[other]?
    rw [List.getElem?_modify]
    cases present : session.transactions[other]? with
    | none => exact .none
    | some transaction =>
        apply Option.Rel.some
        by_cases here : id = other
        · subst here
          simpa using same transaction present
        · simpa [here] using same_refl transaction
  drawn := rfl
  emissions := rfl

end Keeps

variable {session : Session}

theorem updateBy_keeps (alive : session.dialog.state ≠ .null) (id : TransactionId) (transaction : DialogTransaction)
    (asUas : Bool) :
    OnReturn (session.updateBy id transaction asUas) fun (after, _) => Keeps session after := by
  apply Checked.onReturn_bind.mpr
  apply (Dialog.update_same alive _ _ _ _ _).mono
  intro (dialog, retransmission) same
  exact Checked.onReturn_pure.mpr (Keeps.ofDialog same)

theorem leave_same (transaction : DialogTransaction) {state : TransactionState} (left : state ≠ .init) :
    transaction.Same { transaction with state := state } := ⟨rfl, rfl, rfl, fun _ => left⟩

theorem abort_keeps (alive : session.dialog.state ≠ .null) (id : TransactionId) :
    OnReturn (session.abort id) (Keeps session) := by
  unfold abort
  split
  · exact Checked.onReturn_pure.mpr (Keeps.refl session)
  · next transaction _ =>
      split
      · exact Checked.onReturn_pure.mpr (Keeps.refl session)
      · have left : Keeps session
            (session.modify id fun transaction => { transaction with state := .terminated }) :=
          Keeps.ofModify fun transaction _ => leave_same transaction (by decide)
        split
        · apply Checked.onReturn_bind.mpr
          apply (updateBy_keeps (left.alive alive) id _ false).mono
          intro (after, _) updated
          exact Checked.onReturn_pure.mpr (left.trans updated)
        · exact Checked.onReturn_pure.mpr left

theorem abortAll_keeps (alive : session.dialog.state ≠ .null) (queued : List TransactionId) :
    OnReturn (session.abortAll queued) (Keeps session) := by
  induction queued generalizing session with
  | nil => exact Checked.onReturn_pure.mpr (Keeps.refl session)
  | cons id rest ih =>
      apply Checked.onReturn_bind.mpr
      apply (abort_keeps alive id).mono
      intro aborted first
      apply (ih (first.alive alive)).mono
      intro after second
      exact first.trans second

theorem updateDialog_keeps (alive : session.dialog.state ≠ .null) (id : TransactionId) (asUas : Bool) :
    OnReturn (session.updateDialog id asUas) fun (after, _) => Keeps session after := by
  unfold updateDialog
  split
  · exact Checked.onReturn_pure.mpr (Keeps.refl session)
  · apply Checked.onReturn_bind.mpr
    apply (updateBy_keeps alive id _ asUas).mono
    intro (updated, retransmission) first
    dsimp only
    split
    · exact Checked.onReturn_pure.mpr first
    · apply Checked.onReturn_bind.mpr
      apply (abortAll_keeps (first.alive alive) _).mono
      intro after second
      exact Checked.onReturn_pure.mpr (first.trans second)

theorem delete_keeps (alive : session.dialog.state ≠ .null) :
    OnReturn session.delete (Keeps session) := by
  have deleted : Keeps session { session with dialog := session.dialog.delete } :=
    Keeps.ofDialog session.dialog.delete_same
  apply (abortAll_keeps (deleted.alive alive) session.dialog.queuedCt).mono
  intro after aborted
  exact deleted.trans aborted

theorem terminate_keeps (alive : session.dialog.state ≠ .null) (id : TransactionId) :
    OnReturn (session.terminate id) (Keeps session) := by
  unfold terminate
  split
  · exact Checked.onReturn_pure.mpr (Keeps.refl session)
  · split
    · exact Checked.onReturn_pure.mpr (Keeps.refl session)
    · have left : Keeps session
          (session.modify id fun transaction => { transaction with state := .terminated }) :=
        Keeps.ofModify fun transaction _ => leave_same transaction (by decide)
      split
      · apply Checked.onReturn_bind.mpr
        apply (updateDialog_keeps (left.alive alive) id _).mono
        intro (after, _) updated
        exact Checked.onReturn_pure.mpr (left.trans updated)
      · exact Checked.onReturn_pure.mpr left

theorem respond_keeps (alive : session.dialog.state ≠ .null) (id : TransactionId) (state : TransactionState)
    (resp : Response) : OnReturn (session.respond id state resp) (Keeps session) := by
  unfold respond
  split
  · exact Checked.onReturn_pure.mpr (Keeps.refl session)
  · split
    · exact Checked.onReturn_pure.mpr (Keeps.refl session)
    · next transaction _ unmoved =>
        have left : Keeps session (session.modify id fun transaction =>
            { transaction with state := state, lastResponse := some resp }) :=
          Keeps.ofModify fun transaction _ => ⟨rfl, rfl, rfl, fun _ => by simp [excludes] at unmoved; tauto⟩
        have updated : ∀ asUas : Bool, OnReturn
            ((session.modify id fun transaction =>
              { transaction with state := state, lastResponse := some resp }).updateDialog id asUas >>=
                fun result => pure result.1) (Keeps session) := by
          intro asUas
          apply Checked.onReturn_bind.mpr
          apply (updateDialog_keeps (left.alive alive) id asUas).mono
          intro (after, _) moved
          exact Checked.onReturn_pure.mpr (left.trans moved)
        dsimp only
        split
        · exact Checked.onReturn_pure.mpr left
        · split
          · apply Checked.onReturn_bind.mpr
            generalize Dialog.matchMessage _ _ _ = matched
            cases matched with
            | error fault => trivial
            | ok found =>
                apply Checked.onReturn_ok.mpr
                cases found with
                | true => exact updated false
                | false => exact Checked.onReturn_pure.mpr left
          · exact updated _

theorem rejoin_keeps (alive : session.dialog.state ≠ .null) (id : TransactionId) (state : TransactionState)
    (resp : Response) : OnReturn (session.rejoin id state resp) (Keeps session) := by
  unfold rejoin
  split
  · exact Checked.onReturn_pure.mpr (Keeps.refl session)
  · split
    · exact Checked.onReturn_pure.mpr (Keeps.refl session)
    · next transaction _ unmoved =>
        have left : Keeps session (session.modify id fun transaction =>
            { transaction with state := state, lastResponse := some resp }) :=
          Keeps.ofModify fun transaction _ => ⟨rfl, rfl, rfl, fun _ => by simp [excludes] at unmoved; tauto⟩
        split
        · apply Checked.onReturn_bind.mpr
          generalize Dialog.matchMessage _ _ _ = matched
          cases matched with
          | error fault => trivial
          | ok found =>
              apply Checked.onReturn_ok.mpr
              cases found with
              | true =>
                  apply Checked.onReturn_bind.mpr
                  apply (updateDialog_keeps (left.alive alive) id false).mono
                  intro (after, _) moved
                  exact Checked.onReturn_pure.mpr (left.trans moved)
              | false => exact Checked.onReturn_pure.mpr (Keeps.refl session)
        · exact Checked.onReturn_pure.mpr (Keeps.refl session)

/-- The numbers of the requests sent increase strictly, so none is used twice. -/
def Increasing (session : Session) : Prop :=
  session.emissions.Pairwise fun earlier later => earlier.seqNumber < later.seqNumber

/-- No authenticated resubmission has been sent. -/
def unchallenged (session : Session) : Bool :=
  session.emissions.all fun emission => match emission.origin with | .dialog _ => true | _ => false

/-- A request with a number of the dialog is sent in the order in which the numbers were drawn and before
any authenticated resubmission; a resubmission repeats the last request sent. -/
def inOrder (session : Session) (transaction : DialogTransaction) : Bool :=
  match transaction.origin with
  | .dialog rank => session.emissions.all fun emission =>
      match emission.origin with | .dialog earlier => earlier < rank | _ => false
  | .challenge challenged => session.emissions.getLast?.any fun last => last.transaction = challenged
  | _ => false

/-- The condition on a request that is about to be sent. -/
def mayEmit (session : Session) (transaction : DialogTransaction) : Bool :=
  transaction.request.method = "CANCEL" ||
    if drawsNow transaction then session.unchallenged else session.inOrder transaction

/-- The condition on an event under which the numbers keep increasing. -/
def orderly (session : Session) : Event → Bool
  | .sendRequest id .ready => session.transactions[id]?.all fun transaction =>
      transaction.state ≠ .init || session.queues transaction || session.mayEmit transaction
  | .channelReady id => session.transactions[id]?.all fun transaction =>
      !transaction.waiting || transaction.state ≠ .init || transaction.request.method = "CANCEL" ||
        session.inOrder transaction
  | .processQueue .ready => session.dialog.postponed = 0 || session.dequeued.all fun id =>
      session.transactions[id]?.all fun transaction =>
        transaction.state ≠ .init || transaction.request.method = "CANCEL" || session.unchallenged
  | .ackChecked .ready => !session.dialog.needsAck || session.unchallenged
  | .timer200OkEnd .ready => !session.dialog.timer200OkEnd || session.unchallenged
  | _ => true

/-- No number is about to pass the end of an `unsigned int`. -/
def bounded (session : Session) : Event → Bool
  | .createAuthenticatedRequest id =>
      session.transactions[id]?.all fun transaction => transaction.seqNumber + 1 < UInt32.size
  | _ => session.dialog.localCseq + 1 < UInt32.size

/-- What the numbers of a session satisfy as long as the requests are sent in order. -/
structure Numbered (session : Session) : Prop where
  alive : session.dialog.state ≠ .null
  increasing : session.Increasing
  recorded : ∀ emission ∈ session.emissions, ∃ transaction,
    session.transactions[emission.transaction]? = some transaction ∧ transaction.state ≠ .init ∧
      transaction.seqNumber = emission.seqNumber ∧ transaction.origin = emission.origin
  drawn : ∀ (id : TransactionId) (transaction : DialogTransaction) (rank : Nat),
    session.transactions[id]? = some transaction → transaction.origin = .dialog rank →
      rank < session.drawn ∧ transaction.seqNumber ≤ session.dialog.localCseq
  ranked : ∀ (first second : TransactionId) (lower higher : DialogTransaction) (rank above : Nat),
    session.transactions[first]? = some lower → session.transactions[second]? = some higher →
      lower.origin = .dialog rank → higher.origin = .dialog above → rank < above →
        lower.seqNumber < higher.seqNumber
  resubmitted : ∀ (id challenged : TransactionId) (transaction : DialogTransaction),
    session.transactions[id]? = some transaction → transaction.origin = .challenge challenged →
      ∃ before, session.transactions[challenged]? = some before ∧ before.state ≠ .init ∧
        transaction.seqNumber = before.seqNumber + 1
  noAck : ∀ (id : TransactionId) (transaction : DialogTransaction),
    session.transactions[id]? = some transaction → transaction.request.method ≠ "ACK"

namespace Keeps

variable {before after : Session}

theorem forward (keeps : Keeps before after) {id : TransactionId} {old : DialogTransaction}
    (present : before.transactions[id]? = some old) :
    ∃ new, after.transactions[id]? = some new ∧ old.Same new := by
  have related := keeps.transactions id
  rw [present] at related
  cases found : after.transactions[id]? with
  | none => rw [found] at related; cases related
  | some new =>
      rw [found] at related
      cases related with
      | some same => exact ⟨new, rfl, same⟩

theorem backward (keeps : Keeps before after) {id : TransactionId} {new : DialogTransaction}
    (present : after.transactions[id]? = some new) :
    ∃ old, before.transactions[id]? = some old ∧ old.Same new := by
  have related := keeps.transactions id
  rw [present] at related
  cases found : before.transactions[id]? with
  | none => rw [found] at related; cases related
  | some old =>
      rw [found] at related
      cases related with
      | some same => exact ⟨old, rfl, same⟩

/-- A change that keeps the numbers keeps what they satisfy. -/
theorem numbered (keeps : Keeps before after) (numbered : Numbered before) : Numbered after where
  alive := keeps.alive numbered.alive
  increasing := by
    rw [Increasing, keeps.emissions]
    exact numbered.increasing
  recorded := by
    intro emission sent
    rw [keeps.emissions] at sent
    obtain ⟨old, present, left, seqNumber, origin⟩ := numbered.recorded emission sent
    obtain ⟨new, found, same⟩ := keeps.forward present
    exact ⟨new, found, same.left left, same.seqNumber.trans seqNumber, same.origin.trans origin⟩
  drawn := by
    intro id new rank present origin
    obtain ⟨old, found, same⟩ := keeps.backward present
    obtain ⟨below, small⟩ := numbered.drawn id old rank found (same.origin ▸ origin)
    rw [keeps.drawn, same.seqNumber]
    exact ⟨below, Nat.le_trans small keeps.localCseq⟩
  ranked := by
    intro first second lower higher rank above firstPresent secondPresent lowerOrigin higherOrigin less
    obtain ⟨oldLower, foundLower, sameLower⟩ := keeps.backward firstPresent
    obtain ⟨oldHigher, foundHigher, sameHigher⟩ := keeps.backward secondPresent
    rw [sameLower.seqNumber, sameHigher.seqNumber]
    exact numbered.ranked first second oldLower oldHigher rank above foundLower foundHigher
      (sameLower.origin ▸ lowerOrigin) (sameHigher.origin ▸ higherOrigin) less
  resubmitted := by
    intro id challenged new present origin
    obtain ⟨old, found, same⟩ := keeps.backward present
    obtain ⟨target, targetPresent, left, seqNumber⟩ :=
      numbered.resubmitted id challenged old found (same.origin ▸ origin)
    obtain ⟨kept, keptPresent, keptSame⟩ := keeps.forward targetPresent
    refine ⟨kept, keptPresent, keptSame.left left, ?_⟩
    rw [same.seqNumber, keptSame.seqNumber, seqNumber]
  noAck := by
    intro id new present
    obtain ⟨old, found, same⟩ := keeps.backward present
    rw [same.method]
    exact numbered.noAck id old found

end Keeps

/-- A transaction is added, or replaces one that has sent nothing yet. -/
structure Placed (before after : Session) (id : TransactionId) (transaction : DialogTransaction) : Prop where
  others : ∀ other : TransactionId, other ≠ id → after.transactions[other]? = before.transactions[other]?
  placed : after.transactions[id]? = some transaction
  free : ∀ old, before.transactions[id]? = some old → old.state = .init
  emissions : after.emissions = before.emissions
  alive : after.dialog.state ≠ .null
  noAck : transaction.request.method ≠ "ACK"

namespace Placed

variable {before after : Session} {id : TransactionId} {transaction : DialogTransaction}

/-- A transaction that has left its initial state is still there. -/
theorem still (placed : Placed before after id transaction) {other : TransactionId}
    {old : DialogTransaction} (present : before.transactions[other]? = some old) (left : old.state ≠ .init) :
    after.transactions[other]? = some old := by
  have elsewhere : other ≠ id := by
    intro same
    subst same
    exact left (placed.free old present)
  rw [placed.others other elsewhere]
  exact present

/-- A transaction is the new one or was there before. -/
theorem origins (placed : Placed before after id transaction) {other : TransactionId}
    {new : DialogTransaction} (present : after.transactions[other]? = some new) :
    new = transaction ∨ before.transactions[other]? = some new := by
  by_cases here : other = id
  · subst here
    rw [placed.placed] at present
    exact Or.inl (Option.some.inj present).symm
  · rw [placed.others other here] at present
    exact Or.inr present

theorem recorded (placed : Placed before after id transaction) (numbered : Numbered before)
    {emission : Emission} (sent : emission ∈ after.emissions) :
    ∃ transaction, after.transactions[emission.transaction]? = some transaction ∧
      transaction.state ≠ .init ∧ transaction.seqNumber = emission.seqNumber ∧
        transaction.origin = emission.origin := by
  rw [placed.emissions] at sent
  obtain ⟨old, present, left, rest⟩ := numbered.recorded emission sent
  exact ⟨old, placed.still present left, left, rest⟩

theorem resubmitted (placed : Placed before after id transaction) (numbered : Numbered before)
    {other challenged : TransactionId} {old : DialogTransaction}
    (present : before.transactions[other]? = some old) (origin : old.origin = .challenge challenged) :
    ∃ target, after.transactions[challenged]? = some target ∧ target.state ≠ .init ∧
      old.seqNumber = target.seqNumber + 1 := by
  obtain ⟨target, found, left, seqNumber⟩ := numbered.resubmitted other challenged old present origin
  exact ⟨target, placed.still found left, left, seqNumber⟩

theorem noAcks (placed : Placed before after id transaction) (numbered : Numbered before)
    (other : TransactionId) (new : DialogTransaction) (present : after.transactions[other]? = some new) :
    new.request.method ≠ "ACK" := by
  rcases placed.origins present with rfl | old
  · exact placed.noAck
  · exact numbered.noAck other new old

/-- The transaction draws the next number of the dialog. -/
theorem draw (placed : Placed before after id transaction) (numbered : Numbered before)
    (more : before.dialog.localCseq < after.dialog.localCseq)
    (number : transaction.seqNumber = after.dialog.localCseq)
    (origin : transaction.origin = .dialog before.drawn) (drawn : after.drawn = before.drawn + 1) :
    Numbered after where
  alive := placed.alive
  increasing := by
    rw [Increasing, placed.emissions]
    exact numbered.increasing
  recorded _ sent := placed.recorded numbered sent
  drawn := by
    intro other new rank present from_
    rw [drawn]
    rcases placed.origins present with rfl | old
    · rw [origin] at from_
      cases from_
      exact ⟨Nat.lt_succ_self _, Nat.le_of_eq number⟩
    · obtain ⟨below, small⟩ := numbered.drawn other new rank old from_
      exact ⟨Nat.lt_succ_of_lt below, Nat.le_trans small (Nat.le_of_lt more)⟩
  ranked := by
    intro first second lower higher rank above firstPresent secondPresent lowerOrigin higherOrigin less
    rcases placed.origins firstPresent with rfl | oldLower
    · -- the new rank is the highest one
      rw [origin] at lowerOrigin
      cases lowerOrigin
      rcases placed.origins secondPresent with rfl | oldHigher
      · rw [origin] at higherOrigin
        cases higherOrigin
        exact absurd less (Nat.lt_irrefl _)
      · have below := (numbered.drawn second higher above oldHigher higherOrigin).1
        omega
    · rcases placed.origins secondPresent with rfl | oldHigher
      · have small := (numbered.drawn first lower rank oldLower lowerOrigin).2
        omega
      · exact numbered.ranked first second lower higher rank above oldLower oldHigher lowerOrigin
          higherOrigin less
  resubmitted := by
    intro other challenged new present from_
    rcases placed.origins present with rfl | old
    · rw [origin] at from_
      cases from_
    · exact placed.resubmitted numbered old from_
  noAck := placed.noAcks numbered

/-- The transaction does not take its number from the dialog. -/
theorem other (placed : Placed before after id transaction) (numbered : Numbered before)
    (dialog : after.dialog = before.dialog) (drawn : after.drawn = before.drawn)
    (foreign : ∀ rank, transaction.origin ≠ .dialog rank)
    (challenged : ∀ challenged, transaction.origin = .challenge challenged →
      ∃ target, before.transactions[challenged]? = some target ∧ target.state ≠ .init ∧
        transaction.seqNumber = target.seqNumber + 1) : Numbered after where
  alive := placed.alive
  increasing := by
    rw [Increasing, placed.emissions]
    exact numbered.increasing
  recorded _ sent := placed.recorded numbered sent
  drawn := by
    intro other new rank present from_
    rw [drawn, dialog]
    rcases placed.origins present with rfl | old
    · exact absurd from_ (foreign rank)
    · exact numbered.drawn other new rank old from_
  ranked := by
    intro first second lower higher rank above firstPresent secondPresent lowerOrigin higherOrigin less
    rcases placed.origins firstPresent with rfl | oldLower
    · exact absurd lowerOrigin (foreign rank)
    · rcases placed.origins secondPresent with rfl | oldHigher
      · exact absurd higherOrigin (foreign above)
      · exact numbered.ranked first second lower higher rank above oldLower oldHigher lowerOrigin
          higherOrigin less
  resubmitted := by
    intro other target new present from_
    rcases placed.origins present with rfl | old
    · obtain ⟨before, found, left, seqNumber⟩ := challenged target from_
      exact ⟨before, placed.still found left, left, seqNumber⟩
    · exact placed.resubmitted numbered old from_
  noAck := placed.noAcks numbered

end Placed

variable {session : Session} {transaction : DialogTransaction} {id : TransactionId} {outlet : Outlet}

/-- A transaction at the end of the list. -/
theorem placed_add (alive : session.dialog.state ≠ .null) (noAck : transaction.request.method ≠ "ACK") :
    Placed session (session.add transaction) session.transactions.length transaction where
  others := by
    intro other elsewhere
    show (session.transactions ++ [transaction])[other]? = _
    rw [List.getElem?_append]
    split
    · rfl
    · next outside =>
        have beyond : session.transactions.length < other :=
          Nat.lt_of_le_of_ne (Nat.not_lt.mp outside) (Ne.symm elsewhere)
        rw [List.getElem?_eq_none (Nat.le_of_lt beyond), List.getElem?_eq_none]
        exact Nat.le_sub_of_add_le (Nat.add_comm 1 _ ▸ beyond)
  placed := by simp [add]
  free := by
    intro old present
    simp at present
  emissions := rfl
  alive := alive
  noAck := noAck

/-- A request that may be sent has a higher number than all those sent before. -/
theorem inOrder_above (numbered : Numbered session) (present : session.transactions[id]? = some transaction)
    (order : session.inOrder transaction = true) {emission : Emission} (sent : emission ∈ session.emissions) :
    emission.seqNumber < transaction.seqNumber := by
  unfold inOrder at order
  split at order
  · next rank origin =>
      have earlier := List.all_eq_true.mp order emission sent
      split at earlier
      · next below drawn =>
          obtain ⟨old, found, -, seqNumber, sameOrigin⟩ := numbered.recorded emission sent
          rw [← seqNumber]
          exact numbered.ranked _ _ old transaction below rank found present (sameOrigin.trans drawn) origin
            (of_decide_eq_true earlier)
      · cases earlier
  · next challenged origin =>
      obtain ⟨last, lastEq, same⟩ : ∃ last, session.emissions.getLast? = some last ∧
          last.transaction = challenged := by
        cases lastEq : session.emissions.getLast? with
        | none => rw [lastEq] at order; cases order
        | some last =>
            rw [lastEq] at order
            exact ⟨last, rfl, of_decide_eq_true order⟩
      obtain ⟨front, frontEq⟩ := List.getLast?_eq_some_iff.mp lastEq
      obtain ⟨target, targetFound, -, next⟩ := numbered.resubmitted id challenged transaction present origin
      have lastSent : last ∈ session.emissions := by simp [frontEq]
      obtain ⟨old, found, -, seqNumber, -⟩ := numbered.recorded last lastSent
      rw [same, targetFound] at found
      cases found
      have sorted := numbered.increasing
      rw [Increasing, frontEq] at sorted
      rw [frontEq] at sent
      rcases List.mem_append.mp sent with older | newest
      · have less := (List.pairwise_append.mp sorted).2.2 emission older last (by simp)
        omega
      · cases List.mem_singleton.mp newest
        omega
  · cases order

theorem inOrder_congr {before after : Session} {old new : DialogTransaction}
    (emissions : after.emissions = before.emissions) (origin : new.origin = old.origin) :
    after.inOrder new = before.inOrder old := by
  unfold inOrder
  rw [emissions, origin]

/-- A number that is drawn now is the highest, unless a resubmission has been sent. -/
theorem unchallenged_inOrder (numbered : Numbered session) (unchallenged : session.unchallenged = true)
    (origin : transaction.origin = .dialog session.drawn) : session.inOrder transaction = true := by
  unfold inOrder
  rw [origin]
  apply List.all_eq_true.mpr
  intro emission sent
  have drawn := List.all_eq_true.mp unchallenged emission sent
  obtain ⟨old, found, -, -, sameOrigin⟩ := numbered.recorded emission sent
  cases from_ : emission.origin with
  | dialog rank =>
      have below := (numbered.drawn _ old rank found (sameOrigin.trans from_)).1
      simpa using below
  | _ => simp [from_] at drawn

/-- A request with a higher number than all those sent before may be sent. -/
theorem Numbered.send (numbered : Numbered session) (present : session.transactions[id]? = some transaction)
    (left : transaction.state ≠ .init) {number : Nat} {origin : Origin} (sameNumber : transaction.seqNumber = number)
    (sameOrigin : transaction.origin = origin) (above : ∀ emission ∈ session.emissions, emission.seqNumber < number) :
    Numbered { session with emissions := session.emissions ++ [⟨id, number, origin⟩] } where
  alive := numbered.alive
  increasing := by
    apply List.pairwise_append.mpr
    refine ⟨numbered.increasing, List.pairwise_singleton _ _, ?_⟩
    intro emission sent last new
    cases List.mem_singleton.mp new
    exact above emission sent
  recorded := by
    intro emission sent
    rcases List.mem_append.mp sent with old | new
    · exact numbered.recorded emission old
    · cases List.mem_singleton.mp new
      exact ⟨transaction, present, left, sameNumber, sameOrigin⟩
  drawn := numbered.drawn
  ranked := numbered.ranked
  resubmitted := numbered.resubmitted
  noAck := numbered.noAck

theorem emit_numbered (numbered : Numbered session)
    (order : ∀ transaction, session.transactions[id]? = some transaction →
      transaction.request.method = "CANCEL" ∨ session.inOrder transaction = true) :
    Numbered (session.emit id) := by
  unfold emit
  split
  · exact numbered
  · next transaction present =>
      have active : (if transaction.request.method = "INVITE" then TransactionState.calling else .trying) ≠
          .init := by split <;> decide
      dsimp only
      generalize (if transaction.request.method = "INVITE" then TransactionState.calling else .trying) = state
        at active ⊢
      have keeps : Keeps session
          (session.modify id fun transaction => { transaction with state := state, waiting := false }) :=
        Keeps.ofModify fun transaction _ => ⟨rfl, rfl, rfl, fun _ => active⟩
      split
      · exact keeps.numbered numbered
      · next notCancel =>
          have inOrder := (order transaction present).resolve_left notCancel
          have found : (session.modify id fun transaction =>
              { transaction with state := state, waiting := false }).transactions[id]? =
                some { transaction with state := state, waiting := false } := by
            show (session.transactions.modify id _)[id]? = _
            rw [List.getElem?_modify, present]
            simp
          exact (keeps.numbered numbered).send found active rfl rfl fun emission sent =>
            inOrder_above numbered present inOrder sent

theorem updateOwn_keeps (alive : session.dialog.state ≠ .null) (id : TransactionId) (inDialog : Bool) :
    OnReturn (session.updateOwn id inDialog) (Keeps session) := by
  unfold updateOwn
  split
  · apply Checked.onReturn_bind.mpr
    apply (updateDialog_keeps alive id false).mono
    intro (after, _) keeps
    exact Checked.onReturn_pure.mpr keeps
  · exact Checked.onReturn_pure.mpr (Keeps.refl session)

theorem dispatch_numbered (numbered : Numbered session) (inDialog : Bool)
    (order : outlet = .ready → ∀ transaction, session.transactions[id]? = some transaction →
      transaction.request.method = "CANCEL" ∨ session.inOrder transaction = true) :
    OnReturn (session.dispatch id inDialog outlet) Numbered := by
  apply Checked.onReturn_bind.mpr
  apply (updateOwn_keeps numbered.alive id inDialog).mono
  intro updated keeps
  have still := keeps.numbered numbered
  have waits : Keeps updated (updated.modify id fun transaction => { transaction with waiting := true }) :=
    Keeps.ofModify fun transaction _ => ⟨rfl, rfl, rfl, fun left => left⟩
  have terminated : OnReturn (updated.terminate id) Numbered :=
    (terminate_keeps still.alive id).mono fun after ended => ended.numbered still
  cases outlet with
  | ready =>
      apply Checked.onReturn_pure.mpr
      apply emit_numbered still
      intro new present
      obtain ⟨old, found, same⟩ := keeps.backward present
      rw [same.method, inOrder_congr keeps.emissions same.origin]
      exact order rfl old found
  | connecting => exact Checked.onReturn_pure.mpr (waits.numbered still)
  | noChannel => exact terminated
  | badUris => exact terminated

/-- A number is drawn for a method other than ACK. -/
theorem updateLocalCseq_more {dialog : Dialog} {method : String} (notAck : method ≠ "ACK")
    (room : dialog.localCseq + 1 < UInt32.size) :
    dialog.localCseq < (dialog.updateLocalCseq method).localCseq := by
  unfold Dialog.updateLocalCseq
  simp only [notAck, if_false]
  split
  · next zero =>
      rw [zero]
      decide
  · rw [Nat.mod_eq_of_lt room]
    exact Nat.lt_succ_self _

/-- A queued request gets the number that the dialog has just counted up to. -/
theorem updateRequest_spec (dialog : Dialog) (req : Request) :
    OnReturn (dialog.updateRequest req) fun (after, new) =>
      after = dialog.updateLocalCseq req.method ∧ new.method = req.method ∧
        new.cseq.elim 0 (·.seqNumber) = after.localCseq := by
  unfold Dialog.updateRequest
  simp only [Checked.onReturn_bind, Checked.onReturn_deref, Checked.onReturn_pure]
  intro cseq _ target _
  simp

/-- The transaction at a place gets a request that the dialog has numbered. -/
theorem placed_renumber {dialog : Dialog} (alive : dialog.state ≠ .null)
    (present : session.transactions[id]? = some transaction) (initial : transaction.state = .init) {req : Request}
    (noAck : req.method ≠ "ACK") :
    Placed session (session.renumber id dialog req) id
      { transaction with request := req, origin := .dialog session.drawn } where
  others := by
    intro other elsewhere
    unfold renumber
    rw [List.getElem?_modify]
    simp [Ne.symm elsewhere]
  placed := by
    unfold renumber
    rw [List.getElem?_modify, present]
    simp
  free := by
    intro old found
    rw [present] at found
    cases found
    exact initial
  emissions := rfl
  alive := alive
  noAck := noAck

theorem updateRequest_numbered (numbered : Numbered session) (present : session.transactions[id]? = some transaction)
    (initial : transaction.state = .init) (room : session.dialog.localCseq + 1 < UInt32.size) :
    OnReturn (session.updateRequest id) fun after =>
      Numbered after ∧ after.emissions = session.emissions ∧
        ∃ new, after.transactions[id]? = some new ∧ new.origin = .dialog session.drawn ∧
          new.request.method = transaction.request.method := by
  have notAck := numbered.noAck id transaction present
  unfold updateRequest
  simp only [present]
  apply Checked.onReturn_bind.mpr
  apply (updateRequest_spec session.dialog transaction.request).mono
  intro (dialog, req) ⟨counted, method, number⟩
  apply Checked.onReturn_pure.mpr
  have placed := placed_renumber (show dialog.state ≠ .null by rw [counted]; exact numbered.alive)
    present initial (show req.method ≠ "ACK" by rw [method]; exact notAck)
  have more : session.dialog.localCseq < dialog.localCseq := by
    rw [counted]
    exact updateLocalCseq_more notAck room
  exact ⟨placed.draw numbered more number rfl rfl, rfl, _, placed.placed, rfl, method⟩

/-- The dialog numbers a request that it creates. -/
theorem buildRequest_spec (dialog : Dialog) (method : String) (full : Bool) :
    OnReturn (dialog.buildRequest method full) fun req =>
      req.method = method ∧ req.cseq.elim 0 (·.seqNumber) = dialog.localCseq ∧ req.dialogQueued = false := by
  unfold Dialog.buildRequest
  simp only [Checked.onReturn_bind, Checked.onReturn_deref, Checked.onReturn_pure]
  intros
  simp

theorem createRequest_spec (dialog : Dialog) (pending : Bool) (method : String) :
    OnReturn (dialog.createRequest pending method) fun (after, req) =>
      (after = dialog ∧ req = none) ∨
        ∃ created, req = some created ∧ after = dialog.updateLocalCseq method ∧ created.method = method ∧
          created.cseq.elim 0 (·.seqNumber) = after.localCseq ∧ created.dialogQueued = false := by
  unfold Dialog.createRequest
  split
  · apply Checked.onReturn_bind.mpr
    apply (buildRequest_spec (dialog.updateLocalCseq method) method true).mono
    intro req ⟨named, number, direct⟩
    exact Checked.onReturn_pure.mpr (Or.inr ⟨req, rfl, rfl, named, number, direct⟩)
  · exact Checked.onReturn_pure.mpr (Or.inl ⟨rfl, rfl⟩)

/-- A new transaction takes the number that the dialog has just drawn. -/
theorem addDrawn_numbered (numbered : Numbered session) {method : String} (notAck : method ≠ "ACK")
    (room : session.dialog.localCseq + 1 < UInt32.size) {req : Request} (named : req.method = method)
    (number : req.cseq.elim 0 (·.seqNumber) = (session.dialog.updateLocalCseq method).localCseq) :
    Numbered ({ session with dialog := session.dialog.updateLocalCseq method }.addDrawn req) := by
  have placed := placed_add (show ({ session with
      dialog := session.dialog.updateLocalCseq method } : Session).dialog.state ≠ .null from numbered.alive)
    (show ({ request := req, origin := .dialog session.drawn } : DialogTransaction).request.method ≠ "ACK"
      from named ▸ notAck)
  have moved : Placed session ({ session with
      dialog := session.dialog.updateLocalCseq method }.addDrawn req) session.transactions.length
      { request := req, origin := .dialog session.drawn } :=
    ⟨placed.others, placed.placed, placed.free, rfl, placed.alive, placed.noAck⟩
  exact moved.draw numbered (updateLocalCseq_more notAck room) number rfl rfl

theorem sendRequest_numbered (numbered : Numbered session)
    (room : ∀ transaction, session.transactions[id]? = some transaction → drawsNow transaction = true →
      session.dialog.localCseq + 1 < UInt32.size)
    (order : outlet = .ready → ∀ transaction, session.transactions[id]? = some transaction →
      transaction.state = .init → session.queues transaction = false →
        session.mayEmit transaction = true) :
    OnReturn (session.sendRequest id outlet) Numbered := by
  unfold sendRequest
  split
  · exact Checked.onReturn_pure.mpr numbered
  · next transaction present =>
      split
      · exact Checked.onReturn_pure.mpr numbered
      · next able =>
          have initial : transaction.state = .init := by tauto
          split
          · have queued : Keeps session { session with dialog := { session.dialog with
                queuedCt := session.dialog.queuedCt ++ [id] } } := Keeps.ofDialog ⟨rfl, fun alive => alive⟩
            exact Checked.onReturn_pure.mpr (queued.numbered numbered)
          · next direct =>
              have permitted : outlet = .ready → session.mayEmit transaction = true := fun ready =>
                order ready transaction present initial (Bool.eq_false_iff.mpr direct)
              split
              · next draws =>
                  apply Checked.onReturn_bind.mpr
                  apply (updateRequest_numbered numbered present initial (room transaction present draws)).mono
                  intro after ⟨still, emissions, new, found, origin, method⟩
                  apply dispatch_numbered still
                  intro ready other foundToo
                  rw [found] at foundToo
                  cases foundToo
                  have allowed := permitted ready
                  simp only [mayEmit, draws, if_true, Bool.or_eq_true, decide_eq_true_eq] at allowed
                  rw [method]
                  apply allowed.imp_right
                  intro unchallenged
                  rw [inOrder_congr emissions rfl]
                  exact unchallenged_inOrder numbered unchallenged origin
              · next drawn =>
                  apply dispatch_numbered numbered
                  intro ready other foundToo
                  rw [present] at foundToo
                  cases foundToo
                  have allowed := permitted ready
                  simpa only [mayEmit, drawn, if_false, Bool.or_eq_true, decide_eq_true_eq,
                    Bool.false_eq_true] using allowed

theorem createRequest_numbered (numbered : Numbered session) (method : String)
    (room : session.dialog.localCseq + 1 < UInt32.size) :
    OnReturn (session.createRequest method) Numbered := by
  apply Checked.onReturn_bind.mpr
  apply (createRequest_spec session.dialog session.requestPending method).mono
  rintro ⟨dialog, req⟩ (⟨same, none⟩ | ⟨created, some, counted, named, number, -⟩)
  · subst same none
    exact Checked.onReturn_pure.mpr numbered
  · subst some counted
    dsimp only
    split
    · next ack =>
        have kept : Keeps session { session with dialog := session.dialog.updateLocalCseq method } := by
          refine ⟨?_, fun alive => alive, fun _ => rel_refl _, rfl, rfl⟩
          simp only [Dialog.updateLocalCseq, ack, if_true]
          split <;> omega
        exact Checked.onReturn_pure.mpr (kept.numbered numbered)
    · next notAck => exact Checked.onReturn_pure.mpr (addDrawn_numbered numbered notAck room named number)

/-- A transaction with a request that takes no number from the dialog is added. -/
theorem add_numbered (numbered : Numbered session) (noAck : transaction.request.method ≠ "ACK")
    (foreign : ∀ rank, transaction.origin ≠ .dialog rank)
    (challenged : ∀ challenged, transaction.origin = .challenge challenged →
      ∃ target, session.transactions[challenged]? = some target ∧ target.state ≠ .init ∧
        transaction.seqNumber = target.seqNumber + 1) : Numbered (session.add transaction) :=
  (placed_add numbered.alive noAck).other numbered rfl rfl foreign challenged

theorem createQueuedRequest_numbered (numbered : Numbered session) (method : String) :
    OnReturn (session.createQueuedRequest method) Numbered := by
  unfold createQueuedRequest Dialog.createQueuedRequest
  split
  · exact Checked.onReturn_pure.mpr numbered
  · rw [bind_assoc]
    apply Checked.onReturn_bind.mpr
    apply (buildRequest_spec session.dialog method false).mono
    intro req ⟨named, _⟩
    simp only [pure_bind]
    split
    · exact Checked.onReturn_pure.mpr numbered
    · next notAck =>
        apply Checked.onReturn_pure.mpr
        apply add_numbered numbered
        · show req.method ≠ "ACK"
          rw [named]
          exact notAck
        · simp
        · simp

theorem createAuthenticatedRequest_numbered (numbered : Numbered session)
    (room : ∀ transaction, session.transactions[id]? = some transaction →
      transaction.seqNumber + 1 < UInt32.size) :
    OnReturn (session.createAuthenticatedRequest id) Numbered := by
  unfold createAuthenticatedRequest
  split
  · exact Checked.onReturn_pure.mpr numbered
  · next transaction present =>
      simp only [Checked.onReturn_bind, Checked.onReturn_deref]
      intro cseq numberEq
      have number : transaction.seqNumber = cseq.seqNumber := by
        simp [DialogTransaction.seqNumber, numberEq]
      split
      · next final =>
          simp only [Checked.onReturn_bind]
          generalize findDialogFromMessage _ _ _ = search
          cases search with
          | error fault => trivial
          | ok found =>
              apply Checked.onReturn_pure.mpr
              apply add_numbered numbered
              · exact numbered.noAck id transaction present
              · simp
              · intro challenged origin
                cases origin
                refine ⟨transaction, present, ?_, ?_⟩
                · intro initial
                  simp [initial] at final
                · have fits := room transaction present
                  rw [number] at fits ⊢
                  exact Nat.mod_eq_of_lt fits
      · exact Checked.onReturn_pure.mpr numbered

theorem createCancel_numbered (numbered : Numbered session) (id : TransactionId) :
    OnReturn (session.createCancel id) Numbered := by
  unfold createCancel
  split
  · exact Checked.onReturn_pure.mpr numbered
  · split
    · simp only [Checked.onReturn_bind, Checked.onReturn_deref]
      intro cseq _
      generalize findDialogFromMessage _ _ _ = search
      cases search with
      | error fault => trivial
      | ok found =>
          apply Checked.onReturn_pure.mpr
          apply add_numbered numbered
          · simp
          · simp
          · simp
    · exact Checked.onReturn_pure.mpr numbered

theorem processQueue_numbered (numbered : Numbered session) (room : session.dialog.localCseq + 1 < UInt32.size)
    (order : session.orderly (.processQueue outlet) = true) :
    OnReturn (session.processQueue outlet) Numbered := by
  unfold processQueue
  split
  · exact Checked.onReturn_pure.mpr numbered
  · next postponed counted =>
      have called : Keeps session
          { session with dialog := { session.dialog with postponed := postponed } } :=
        Keeps.ofDialog ⟨rfl, fun alive => alive⟩
      dsimp only
      split
      · exact Checked.onReturn_pure.mpr (called.numbered numbered)
      · next id served =>
          have popped : Keeps session
              ({ session with dialog := { session.dialog with
                  postponed := postponed
                  queuedCt := session.dialog.queuedCt.tail } }.modify id fun transaction =>
                { transaction with sentByDialogQueue := true }) := by
            apply Keeps.trans (show Keeps session { session with dialog := { session.dialog with
              postponed := postponed
              queuedCt := session.dialog.queuedCt.tail } } from Keeps.ofDialog ⟨rfl, fun alive => alive⟩)
            apply Keeps.ofModify
            intro transaction _
            exact ⟨rfl, rfl, rfl, fun left => left⟩
          apply sendRequest_numbered (popped.numbered numbered)
          · intro _ _ _
            exact room
          · intro ready new present initial _
            subst ready
            obtain ⟨old, found, rfl⟩ : ∃ old, session.transactions[id]? = some old ∧
                new = { old with sentByDialogQueue := true } := by
              change (session.transactions.modify id _)[id]? = _ at present
              rw [List.getElem?_modify] at present
              cases found : session.transactions[id]? with
              | none => rw [found] at present; cases present
              | some old =>
                  rw [found] at present
                  exact ⟨old, rfl, by simpa using present.symm⟩
            have nonzero : session.dialog.postponed ≠ 0 := by omega
            have dequeued : session.dequeued = some id := served
            simp only [orderly, nonzero, decide_false, Bool.false_or, dequeued, found, Option.all_some,
              Bool.or_eq_true, decide_eq_true_eq] at order
            have allowed : old.request.method = "CANCEL" ∨ session.unchallenged = true := by
              rcases order with (left | cancel) | unchallenged
              · exact absurd initial left
              · exact Or.inl cancel
              · exact Or.inr unchallenged
            simp only [mayEmit, drawsNow, Bool.true_or, if_true, Bool.or_eq_true, decide_eq_true_eq]
            exact allowed

/-- The BYE of the dialog takes a new number and is sent at once. -/
theorem sendBye_numbered (numbered : Numbered session) (room : session.dialog.localCseq + 1 < UInt32.size)
    {base : Dialog} (same : Dialog.SameNumber session.dialog base) {bye : Request} (named : bye.method = "BYE")
    (number : bye.cseq.elim 0 (·.seqNumber) = (base.updateLocalCseq "BYE").localCseq)
    (direct : bye.dialogQueued = false) (order : outlet = .ready → session.unchallenged = true) :
    OnReturn (session.sendBye (base.updateLocalCseq "BYE") bye outlet) Numbered := by
  have based : Numbered { session with dialog := base } := (Keeps.ofDialog same).numbered numbered
  have added := addDrawn_numbered based (by decide) (by rw [same.localCseq]; exact room) named number
  have last : ∀ transaction,
      ({ session with dialog := base.updateLocalCseq "BYE" }.addDrawn bye).transactions[
        session.transactions.length]? = some transaction →
      transaction = { request := bye, origin := .dialog session.drawn } := by
    intro transaction present
    simp only [addDrawn, add, List.getElem?_concat_length, Option.some.injEq] at present
    exact present.symm
  apply sendRequest_numbered added
  · intro transaction present draws
    cases last transaction present
    simp [drawsNow, direct] at draws
  · intro ready transaction present _ _
    cases last transaction present
    simp only [mayEmit, drawsNow, direct, Bool.or_self, Bool.false_eq_true, if_false, Bool.or_eq_true]
    have ordered := unchallenged_inOrder numbered (order ready)
      (show ({ request := bye, origin := .dialog session.drawn } : DialogTransaction).origin =
        .dialog session.drawn from rfl)
    exact Or.inr ordered

theorem checkAckSent_numbered (numbered : Numbered session) (room : session.dialog.localCseq + 1 < UInt32.size)
    (order : session.orderly (.ackChecked outlet) = true) :
    OnReturn (session.checkAckSent outlet) Numbered := by
  unfold checkAckSent Dialog.checkAckSent
  split
  · next waiting =>
      rw [bind_assoc]
      apply Checked.onReturn_bind.mpr
      apply (createRequest_spec session.dialog session.requestPending "BYE").mono
      rintro ⟨dialog, req⟩ (⟨same, none⟩ | ⟨created, some, counted, named, number, direct⟩)
      · subst same none
        trivial
      · subst some counted
        apply sendBye_numbered numbered room (Dialog.SameNumber.refl _) named number direct
        intro ready
        subst ready
        simpa [orderly, waiting] using order
  · exact Checked.onReturn_pure.mpr numbered

theorem on200OkEnd_numbered (numbered : Numbered session) (room : session.dialog.localCseq + 1 < UInt32.size)
    (order : session.orderly (.timer200OkEnd outlet) = true) :
    OnReturn (session.on200OkEnd outlet) Numbered := by
  unfold on200OkEnd
  split
  · next armed =>
      unfold Dialog.on200OkEnd
      rw [bind_assoc]
      apply Checked.onReturn_bind.mpr
      apply (createRequest_spec _ session.requestPending "BYE").mono
      rintro ⟨dialog, req⟩ (⟨same, none⟩ | ⟨created, some, counted, named, number, direct⟩)
      · subst same none
        trivial
      · subst some counted
        have same : Dialog.SameNumber session.dialog
            { session.dialog.stop200OkRetrans with state := .confirmed } := ⟨rfl, fun _ => by simp⟩
        apply (sendBye_numbered numbered room same named number direct _ :)
        intro ready
        subst ready
        simpa [orderly, armed] using order
  · exact Checked.onReturn_pure.mpr numbered

/-- One event that meets the condition keeps the numbers in order. -/
theorem handle_numbered (numbered : Numbered session) {event : Event} (bounded : session.bounded event = true)
    (order : session.orderly event = true) :
    OnReturn (session.handle event) Numbered := by
  cases event with
  | createRequest method => exact createRequest_numbered numbered method (of_decide_eq_true bounded)
  | createQueuedRequest method => exact createQueuedRequest_numbered numbered method
  | createAuthenticatedRequest id =>
      apply createAuthenticatedRequest_numbered numbered
      intro transaction present
      simpa [Session.bounded, present] using bounded
  | createCancel id => exact createCancel_numbered numbered id
  | sendRequest id outlet =>
      apply sendRequest_numbered numbered
      · intro _ _ _
        exact of_decide_eq_true bounded
      · intro ready transaction present initial direct
        subst ready
        simpa [orderly, present, initial, direct] using order
  | channelReady id =>
      apply Checked.onReturn_pure.mpr
      unfold channelReady
      split
      · next waits =>
          apply emit_numbered numbered
          intro transaction present
          simp only [present, Option.any_some, Bool.and_eq_true, decide_eq_true_eq] at waits
          simpa [orderly, present, waits] using order
      · exact numbered
  | processQueue outlet => exact processQueue_numbered numbered (of_decide_eq_true bounded) order
  | requestReceived req =>
      show OnReturn (if req.method = "ACK" then pure session else _) Numbered
      split
      · exact Checked.onReturn_pure.mpr numbered
      · next notAck => exact Checked.onReturn_pure.mpr (add_numbered numbered notAck (by simp) (by simp))
  | responded id state resp =>
      exact (respond_keeps numbered.alive id state resp).mono fun after keeps => keeps.numbered numbered
  | forked id =>
      have moved : Keeps session (session.fork id) := by
        apply Keeps.ofModify
        intro transaction _
        split <;> exact ⟨rfl, rfl, rfl, fun left => left⟩
      exact Checked.onReturn_pure.mpr (moved.numbered numbered)
  | rejoined id state resp =>
      exact (rejoin_keeps numbered.alive id state resp).mono fun after keeps => keeps.numbered numbered
  | responseRefused id =>
      dsimp only [handle]
      split
      · exact Checked.onReturn_pure.mpr numbered
      · apply Checked.onReturn_bind.mpr
        apply (updateDialog_keeps numbered.alive id true).mono
        intro (after, _) keeps
        exact Checked.onReturn_pure.mpr (keeps.numbered numbered)
  | terminated id =>
      exact (terminate_keeps numbered.alive id).mono fun after keeps => keeps.numbered numbered
  | ackSent ack =>
      exact Checked.onReturn_pure.mpr ((Keeps.ofDialog (session.dialog.sendAck_same ack)).numbered numbered)
  | ackReceived ack =>
      apply Checked.onReturn_bind.mpr
      apply (session.dialog.handleAck_same ack).mono
      intro (dialog, _) same
      exact Checked.onReturn_pure.mpr ((Keeps.ofDialog same).numbered numbered)
  | ackChecked outlet => exact checkAckSent_numbered numbered (of_decide_eq_true bounded) order
  | timer200OkEnd outlet => exact on200OkEnd_numbered numbered (of_decide_eq_true bounded) order
  | terminateOnBye value =>
      have kept : Keeps session { session with dialog := { session.dialog with terminateOnBye := value } } :=
        Keeps.ofDialog ⟨rfl, fun alive => alive⟩
      exact Checked.onReturn_pure.mpr (kept.numbered numbered)
  | deleted => exact (delete_keeps numbered.alive).mono fun after keeps => keeps.numbered numbered

theorem step_numbered (numbered : Numbered session) {event : Event}
    (permitted : session.bounded event = true ∧ session.orderly event = true) :
    Numbered (session.step event) := by
  unfold step
  split
  · exact numbered
  · have kept := handle_numbered numbered permitted.1 permitted.2
    cases handled : session.handle event with
    | ok after => exact kept.elim handled
    | error fault =>
        have stopped : Keeps session { session with halted := true } :=
          ⟨Nat.le_refl _, fun alive => alive, fun _ => rel_refl _, rfl, rfl⟩
        exact stopped.numbered numbered

/-- A session at the establishment of its dialog: a UAC has sent the request that establishes it, with
the number that the dialog goes on from, and a UAS has sent nothing. -/
structure Established (session : Session) : Prop where
  visible : session.dialog.visible = true
  start :
    (session.drawn = 0 ∧ session.emissions = [] ∧
      ∀ transaction ∈ session.transactions, transaction.origin = .peer ∧
        transaction.request.method ≠ "ACK") ∨
    ∃ initial, session.transactions = [initial] ∧ initial.origin = .dialog 0 ∧ initial.state ≠ .init ∧
      initial.request.method ≠ "ACK" ∧ initial.seqNumber = session.dialog.localCseq ∧ session.drawn = 1 ∧
        session.emissions = [⟨0, session.dialog.localCseq, .dialog 0⟩]

theorem Established.numbered (established : Established session) : Numbered session := by
  have alive : session.dialog.state ≠ .null := by
    intro new
    have visible := established.visible
    simp [Dialog.visible, new] at visible
  rcases established.start with ⟨drawn, nothing, peers⟩ |
    ⟨initial, only, origin, left, notAck, number, drawn, sent⟩
  · have peer : ∀ (id : TransactionId) (transaction : DialogTransaction),
        session.transactions[id]? = some transaction → transaction.origin = .peer := by
      intro id transaction present
      exact (peers transaction (List.mem_of_getElem? present)).1
    refine ⟨alive, by simp [Increasing, nothing], by simp [nothing], ?_, ?_, ?_, ?_⟩
    · intro id transaction rank present from_
      rw [peer id transaction present] at from_
      cases from_
    · intro first second lower higher rank above firstPresent _ from_
      rw [peer first lower firstPresent] at from_
      cases from_
    · intro id challenged transaction present from_
      rw [peer id transaction present] at from_
      cases from_
    · intro id transaction present
      exact (peers transaction (List.mem_of_getElem? present)).2
  · have first : ∀ (id : TransactionId) (transaction : DialogTransaction),
        session.transactions[id]? = some transaction → transaction = initial := by
      intro id transaction present
      have among := List.mem_of_getElem? present
      rw [only] at among
      exact List.mem_singleton.mp among
    refine ⟨alive, by simp [Increasing, sent], ?_, ?_, ?_, ?_, ?_⟩
    · intro emission among
      rw [sent] at among
      cases List.mem_singleton.mp among
      exact ⟨initial, by simp [only], left, number, origin⟩
    · intro id transaction rank present from_
      rw [first id transaction present, origin] at from_
      cases from_
      rw [first id transaction present, drawn, number]
      exact ⟨Nat.zero_lt_one, Nat.le_refl _⟩
    · intro one two lower higher rank above onePresent twoPresent lowerFrom higherFrom less
      rw [first one lower onePresent, origin] at lowerFrom
      rw [first two higher twoPresent, origin] at higherFrom
      cases lowerFrom
      cases higherFrom
      exact absurd less (Nat.lt_irrefl _)
    · intro id challenged transaction present from_
      rw [first id transaction present, origin] at from_
      cases from_
    · intro id transaction present
      rw [first id transaction present]
      exact notAck

/-- In every run whose requests are sent in order, the CSeq numbers that a dialog sends increase. -/
theorem run_increasing {session : Session} (established : Established session) {events : List Event}
    (permitted : Machine.Along step (fun session event =>
      session.bounded event = true ∧ session.orderly event = true) session events) :
    (Machine.run step session events).Increasing := by
  have preserved : ∀ (before : Session) (event : Event), Numbered before →
      (before.bounded event = true ∧ before.orderly event = true) → Numbered (before.step event) := by
    intro before event invariant guard
    exact step_numbered invariant guard
  have numbered : Numbered (Machine.run step session events) :=
    Machine.run_invariant preserved established.numbered permitted
  exact numbered.increasing

/-- A UAC that has established a call with an INVITE of CSeq number 20. -/
def establishedCall : Session where
  dialog := {
    isServer := false
    state := .confirmed
    callId := some "call"
    localParty := some { uri := some { text := "sip:alice@10.0.0.1" }, tag := some "alice" }
    remoteParty := some { uri := some { text := "sip:bob@10.0.0.2" }, tag := some "bob" }
    localTag := some "alice"
    remoteTag := some "bob"
    remoteTarget := some { uri := some { text := "sip:bob@10.0.0.2:5060" } }
    localCseq := 20
    lastTransaction := some 0 }
  transactions := [{ request := Dialog.peerRequest "INVITE" 20, state := .terminated, origin := .dialog 0 }]
  drawn := 1
  emissions := [⟨0, 20, .dialog 0⟩]

theorem establishedCall_established : Established establishedCall where
  visible := rfl
  start := Or.inr ⟨_, rfl, rfl, by decide, by decide, rfl, rfl, rfl⟩

theorem run_increasing_info :
    (Machine.run step establishedCall
      [.createRequest "INFO", .sendRequest 1 .ready, .responded 1 .completed (Dialog.okResponse "INFO" 21),
        .createRequest "BYE", .sendRequest 2 .ready]).Increasing :=
  run_increasing establishedCall_established (by decide)

/-- After an authenticated resubmission, the next request of the dialog repeats its CSeq number. -/
theorem cseq_repeated_after_challenge :
    Established establishedCall ∧
      (Machine.run step establishedCall
        [.createRequest "INFO", .sendRequest 1 .ready,
          .responded 1 .completed { Dialog.okResponse "INFO" 21 with statusCode := 407 },
          .createAuthenticatedRequest 1, .sendRequest 2 .ready,
          .responded 2 .completed (Dialog.okResponse "INFO" 22),
          .createRequest "INFO", .sendRequest 3 .ready]).emissions.map (·.seqNumber) = [20, 21, 22, 22] ∧
      ¬(Machine.run step establishedCall
        [.createRequest "INFO", .sendRequest 1 .ready,
          .responded 1 .completed { Dialog.okResponse "INFO" 21 with statusCode := 407 },
          .createAuthenticatedRequest 1, .sendRequest 2 .ready,
          .responded 2 .completed (Dialog.okResponse "INFO" 22),
          .createRequest "INFO", .sendRequest 3 .ready]).Increasing := by
  refine ⟨establishedCall_established, by decide, ?_⟩
  unfold Increasing
  decide

end Session

end BelleSip
