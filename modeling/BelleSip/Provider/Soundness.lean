import BelleSip.Provider.Invariant

/-
This file proves that the dialogs of a provider stay usable, and that no null pointer is read for them.
-/

namespace BelleSip

open Foundation

namespace Provider

/-- The dialog that a response goes to admits the response. -/
def Targets (t : TransactionId) (provider : Provider) (target : Option DialogId) : Prop :=
  provider.Sound ∧ (∀ transaction, provider.transactions[t]? = some transaction → transaction.isClient = true) ∧
    ∀ id, target = some id → provider.Admitted id t false ∧ provider.Paired id t

variable {provider : Provider} {t : TransactionId} {transaction : Transaction} {resp : Response} {id : DialogId}
  {req : Request}

/-- A response that starts a dialog goes to it. -/
theorem Sound.createDialogInternal (sound : provider.Sound) (present : provider.transactions[t]? = some transaction)
    (client : transaction.isClient = true) (left : transaction.state ≠ .init)
    (answered : transaction.lastResponse = some resp) (may : mayStart transaction resp = true) :
    Targets t (provider.createDialogInternal t).1 (provider.createDialogInternal t).2 := by
  unfold Provider.createDialogInternal
  rw [present]
  dsimp only
  split
  · refine ⟨sound, ?_, fun id none => by cases none⟩
    intro other otherPresent
    rw [present] at otherPresent
    cases otherPresent
    exact client
  · next dialog created =>
      obtain ⟨-, role, new, -⟩ := new_sound created
      have now : (provider.addDialog t dialog).transactions[t]? =
          some { transaction with dialog := some provider.dialogs.length } := modify_getElem? present
      have last : (provider.addDialog t dialog).dialogs[provider.dialogs.length]? = some dialog :=
        List.getElem?_concat_length
      refine ⟨sound.addDialog present created (Or.inl left), ?_, ?_⟩
      · intro other otherPresent
        rw [now] at otherPresent
        cases otherPresent
        exact client
      · rintro id ⟨⟩
        constructor
        · intro own other hasDialog hasOther
          rw [last] at hasDialog
          rw [now] at hasOther
          cases hasDialog
          cases hasOther
          rw [answered] at created ⊢
          simpa [mayStart, created] using may
        · intro own other hasDialog hasOther _
          rw [last] at hasDialog
          rw [now] at hasOther
          cases hasDialog
          cases hasOther
          exact role

/-- A dialog in use takes a response in any role. -/
theorem Targets.visible (sound : provider.Sound) (present : provider.transactions[t]? = some transaction)
    (client : transaction.isClient = true) {dialog : Dialog} (hasDialog : provider.dialogs[id]? = some dialog)
    (seen : dialog.visible = true) (admits : dialog.admits transaction.request transaction.lastResponse false = true) :
    Targets t provider (some id) := by
  refine ⟨sound, ?_, ?_⟩
  · intro other otherPresent
    rw [present] at otherPresent
    cases otherPresent
    exact client
  · rintro other ⟨⟩
    constructor
    · intro own again hasOwn hasAgain
      rw [hasDialog] at hasOwn
      rw [present] at hasAgain
      cases hasOwn
      cases hasAgain
      exact admits
    · intro own again hasOwn _ new
      rw [hasDialog] at hasOwn
      cases hasOwn
      simp [Dialog.visible, new] at seen

theorem Sound.dialogOfResponse (sound : provider.Sound) {transaction answered : Transaction}
    (present : provider.transactions[t]? = some answered)
    (same : answered = { transaction with lastResponse := some resp }) 
    (client : transaction.isClient = true) (left : transaction.state ≠ .init)
    (may : provider.mayRespond transaction resp = true) :
    Checked.Safe (provider.dialogOfResponse t transaction resp) fun (after, target) =>
      Targets t after target := by
  subst same
  have none_ : Targets t provider none := by
    refine ⟨sound, ?_, fun id none => by cases none⟩
    intro other otherPresent
    rw [present] at otherPresent
    cases otherPresent
    exact client
  unfold mayRespond at may
  unfold Provider.dialogOfResponse
  cases belongs : transaction.dialog with
  | none =>
      rw [belongs] at may
      dsimp only at may ⊢
      split
      · next creates =>
          rw [creates] at may
          exact sound.createDialogInternal present client left rfl may
      · exact none_
  | some id =>
      rw [belongs] at may
      dsimp only at may ⊢
      cases hasDialog : provider.dialogs[id]? with
      | none => exact none_
      | some dialog =>
          rw [hasDialog, Option.all_some] at may
          have dialogSound := sound.dialogs dialog (List.mem_of_getElem? hasDialog)
          dsimp only
          split
          · next fork =>
              rw [if_pos fork] at may
              simp only [mayFork, Bool.and_eq_true] at fork
              obtain ⟨-, seen⟩ := fork
              simp only [mayAnswer, Bool.and_eq_true] at may
              obtain ⟨⟨comparable, suits⟩, starts⟩ := may
              have admits : ∀ other ∈ provider.dialogs, other.visible = true →
                  other.answeredBy resp.toHeaders = true →
                  other.admits transaction.request (some resp) false = true := by
                intro other among otherSeen otherAnswered
                simpa [otherSeen, otherAnswered] using List.all_eq_true.mp suits other among
              apply Checked.safe_bind.mpr
              apply (dialogSound.matchMessage seen comparable).mono
              intro matching isMatching
              split
              · next matches_ =>
                  exact Targets.visible sound present client hasDialog seen
                    (admits dialog (List.mem_of_getElem? hasDialog) seen (isMatching.symm.trans matches_))
              · apply Checked.safe_bind.mpr
                apply (findDialogFromMessage_response sound.dialogs resp.toHeaders).mono
                intro found finds
                cases found with
                | some other =>
                    obtain ⟨otherDialog, hasOther, otherSeen, otherAnswered⟩ := finds
                    exact Targets.visible sound present client hasOther otherSeen
                      (admits otherDialog (List.mem_of_getElem? hasOther) otherSeen otherAnswered)
                | none =>
                    have nobody : provider.dialogs.any (fun other =>
                        other.visible && other.answeredBy resp.toHeaders) = false := by
                      apply List.any_eq_false.mpr
                      intro other among
                      cases otherSeen : other.visible with
                      | false => simp
                      | true => simp [finds other among otherSeen]
                    rw [nobody, Bool.false_or] at starts
                    exact sound.createDialogInternal present client left rfl starts
          · next noFork =>
              rw [if_neg noFork] at may
              refine ⟨sound, none_.2.1, ?_⟩
              rintro other ⟨⟩
              constructor
              · intro own again hasOwn hasAgain
                rw [hasDialog] at hasOwn
                rw [present] at hasAgain
                cases hasOwn
                cases hasAgain
                exact may
              · apply sound.paired
                intro again hasAgain
                rw [present] at hasAgain
                cases hasAgain
                exact belongs

theorem Sound.notifyResponse (sound : provider.Sound) (present : provider.transactions[t]? = some transaction)
    (client : transaction.isClient = true) (left : transaction.state ≠ .init)
    (may : provider.mayRespond transaction resp = true) :
    Checked.Safe (provider.notifyResponse t resp) Sound := by
  have answered : (provider.modify t fun transaction => { transaction with lastResponse := some resp }).Sound := by
    apply sound.modify
    intro other otherPresent
    have same : other = transaction := Option.some.inj (otherPresent.symm.trans present)
    subst same
    refine ⟨(sound.fits present).advance rfl rfl rfl rfl left ?_, fun queued => queued⟩
    intro server
    exact absurd (server.symm.trans client) (by decide)
  unfold Provider.notifyResponse
  rw [present]
  apply Checked.safe_bind.mpr
  apply (answered.dialogOfResponse (modify_getElem? present) rfl client left may).mono
  rintro ⟨after, target⟩ ⟨afterSound, role, targets⟩
  cases target with
  | none => exact afterSound
  | some id =>
      obtain ⟨admitted, paired⟩ := targets id rfl
      apply Checked.safe_bind.mpr
      apply (afterSound.updateDialog admitted paired fun transaction present => by simp [role transaction present]).mono
      rintro ⟨updated, retransmission⟩ ⟨updatedSound, -⟩
      dsimp only
      split
      · exact ⟨updatedSound.dialogs, updatedSound.transactions, updatedSound.queues, updatedSound.received⟩
      · exact updatedSound

theorem Sound.onResponse (sound : provider.Sound) {state : TransactionState}
    (permitted : provider.permits (.responseReceived t resp state) = true) :
    Checked.Safe (provider.onResponse t resp state) Sound := by
  unfold Provider.onResponse
  cases present : provider.transactions[t]? with
  | none => exact sound
  | some transaction =>
      dsimp only
      split
      · exact sound
      · next active =>
          simp only [not_or, Bool.not_eq_true', Bool.not_eq_false] at active
          obtain ⟨client, left, alive, leaves⟩ := active
          have may : provider.mayRespond transaction resp = true := by
            simpa [permits, present, client, left, alive, leaves] using permitted
          exact (sound.moved t fun _ => leaves).notifyResponse (modify_getElem? present) client leaves may

/-- A client transaction that has got no response. -/
def Waiting (provider : Provider) (t : TransactionId) : Prop :=
  ∀ transaction, provider.transactions[t]? = some transaction →
    transaction.isClient = true ∧ transaction.lastResponse = none

theorem Waiting.mayTerminate (waiting : provider.Waiting t) :
    provider.mayTerminate t = true := by
  unfold Provider.mayTerminate
  cases present : provider.transactions[t]? with
  | none => rfl
  | some transaction =>
      have none_ := (waiting transaction present).2
      cases belongs : transaction.dialog with
      | none => simp [belongs]
      | some id =>
          cases provider.dialogs[id]? <;> simp [Dialog.admits, none_]

theorem Sound.dispatch (sound : provider.Sound) (waiting : provider.Waiting t) (outlet : Outlet) :
    Checked.Safe (provider.dispatch t outlet) Sound := by
  unfold Provider.dispatch
  apply Checked.safe_bind.mpr
  refine (sound.updateOwn ?_ ?_).mono ?_
  · intro transaction id present belongs dialog again hasDialog hasAgain
    rw [(waiting again hasAgain).2]
    rfl
  · intro transaction present
    rw [(waiting transaction present).1]
    rfl
  · rintro after ⟨afterSound, same⟩
    have still : after.Waiting t := by
      intro transaction present
      rw [same] at present
      exact waiting transaction present
    cases outlet with
    | ready => exact afterSound.moved t fun transaction => by split <;> decide
    | connecting => exact afterSound
    | noChannel => exact afterSound.terminate still.mayTerminate
    | badUris => exact afterSound.terminate still.mayTerminate

/-- A request joins the queue of its dialog. -/
theorem Sound.queueClientTransaction (sound : provider.Sound) (present : provider.transactions[t]? = some transaction)
    (queued : transaction.request.dialogQueued = true) :
    (provider.queueClientTransaction t transaction).Sound := by
  unfold Provider.queueClientTransaction
  split
  · exact sound
  · split
    · exact sound
    · next id belongs dialog hasDialog =>
        have among := List.mem_of_getElem? hasDialog
        obtain ⟨complete, server, client, fresh, waits, timed, invited, acked⟩ := sound.dialogs dialog among
        refine sound.set hasDialog
          ⟨complete, server, client, fresh, waits, timed, invited, acked⟩ rfl (fun new => new)
          (fun complete => complete) ?_
        intro other otherQueued
        rcases List.mem_append.mp otherQueued with old | new
        · exact sound.queues dialog among other old
        · rw [List.mem_singleton.mp new]
          exact ⟨transaction, present, queued⟩

/-- A queued request draws its number. -/
theorem Sound.updateRequest (sound : provider.Sound) (present : provider.transactions[t]? = some transaction)
    (client : transaction.isClient = true) (init : transaction.state = .init) :
    Checked.Safe (provider.updateRequest t transaction) fun after => after.Sound ∧ after.Waiting t := by
  have fits := sound.fits present
  have unsent := fits.unsent client init
  have waiting : provider.Waiting t := by
    intro other otherPresent
    rw [present] at otherPresent
    cases otherPresent
    exact ⟨client, unsent⟩
  unfold Provider.updateRequest
  split
  · next draws =>
      rw [Bool.or_eq_true] at draws
      have queued := draws.elim fits.flagged id
      obtain ⟨numbered, id, dialog, belongs, hasDialog, complete⟩ := fits.queued client init queued
      rw [belongs]
      simp only [Checked.deref_some, Checked.ok_bind, hasDialog]
      apply Checked.safe_bind.mpr
      apply ((sound.dialogs dialog (List.mem_of_getElem? hasDialog)).updateRequest complete numbered).mono
      rintro ⟨after, req⟩ ⟨follows, stillNumbered, stillQueued⟩
      have set := sound.follow hasDialog follows
      have presentSet : (provider.setDialog id after).transactions[t]? = some transaction := present
      constructor
      · apply set.modify
        intro other otherPresent
        have same : other = transaction := Option.some.inj (otherPresent.symm.trans presentSet)
        subst same
        have fitsSet := set.fits presentSet
        refine ⟨⟨fitsSet.inDialog, ?_, ?_, fitsSet.unsent, ?_, fitsSet.responded⟩, ?_⟩
        · intro client init _
          obtain ⟨-, own⟩ := fitsSet.queued client init queued
          exact ⟨stillNumbered, own⟩
        · exact fun flagged => stillQueued.trans (fitsSet.flagged flagged)
        · intro server
          exact absurd (server.symm.trans client) (by decide)
        · exact fun queued => stillQueued.trans queued
      · intro other otherPresent
        rw [modify_getElem? presentSet] at otherPresent
        cases otherPresent
        exact ⟨client, unsent⟩
  · exact ⟨sound, waiting⟩

theorem Sound.sendRequest (sound : provider.Sound) (t : TransactionId) (outlet : Outlet) :
    Checked.Safe (provider.sendRequest t outlet) Sound := by
  unfold Provider.sendRequest
  cases present : provider.transactions[t]? with
  | none => exact sound
  | some transaction =>
      dsimp only
      split
      · exact sound
      · next active =>
          simp only [not_or, Bool.not_eq_true', Bool.not_eq_false, ne_eq, not_not] at active
          obtain ⟨client, init, -⟩ := active
          have asks : Checked.Safe (provider.mustQueue transaction) fun busy =>
              busy = true → transaction.request.dialogQueued = true := by
            unfold mustQueue
            split
            · intro no
              cases no
            · next queued =>
                simp only [Bool.or_eq_true, Bool.not_eq_true', not_or, Bool.not_eq_false] at queued
                obtain ⟨-, id, dialog, belongs, -⟩ := (sound.fits present).queued client init queued.2
                rw [belongs]
                exact fun _ => queued.2
          apply Checked.safe_bind.mpr
          apply asks.mono
          intro busy queued
          split
          · next isBusy => exact sound.queueClientTransaction present (queued isBusy)
          · apply Checked.safe_bind.mpr
            apply (sound.updateRequest present client init).mono
            rintro after ⟨afterSound, waiting⟩
            exact afterSound.dispatch waiting outlet

/-- The dialog that a message is found to belong to suits a transaction of any role. -/
theorem belongs_found {found : Option DialogId}
    (finds : ∀ id, found = some id → ∃ dialog, provider.dialogs[id]? = some dialog ∧ dialog.visible = true)
    (belongs : transaction.dialog = found) :
    ∀ id, transaction.dialog = some id → ∃ dialog, provider.dialogs[id]? = some dialog ∧
      (dialog.state = .null → dialog.isServer = !transaction.isClient) := by
  intro id isDialog
  obtain ⟨dialog, present, seen⟩ := finds id (belongs.symm.trans isDialog)
  refine ⟨dialog, present, fun new => ?_⟩
  simp [Dialog.visible, new] at seen

theorem Sound.createClientTransaction (sound : provider.Sound) (req : Request) :
    Checked.Safe (provider.createClientTransaction req) Sound := by
  unfold Provider.createClientTransaction
  split
  · exact sound
  · split
    · trivial
    · apply Checked.safe_bind.mpr
      apply (findDialogFromMessage_safe sound.dialogs req.toHeaders false).mono
      intro found finds
      apply sound.add
      refine ⟨belongs_found finds rfl, ?_, ?_, fun _ _ => rfl, ?_, ?_⟩
      all_goals simp

theorem Sound.createServerTransaction (sound : provider.Sound) (checked : req.checkHeaders = true) (toTag : String)
    (channel : Bool) :
    Checked.Safe (provider.createServerTransaction req toTag channel) fun after => after.Sound ∧
      (req.method ≠ "ACK" → ∃ transaction, after.transactions[provider.transactions.length]? = some transaction ∧
        transaction.isClient = false ∧ transaction.request = req ∧
          ∀ resp, transaction.lastResponse = some resp → resp.statusCode = 100) := by
  unfold Provider.createServerTransaction
  split
  · next ack => exact ⟨sound, fun other => absurd ack other⟩
  · apply Checked.safe_bind.mpr
    apply (findDialogFromMessage_safe sound.dialogs req.toHeaders true).mono
    intro found finds
    have trying : ∀ resp, (if (decide (req.method = "INVITE") && channel) = true then
        some (Response.createFromRequest req 100) else none) = some resp → resp.statusCode = 100 := by
      intro resp
      split
      · rintro ⟨⟩
        rfl
      · intro none
        cases none
    constructor
    · apply sound.add
      refine ⟨belongs_found finds rfl, by simp, by simp, by simp, fun _ => checked, ?_⟩
      intro _ resp isLast above
      have := trying resp isLast
      omega
    · exact fun _ => ⟨_, List.getElem?_concat_length, rfl, rfl, trying⟩

/-- The transaction of a request that a complete dialog has made. -/
theorem Sound.addInDialog (sound : provider.Sound) {dialog : Dialog} (present : provider.dialogs[id]? = some dialog)
    {req : Option Request} (made : ∀ made, req = some made → dialog.complete = true ∧
      (made.dialogQueued = true → made.cseq.isSome = true)) : (provider.addInDialog id req).Sound := by
  unfold Provider.addInDialog
  split
  · exact sound
  · next req =>
      obtain ⟨complete, numbered⟩ := made req rfl
      have established : dialog.state ≠ .null := by
        intro new
        exact (sound.dialogs dialog (List.mem_of_getElem? present)).incomplete new complete
      split
      · exact sound
      · apply sound.add
        refine ⟨?_, ?_, by simp, fun _ _ => rfl, by simp, by simp⟩
        · rintro other ⟨⟩
          exact ⟨dialog, present, fun new => absurd new established⟩
        · exact fun _ _ queued => ⟨numbered queued, id, dialog, rfl, present, complete⟩

theorem setDialog_getElem? {before after : Dialog} (present : provider.dialogs[id]? = some before) :
    (provider.setDialog id after).dialogs[id]? = some after := by
  have inside := (List.getElem?_eq_some_iff.mp present).1
  simp [Provider.setDialog, inside]

theorem Sound.createRequest (sound : provider.Sound) (id : DialogId) (method : String) :
    Checked.Safe (provider.createRequest id method) Sound := by
  unfold Provider.createRequest
  cases present : provider.dialogs[id]? with
  | none => exact sound
  | some dialog =>
      have dialogSound := sound.dialogs dialog (List.mem_of_getElem? present)
      apply Checked.safe_bind.mpr
      apply (dialogSound.createRequest (provider.requestPending dialog) method).mono
      rintro ⟨after, req⟩ ⟨follows, -, made⟩
      apply (sound.follow present follows).addInDialog (setDialog_getElem? present)
      intro request isRequest
      obtain ⟨complete, -, unqueued⟩ := made request isRequest
      exact ⟨complete, fun queued => absurd (queued.symm.trans unqueued) (by decide)⟩

theorem Sound.createQueuedRequest (sound : provider.Sound) {method : String}
    (permitted : provider.permits (.createQueuedRequest id method) = true) :
    Checked.Safe (provider.createQueuedRequest id method) Sound := by
  unfold Provider.createQueuedRequest
  cases present : provider.dialogs[id]? with
  | none => exact sound
  | some dialog =>
      have ready : Dialog.establishes method = true ∨ dialog.complete = true := by
        simpa [permits, present] using permitted
      apply Checked.safe_bind.mpr
      apply (Dialog.createQueuedRequest_safe ready).mono
      rintro req ⟨numbered, complete⟩
      apply sound.addInDialog present
      rintro request rfl
      exact ⟨complete rfl, fun _ => by simpa using numbered⟩

theorem Sound.createAck (sound : provider.Sound) (id : DialogId) (cseq : Nat) :
    Checked.Safe (provider.createAck id cseq) Sound := by
  unfold Provider.createAck
  cases present : provider.dialogs[id]? with
  | none => exact sound
  | some dialog =>
      apply Checked.safe_bind.mpr
      exact ((sound.dialogs dialog (List.mem_of_getElem? present)).createAck cseq).mono fun _ _ => sound

theorem Sound.sendAck (sound : provider.Sound) {ack : Request} (permitted : provider.permits (.sendAck id ack) = true) :
    (provider.sendAck id ack).Sound := by
  unfold Provider.sendAck
  cases present : provider.dialogs[id]? with
  | none => exact sound
  | some dialog =>
      apply sound.follow present
      apply (sound.dialogs dialog (List.mem_of_getElem? present)).sendAck
      intro waiting
      simpa [permits, present, waiting] using permitted

theorem Sound.handleAck (sound : provider.Sound) (id : DialogId) {ack : Request} (checked : ack.checkHeaders = true) :
    Checked.Safe (provider.handleAck id ack) fun (after, _) => after.Sound := by
  unfold Provider.handleAck
  cases present : provider.dialogs[id]? with
  | none => exact sound
  | some dialog =>
      have numbered := (Request.checkHeaders_catchAll checked).2.2.1
      apply Checked.safe_bind.mpr
      apply ((sound.dialogs dialog (List.mem_of_getElem? present)).handleAck numbered).mono
      rintro ⟨after, recognised⟩ follows
      exact sound.follow present follows

/-- A field of a dialog that its invariant does not read changes, and its queue gets no longer. -/
theorem Sound.adjust (sound : provider.Sound) {before after : Dialog} (present : provider.dialogs[id]? = some before)
    (same : (after.isServer, after.state, after.callId, after.localParty, after.remoteParty, after.localTag,
        after.remoteTag, after.remoteTarget, after.needsAck, after.timer200OkEnd, after.lastOutInvite,
        after.lastOutAck) =
      (before.isServer, before.state, before.callId, before.localParty, before.remoteParty, before.localTag,
        before.remoteTag, before.remoteTarget, before.needsAck, before.timer200OkEnd, before.lastOutInvite,
        before.lastOutAck)) (queue : ∀ t ∈ after.queuedCt, t ∈ before.queuedCt) :
    (provider.setDialog id after).Sound := by
  have among := List.mem_of_getElem? present
  have follows : before.Follows { after with queuedCt := before.queuedCt } :=
    (sound.dialogs before among).unread same (Or.inl rfl)
  obtain ⟨complete, server, client, fresh, waits, timed, invited, acked⟩ := follows.sound
  exact sound.set present ⟨complete, server, client, fresh, waits, timed, invited, acked⟩ follows.role
    follows.aged follows.complete fun t queued => sound.queues before among t (queue t queued)

theorem Sound.processQueue (sound : provider.Sound) (id : DialogId) (outlet : Outlet) :
    Checked.Safe (provider.processQueue id outlet) Sound := by
  unfold Provider.processQueue
  cases present : provider.dialogs[id]? with
  | none => exact sound
  | some dialog =>
      dsimp only
      cases postponed : dialog.postponed with
      | zero => exact sound
      | succ rest =>
          dsimp only
          cases dequeues : provider.dequeued dialog with
          | none => exact sound.adjust present rfl fun t queued => queued
          | some t =>
              have queued : t ∈ dialog.queuedCt := by
                unfold dequeued at dequeues
                split at dequeues
                · cases dequeues
                · exact List.mem_of_head? dequeues
              obtain ⟨transaction, hasTransaction, flagged⟩ :=
                sound.queues dialog (List.mem_of_getElem? present) t queued
              have popped : (provider.setDialog id
                  { dialog with postponed := rest, queuedCt := dialog.queuedCt.tail }).Sound :=
                sound.adjust present rfl fun t queued => List.mem_of_mem_tail queued
              apply Sound.sendRequest
              apply popped.modify
              intro other otherPresent
              have same : other = transaction := Option.some.inj (otherPresent.symm.trans hasTransaction)
              subst same
              have fits := popped.fits otherPresent
              exact ⟨⟨fits.inDialog, fits.queued, fun _ => flagged, fits.unsent, fits.server, fits.responded⟩,
                fun queued => queued⟩

/-- The BYE of a dialog goes to its transaction. -/
theorem Sound.sendBye (sound : provider.Sound) {before after : Dialog} (present : provider.dialogs[id]? = some before)
    (follows : before.Follows after) {bye : Request} (made : after.Made "BYE" bye) (outlet : Outlet) :
    Checked.Safe (provider.sendBye id after bye outlet) Sound := by
  have set := sound.follow present follows
  have listed : (provider.setDialog id after).dialogs[id]? = some after := setDialog_getElem? present
  have established : after.state ≠ .null := by
    intro new
    exact follows.sound.incomplete new made.complete
  apply Sound.sendRequest
  apply set.add
  refine ⟨?_, ?_, by simp, fun _ _ => rfl, by simp, by simp⟩
  · rintro other ⟨⟩
    exact ⟨after, listed, fun new => absurd new established⟩
  · intro _ _ queued
    exact absurd (queued.symm.trans made.unqueued) (by decide)

theorem Sound.checkAckSent (sound : provider.Sound)
    (alive : ∀ dialog, provider.dialogs[id]? = some dialog → dialog.needsAck = true →
      dialog.state ≠ .terminated) (outlet : Outlet) :
    Checked.Safe (provider.checkAckSent id outlet) Sound := by
  unfold Provider.checkAckSent
  cases present : provider.dialogs[id]? with
  | none => exact sound
  | some dialog =>
      apply Checked.safe_bind.mpr
      apply ((sound.dialogs dialog (List.mem_of_getElem? present)).checkAckSent
        (provider.requestPending dialog) (alive dialog present)).mono
      rintro ⟨after, bye⟩ ⟨follows, made⟩
      cases bye with
      | none => exact sound.follow present follows
      | some bye => exact sound.sendBye present follows (made bye rfl) outlet

theorem Sound.on200OkEnd (sound : provider.Sound) (id : DialogId) (outlet : Outlet) :
    Checked.Safe (provider.on200OkEnd id outlet) Sound := by
  unfold Provider.on200OkEnd
  cases present : provider.dialogs[id]? with
  | none => exact sound
  | some dialog =>
      dsimp only
      split
      · next armed =>
          apply Checked.safe_bind.mpr
          apply ((sound.dialogs dialog (List.mem_of_getElem? present)).on200OkEnd
            (provider.requestPending dialog) armed).mono
          rintro ⟨after, bye⟩ ⟨follows, made⟩
          exact sound.sendBye present follows made outlet
      · exact sound

/-- A response that a server transaction sends has a tag, unless it is a 100. -/
theorem fillResponse_safe (transaction : Transaction) (hasTo : resp.statusCode = 100 ∨ resp.toHeader.isSome = true) :
    Checked.Safe (fillResponse transaction resp) fun filled =>
      filled.statusCode = resp.statusCode ∧
        (100 < filled.statusCode → filled.toHeader.any (·.tag.isSome) = true) := by
  unfold fillResponse
  split
  · next trying => exact ⟨rfl, by omega⟩
  · next other =>
      obtain ⟨toHeader, isTo⟩ := Option.isSome_iff_exists.mp (hasTo.resolve_left other)
      rw [isTo]
      simp only [Checked.deref_some, Checked.ok_bind]
      split
      · exact ⟨rfl, fun _ => by simp [Response.fillForDialog]⟩
      · exact ⟨rfl, fun _ => by simp⟩

/-- A server transaction sends a response that its dialog admits. -/
theorem Sound.sendFilled (sound : provider.Sound) (present : provider.transactions[t]? = some transaction)
    (server : transaction.isClient = false) (tagged : 100 < resp.statusCode → resp.toHeader.any (·.tag.isSome) = true)
    {accepted : Option TransactionState}
    (admitted : ∀ id dialog, transaction.dialog = some id → provider.dialogs[id]? = some dialog →
      dialog.admits transaction.request (if accepted.isSome then some resp else transaction.lastResponse) true = true) :
    Checked.Safe ((provider.keepResponse t resp accepted).updateOwn t true) Sound := by
  cases accepted with
  | none =>
      refine (sound.updateOwn ?_ ?_).mono fun after kept => kept.1
      · intro other id otherPresent belongs dialog again hasDialog hasAgain
        have same := Option.some.inj (otherPresent.symm.trans present)
        have alike := Option.some.inj (hasAgain.symm.trans present)
        subst same alike
        exact admitted id dialog belongs hasDialog
      · intro other otherPresent
        have same := Option.some.inj (otherPresent.symm.trans present)
        rw [same, server]
        rfl
  | some state =>
      have kept : (provider.keepResponse t resp (some state)).Sound := by
        apply sound.modify
        intro other otherPresent
        have same := Option.some.inj (otherPresent.symm.trans present)
        subst same
        have fits := sound.fits otherPresent
        refine ⟨⟨fits.inDialog, ?_, fits.flagged, ?_, fits.server, ?_⟩, fun queued => queued⟩
        · exact fun client => absurd (client.symm.trans server) (by decide)
        · exact fun client => absurd (client.symm.trans server) (by decide)
        · rintro _ last ⟨⟩ above
          exact tagged above
      have now : (provider.keepResponse t resp (some state)).transactions[t]? =
          some { transaction with state := state, lastResponse := some resp } := modify_getElem? present
      refine (kept.updateOwn ?_ ?_).mono fun after kept => kept.1
      · intro other id otherPresent belongs dialog again hasDialog hasAgain
        have same := Option.some.inj (otherPresent.symm.trans now)
        have alike := Option.some.inj (hasAgain.symm.trans now)
        subst same alike
        exact admitted id dialog belongs hasDialog
      · intro other otherPresent
        have same := Option.some.inj (otherPresent.symm.trans now)
        rw [same, show ({ transaction with state := state, lastResponse := some resp } : Transaction).isClient =
          false from server]
        rfl

theorem Sound.sendResponse (sound : provider.Sound) {channel : Bool} {accepted : Option TransactionState}
    (permitted : provider.permits (.sendResponse t resp channel accepted) = true) :
    Checked.Safe (provider.sendResponse t resp channel accepted) Sound := by
  unfold Provider.sendResponse
  cases present : provider.transactions[t]? with
  | none => exact sound
  | some transaction =>
      dsimp only
      split
      · exact sound
      · next sends =>
          simp only [not_or, Bool.not_eq_true] at sends
          have may : provider.maySend transaction resp accepted = true := by
            simp only [permits, present, Option.all_some, Bool.or_eq_true, Bool.and_eq_true,
              decide_eq_true_eq] at permitted
            rcases permitted with (client | silent) | may
            · exact absurd (client.symm.trans sends.1) (by decide)
            · exact absurd silent sends.2
            · exact may
          unfold maySend at may
          split at may
          · cases may
          · next filled isFilled =>
              have hasTo : resp.statusCode = 100 ∨ resp.toHeader.isSome = true := by
                by_cases trying : resp.statusCode = 100
                · exact Or.inl trying
                · cases hasTo : resp.toHeader with
                  | some toHeader => exact Or.inr rfl
                  | none =>
                      unfold fillResponse at isFilled
                      rw [if_neg trying, hasTo] at isFilled
                      cases isFilled
              have tagged := (fillResponse_safe transaction hasTo).elim isFilled
              rw [isFilled, Checked.ok_bind]
              apply sound.sendFilled present sends.1 tagged.2
              intro id dialog belongs hasDialog
              simpa [belongs, hasDialog] using may

/-- A dialog takes a refusal from the provider itself in every state. -/
theorem admits_refusal (dialog : Dialog) (req : Request) (code : resp.statusCode = 100 ∨ 300 ≤ resp.statusCode)
    (asUas : Bool) :
    dialog.admits req (some resp) asUas = true := by
  unfold Dialog.admits
  rw [Option.all_some]
  split
  · rcases code with trying | refused
    · simp [Dialog.admitsNew, trying]
    · simp [Dialog.admitsNew, refused]
  · rcases code with trying | refused
    · simp [Dialog.admitsEarly, trying]
    · simp [Dialog.admitsEarly, refused]
  · rcases code with trying | refused
    · simp [Dialog.admitsRefresh, trying]
    · simp [Dialog.admitsRefresh, refused]
  · rfl

theorem Sound.answer (sound : provider.Sound) (checked : req.checkHeaders = true) (request : req.method ≠ "ACK")
    {statusCode : Nat} (refuses : 300 ≤ statusCode) (toTag : String) (channel : Bool)
    (accepted : Option TransactionState) :
    Checked.Safe (provider.answer req statusCode toTag channel accepted) Sound := by
  have hasTo := (Request.checkHeaders_catchAll checked).1
  unfold Provider.answer
  apply Checked.safe_bind.mpr
  apply (sound.createServerTransaction checked toTag channel).mono
  rintro answering ⟨answeringSound, created⟩
  obtain ⟨transaction, present, server, isReq, trying⟩ := created request
  unfold Provider.sendResponse
  rw [present]
  dsimp only
  split
  · exact answeringSound
  · apply Checked.safe_bind.mpr
    have tagged : (Response.createFromRequest req statusCode).statusCode = 100 ∨
        (Response.createFromRequest req statusCode).toHeader.isSome = true := Or.inr hasTo
    apply (fillResponse_safe transaction tagged).mono
    rintro filled ⟨code, tagged⟩
    apply answeringSound.sendFilled present server tagged
    intro id dialog _ _
    split
    · have above : 300 ≤ filled.statusCode := code ▸ refuses
      exact admits_refusal dialog _ (Or.inr above) true
    · cases last : transaction.lastResponse with
      | none => rfl
      | some resp => exact admits_refusal dialog _ (Or.inl (trying resp last)) true

theorem Sound.offer (sound : provider.Sound) (checked : req.checkHeaders = true) (toTag : String) (channel : Bool)
    (accepted : Option TransactionState) :
    Checked.Safe (provider.offer req toTag channel accepted) Sound := by
  unfold Provider.offer
  split
  · next unconditional => exact sound.answer checked unconditional.2 (by decide) toTag channel accepted
  · refine ⟨sound.dialogs, sound.transactions, sound.queues, ?_⟩
    intro other among
    rcases List.mem_cons.mp among with rfl | among
    · exact checked
    · exact sound.received other among

theorem Sound.onRequest (sound : provider.Sound) (t : TransactionId) (checked : req.checkHeaders = true) :
    Checked.Safe (provider.onRequest t req) Sound := by
  unfold Provider.onRequest
  cases provider.transactions[t]? with
  | none => exact sound
  | some transaction =>
      dsimp only
      split
      · split
        · exact sound
        · next id _ =>
            apply Checked.safe_bind.mpr
            apply (sound.handleAck id checked).mono
            rintro ⟨after, recognised⟩ afterSound
            exact afterSound
      · exact sound

theorem Sound.dispatchRequest (sound : provider.Sound) (checked : req.checkHeaders = true)
    (matched : Option TransactionId) (toTag : String) (channel : Bool) (accepted : Option TransactionState) :
    Checked.Safe (provider.dispatchRequest req matched toTag channel accepted) Sound := by
  unfold Provider.dispatchRequest
  cases matched with
  | some t => exact sound.onRequest t checked
  | none =>
      apply Checked.safe_bind.mpr
      apply (findDialogFromMessage_safe sound.dialogs req.toHeaders true).mono
      intro found _
      cases found with
      | none => exact sound.offer checked toTag channel accepted
      | some id =>
          dsimp only
          split
          · apply Checked.safe_bind.mpr
            apply (sound.handleAck id checked).mono
            rintro ⟨after, recognised⟩ afterSound
            dsimp only
            split
            · exact afterSound.offer checked toTag channel accepted
            · exact afterSound
          · next request =>
              split
              · exact sound.offer checked toTag channel accepted
              · exact sound.answer checked request (by decide) toTag channel accepted

theorem Sound.createDialog (sound : provider.Sound) (permitted : provider.permits (.createDialog t) = true) :
    Checked.Safe (provider.createDialog t) Sound := by
  unfold Provider.createDialog
  cases present : provider.transactions[t]? with
  | none => exact sound
  | some transaction =>
      dsimp only
      split
      · trivial
      · unfold Provider.createDialogInternal
        rw [present]
        dsimp only
        split
        · exact sound
        · next dialog created =>
            apply sound.addDialog present created
            simpa [permits, present] using permitted

theorem Sound.resume (sound : provider.Sound) {outlet : Outlet} (permitted : provider.permits (.resume outlet) = true) :
    Checked.Safe (provider.resume outlet) Sound := by
  have popped : ∀ rest, { provider with pending := rest }.Sound := fun _ =>
    ⟨sound.dialogs, sound.transactions, sound.queues, sound.received⟩
  unfold Provider.resume
  unfold permits at permitted
  cases pending : provider.pending with
  | nil => exact sound
  | cons call rest =>
      rw [pending] at permitted
      cases call with
      | terminate t => exact (popped rest).terminate permitted
      | checkAckSent id =>
          apply (popped rest).checkAckSent
          intro dialog present waiting
          have listed : provider.dialogs[id]? = some dialog := present
          simpa [listed, waiting] using permitted

/-- A permitted event reads no null pointer and keeps the invariant. -/
theorem Sound.handle (sound : provider.Sound) {event : Event} (permitted : provider.permits event = true) :
    Checked.Safe (provider.handle event) Sound := by
  cases event with
  | createDialog t => exact sound.createDialog permitted
  | createClientTransaction req => exact sound.createClientTransaction req
  | createServerTransaction req toTag channel =>
      dsimp only [Provider.handle]
      split
      · next given =>
          exact (sound.createServerTransaction (sound.received req given) toTag channel).mono fun _ kept => kept.1
      · exact sound
  | createRequest id method => exact sound.createRequest id method
  | createQueuedRequest id method => exact sound.createQueuedRequest permitted
  | createAck id cseq => exact sound.createAck id cseq
  | sendAck id ack => exact sound.sendAck permitted
  | sendRequest t outlet => exact sound.sendRequest t outlet
  | channelReady t =>
      dsimp only [Provider.handle, Provider.channelReady]
      split
      · exact sound.moved t fun transaction => by split <;> decide
      · exact sound
  | processQueue id outlet => exact sound.processQueue id outlet
  | responseReceived t resp state => exact sound.onResponse permitted
  | requestReceived req matched toTag channel accepted =>
      dsimp only [Provider.handle]
      split
      · next checked => exact sound.dispatchRequest checked matched toTag channel accepted
      · exact sound
  | sendResponse t resp channel accepted => exact sound.sendResponse permitted
  | transactionMoves t state =>
      dsimp only [Provider.handle, move]
      split
      · exact sound
      · next left => exact sound.moved t fun _ => left
  | terminate t => exact sound.terminate permitted
  | timer200OkEnd id outlet => exact sound.on200OkEnd id outlet
  | resume outlet => exact sound.resume permitted
  | findDialog callId fromTag toTag =>
      apply Checked.safe_bind.mpr
      exact (findDialog_safe sound.dialogs permitted).mono fun _ _ => sound
  | terminateOnBye id value =>
      dsimp only [Provider.handle, Provider.terminateOnBye]
      cases present : provider.dialogs[id]? with
      | none => exact sound
      | some dialog => exact sound.adjust present rfl fun t queued => queued
  | deleteDialog id =>
      dsimp only [Provider.handle, Provider.deleteDialog]
      cases present : provider.dialogs[id]? with
      | none => exact sound
      | some dialog =>
          exact sound.leave present (sound.dialogs dialog (List.mem_of_getElem? present)).delete

theorem step_sound {state : Checked Provider} (sound : Checked.Safe state Sound) {event : Event}
    (permitted : Permitted state event) : Checked.Safe (step state event) Sound := by
  apply Checked.safe_bind.mpr
  cases state with
  | ok provider => exact sound.handle permitted
  | error fault =>
      cases fault with
      | nullPointer | overread => exact False.elim sound
      | fatal => trivial

/-- The dialogs in use have all the fields that a request is built from. -/
def Usable (provider : Provider) : Prop :=
  ∀ dialog ∈ provider.dialogs, dialog.visible = true → dialog.complete = true

/-- A provider without dialogs and transactions. -/
def fresh (unconditionalAnswerEnabled : Bool) : Provider where
  unconditionalAnswerEnabled := unconditionalAnswerEnabled

theorem fresh_sound (unconditionalAnswerEnabled : Bool) : (fresh unconditionalAnswerEnabled).Sound := by
  refine ⟨?_, ?_, ?_, ?_⟩ <;> simp [fresh]

/-- In every run of permitted events, the dialogs in use are complete and no null pointer is read. -/
theorem run_usable (unconditionalAnswerEnabled : Bool) {events : List Event}
    (permitted : Machine.Along step Permitted (.ok (fresh unconditionalAnswerEnabled)) events) :
    Checked.Safe (Machine.run step (.ok (fresh unconditionalAnswerEnabled)) events) Usable := by
  have preserved : ∀ (state : Checked Provider) (event : Event), Checked.Safe state Sound →
      Permitted state event → Checked.Safe (step state event) Sound := by
    intro state event sound guard
    exact step_sound sound guard
  have start : Checked.Safe (.ok (fresh unconditionalAnswerEnabled)) Sound :=
    Checked.safe_ok.mpr (fresh_sound unconditionalAnswerEnabled)
  have sound : Checked.Safe (Machine.run step (.ok (fresh unconditionalAnswerEnabled)) events) Sound :=
    Machine.run_invariant preserved start permitted
  apply sound.mono
  intro provider sound dialog among seen
  exact (sound.dialogs dialog among).complete seen

/-- An INVITE of the application. -/
def outgoingInvite : Request where
  method := "INVITE"
  callId := some "call"
  cseq := some { seqNumber := 20, method := "INVITE" }
  fromHeader := some { uri := some { text := "sip:alice@10.0.0.1" }, tag := some "alice" }
  toHeader := some { uri := some { text := "sip:bob@10.0.0.2" } }
  vias := [{}]
  maxForwards := true
  uri := some { text := "sip:bob@10.0.0.2" }

/-- A response to that INVITE. -/
def inviteResponse (statusCode : Nat) (toTag : Option String) (contact : Option HeaderAddress) : Response where
  statusCode := statusCode
  callId := some "call"
  cseq := some { seqNumber := 20, method := "INVITE" }
  fromHeader := some { uri := some { text := "sip:alice@10.0.0.1" }, tag := some "alice" }
  toHeader := some { uri := some { text := "sip:bob@10.0.0.2" }, tag := toTag }
  vias := [{ branch := some "z9hG4bK.1" }]
  contact := contact

/-- The Contact of the callee. -/
def callee : HeaderAddress where
  uri := some { text := "sip:bob@10.0.0.2:5060" }

theorem run_usable_call :
    Checked.Safe (Machine.run step (.ok (fresh false))
      [.createClientTransaction outgoingInvite, .sendRequest 0 .ready,
        .responseReceived 0 (inviteResponse 180 (some "bob") (some callee)) .proceeding, .resume .ready,
        .responseReceived 0 (inviteResponse 200 (some "bob") none) .accepted, .createAck 0 20,
        .sendAck 0 { outgoingInvite with method := "ACK" }, .resume .ready, .createRequest 0 "BYE",
        .sendRequest 1 .ready]) Usable :=
  run_usable false (by decide)

/-- A provisional response without Contact leaves an early dialog from which no request can be built. -/
theorem early_without_target :
    (∃ provider dialog, Machine.run step (.ok (fresh false))
        [.createClientTransaction outgoingInvite, .sendRequest 0 .ready,
          .responseReceived 0 (inviteResponse 180 (some "bob") none) .proceeding] = .ok provider ∧
      provider.dialogs = [dialog] ∧ dialog.state = .early ∧ dialog.remoteTarget = none) ∧
    Machine.run step (.ok (fresh false))
      [.createClientTransaction outgoingInvite, .sendRequest 0 .ready,
        .responseReceived 0 (inviteResponse 180 (some "bob") none) .proceeding, .resume .ready,
        .createRequest 0 "UPDATE"] = .error .nullPointer :=
  ⟨⟨_, _, rfl, rfl, rfl, rfl⟩, rfl⟩

end Provider

end BelleSip
