import BelleSip.Provider.Machine

/-
This file defines the invariant of a provider and proves what a change of one dialog or one transaction
keeps of it.
-/

namespace BelleSip

open Foundation

namespace Provider

/-- What the transactions of a provider satisfy beside its dialogs. -/
structure Fits (dialogs : List Dialog) (transaction : Transaction) : Prop where
  inDialog : ∀ id, transaction.dialog = some id → ∃ dialog, dialogs[id]? = some dialog ∧
    (dialog.state = .null → dialog.isServer = !transaction.isClient)
  queued : transaction.isClient = true → transaction.state = .init →
    transaction.request.dialogQueued = true → transaction.request.cseq.isSome ∧
      ∃ id dialog, transaction.dialog = some id ∧ dialogs[id]? = some dialog ∧ dialog.complete = true
  flagged : transaction.sentByDialogQueue = true → transaction.request.dialogQueued = true
  unsent : transaction.isClient = true → transaction.state = .init → transaction.lastResponse = none
  server : transaction.isClient = false → transaction.request.checkHeaders = true
  responded : transaction.isClient = false → ∀ resp, transaction.lastResponse = some resp →
    100 < resp.statusCode → resp.toHeader.any (·.tag.isSome) = true

/-- The invariant of a provider. -/
structure Sound (provider : Provider) : Prop where
  dialogs : ∀ dialog ∈ provider.dialogs, dialog.Sound
  transactions : ∀ transaction ∈ provider.transactions, Fits provider.dialogs transaction
  queues : ∀ dialog ∈ provider.dialogs, ∀ t ∈ dialog.queuedCt, ∃ transaction : Transaction,
    provider.transactions[t]? = some transaction ∧ transaction.request.dialogQueued = true
  received : ∀ req ∈ provider.received, req.checkHeaders = true

/-- Every dialog keeps its role and what it has. -/
def Grows (before after : List Dialog) : Prop :=
  ∀ (id : DialogId) (dialog : Dialog), before[id]? = some dialog → ∃ later, after[id]? = some later ∧
    later.isServer = dialog.isServer ∧ (later.state = .null → dialog.state = .null) ∧
      (dialog.complete = true → later.complete = true)

theorem grows_append (dialogs : List Dialog) (dialog : Dialog) : Grows dialogs (dialogs ++ [dialog]) := by
  intro id old present
  have inside := (List.getElem?_eq_some_iff.mp present).1
  refine ⟨old, ?_, rfl, fun new => new, fun complete => complete⟩
  rw [List.getElem?_append_left inside, present]

variable {provider : Provider} {t : TransactionId} {transaction : Transaction} {id : DialogId} {before after : Dialog}

theorem grows_set {dialogs : List Dialog} (present : dialogs[id]? = some before)
    (role : after.isServer = before.isServer) (aged : after.state = .null → before.state = .null)
    (complete : before.complete = true → after.complete = true) : Grows dialogs (dialogs.set id after) := by
  intro other dialog among
  rw [List.getElem?_set]
  split
  · next same =>
      subst same
      rw [present] at among
      cases among
      rw [if_pos (List.getElem?_eq_some_iff.mp present).1]
      exact ⟨after, rfl, role, aged, complete⟩
  · exact ⟨dialog, among, rfl, fun new => new, fun complete => complete⟩

theorem Fits.mono {before after : List Dialog} (fits : Fits before transaction) (grows : Grows before after) :
    Fits after transaction where
  inDialog := by
    intro id belongs
    obtain ⟨dialog, present, role⟩ := fits.inDialog id belongs
    obtain ⟨later, still, sameRole, aged, -⟩ := grows id dialog present
    exact ⟨later, still, fun new => sameRole.trans (role (aged new))⟩
  queued := by
    intro client init queued
    obtain ⟨numbered, id, dialog, belongs, present, complete⟩ := fits.queued client init queued
    obtain ⟨later, still, -, -, completes⟩ := grows id dialog present
    exact ⟨numbered, id, later, belongs, still, completes complete⟩
  flagged := fits.flagged
  unsent := fits.unsent
  server := fits.server
  responded := fits.responded

theorem mem_set_cases {dialogs : List Dialog} {dialog other : Dialog} (among : other ∈ dialogs.set id dialog) :
    other = dialog ∨ other ∈ dialogs :=
  (List.mem_or_eq_of_mem_set among).symm

/-- A dialog takes a new value. -/
theorem Sound.set (sound : provider.Sound) (present : provider.dialogs[id]? = some before) (afterSound : after.Sound)
    (role : after.isServer = before.isServer) (aged : after.state = .null → before.state = .null)
    (complete : before.complete = true → after.complete = true)
    (queue : ∀ t ∈ after.queuedCt, ∃ transaction : Transaction,
      provider.transactions[t]? = some transaction ∧ transaction.request.dialogQueued = true) :
    (provider.setDialog id after).Sound where
  dialogs := by
    intro dialog among
    rcases mem_set_cases among with rfl | among
    · exact afterSound
    · exact sound.dialogs dialog among
  transactions := fun transaction among =>
    (sound.transactions transaction among).mono (grows_set present role aged complete)
  queues := by
    intro dialog among
    rcases mem_set_cases among with rfl | among
    · exact queue
    · exact sound.queues dialog among
  received := sound.received

theorem Sound.follow (sound : provider.Sound) (present : provider.dialogs[id]? = some before)
    (follows : before.Follows after) :
    (provider.setDialog id after).Sound := by
  apply sound.set present follows.sound follows.role follows.aged follows.complete
  intro t among
  rcases follows.queue with same | empty
  · rw [same] at among
    exact sound.queues before (List.mem_of_getElem? present) t among
  · rw [empty] at among
    cases among

/-- A transaction changes and stays queued if it was. -/
theorem Sound.modify (sound : provider.Sound) {change : Transaction → Transaction}
    (fits : ∀ transaction, provider.transactions[t]? = some transaction →
      Fits provider.dialogs (change transaction) ∧
        (transaction.request.dialogQueued = true → (change transaction).request.dialogQueued = true)) :
    (provider.modify t change).Sound where
  dialogs := sound.dialogs
  transactions := by
    intro transaction among
    obtain ⟨other, present⟩ := List.mem_iff_getElem?.mp among
    simp only [Provider.modify, List.getElem?_modify, Option.map_eq_map, Option.map_eq_some_iff] at present
    obtain ⟨old, present, isNew⟩ := present
    split at isNew
    · next same =>
        rw [← isNew]
        exact (fits old (same ▸ present)).1
    · rw [← isNew]
      exact sound.transactions old (List.mem_of_getElem? present)
  queues := by
    intro dialog among other queued
    obtain ⟨old, present, flagged⟩ := sound.queues dialog among other queued
    simp only [Provider.modify, List.getElem?_modify, Option.map_eq_map, Option.map_eq_some_iff]
    refine ⟨_, ⟨old, present, rfl⟩, ?_⟩
    split
    · next same => exact (fits old (same ▸ present)).2 flagged
    · exact flagged
  received := sound.received

/-- A transaction is added. -/
theorem Sound.add (sound : provider.Sound) (fits : Fits provider.dialogs transaction) :
    (provider.add transaction).Sound where
  dialogs := sound.dialogs
  transactions := by
    intro other among
    rcases List.mem_append.mp among with among | new
    · exact sound.transactions other among
    · rw [List.mem_singleton.mp new]
      exact fits
  queues := by
    intro dialog among t queued
    obtain ⟨old, present, flagged⟩ := sound.queues dialog among t queued
    refine ⟨old, ?_, flagged⟩
    exact (List.getElem?_append_left (List.getElem?_eq_some_iff.mp present).1).trans present
  received := sound.received

/-- A client transaction that is not in its first state, or whose request is not queued, has nothing to
wait for. -/
theorem Fits.advance {dialogs : List Dialog} {transaction after : Transaction} (fits : Fits dialogs transaction)
    (role : after.isClient = transaction.isClient) (request : after.request = transaction.request)
    (dialog : after.dialog = transaction.dialog)
    (flag : after.sentByDialogQueue = transaction.sentByDialogQueue) (left : after.state ≠ .init)
    (responded : after.isClient = false → ∀ resp, after.lastResponse = some resp →
      100 < resp.statusCode → resp.toHeader.any (·.tag.isSome) = true) : Fits dialogs after where
  inDialog := by
    intro id belongs
    rw [role]
    exact fits.inDialog id (dialog ▸ belongs)
  queued := fun _ init => absurd init left
  flagged := by
    rw [flag, request]
    exact fits.flagged
  unsent := fun _ init => absurd init left
  server := by
    rw [role, request]
    exact fits.server
  responded := responded

/-- A transaction changes its state. -/
theorem Sound.moved (sound : provider.Sound) (t : TransactionId) {state : Transaction → TransactionState}
    (left : ∀ transaction, state transaction ≠ .init) :
    (provider.modify t fun transaction => { transaction with state := state transaction }).Sound := by
  apply sound.modify
  intro transaction present
  have fits := sound.transactions transaction (List.mem_of_getElem? present)
  exact ⟨fits.advance rfl rfl rfl rfl (left transaction) fits.responded, fun queued => queued⟩

/-- What the transactions waiting on the stack are does not matter. -/
theorem Sound.leave (sound : provider.Sound) (present : provider.dialogs[id]? = some before)
    (follows : before.Follows after) :
    (provider.leave id before after).Sound := by
  obtain ⟨dialogs, transactions, queues, received⟩ := sound.follow present follows
  exact ⟨dialogs, transactions, queues, received⟩

/-- The condition under which a transaction updates a dialog. -/
def Admitted (provider : Provider) (id : DialogId) (t : TransactionId) (asUas : Bool) : Prop :=
  ∀ dialog transaction, provider.dialogs[id]? = some dialog → provider.transactions[t]? = some transaction →
    dialog.admits transaction.request transaction.lastResponse asUas = true

/-- The transaction and the dialog have one role as long as the dialog is new. -/
def Paired (provider : Provider) (id : DialogId) (t : TransactionId) : Prop :=
  ∀ dialog transaction, provider.dialogs[id]? = some dialog → provider.transactions[t]? = some transaction →
    dialog.state = .null → dialog.isServer = !transaction.isClient

theorem Sound.updateDialog (sound : provider.Sound) {asUas : Bool} (admitted : provider.Admitted id t asUas)
    (paired : provider.Paired id t)
    (role : ∀ transaction, provider.transactions[t]? = some transaction → asUas = !transaction.isClient) :
    Checked.Safe (provider.updateDialog id t asUas) fun (after, _) =>
      after.Sound ∧ after.transactions = provider.transactions := by
  unfold Provider.updateDialog
  split
  · next dialog transaction hasDialog hasTransaction =>
      have fits := sound.transactions transaction (List.mem_of_getElem? hasTransaction)
      have uas := role transaction hasTransaction
      apply Checked.safe_bind.mpr
      have numbered : asUas = true → transaction.request.cseq.isSome = true := by
        intro isUas
        rw [isUas, eq_comm, Bool.not_eq_true'] at uas
        exact (Request.checkHeaders_catchAll (fits.server uas)).2.2.1
      have tagged : dialog.state = .null → dialog.isServer = true → ∀ resp, transaction.lastResponse = some resp →
          100 < resp.statusCode → resp.toHeader.any (·.tag.isSome) = true := by
        intro new server
        have pair := paired dialog transaction hasDialog hasTransaction new
        rw [server, eq_comm, Bool.not_eq_true'] at pair
        exact fits.responded pair
      apply ((sound.dialogs dialog (List.mem_of_getElem? hasDialog)).update
        (admitted dialog transaction hasDialog hasTransaction) numbered tagged).mono
      rintro ⟨after, retransmission⟩ follows
      exact ⟨sound.leave hasDialog follows, rfl⟩
  · exact ⟨sound, rfl⟩

theorem Sound.fits (sound : provider.Sound) (present : provider.transactions[t]? = some transaction) :
    Fits provider.dialogs transaction :=
  sound.transactions transaction (List.mem_of_getElem? present)

/-- A transaction has the role of its dialog as long as the dialog is new. -/
theorem Sound.paired (sound : provider.Sound)
    (belongs : ∀ transaction, provider.transactions[t]? = some transaction → transaction.dialog = some id) :
    provider.Paired id t := by
  intro dialog transaction hasDialog hasTransaction
  obtain ⟨own, present, role⟩ := (sound.fits hasTransaction).inDialog id (belongs transaction hasTransaction)
  rw [hasDialog] at present
  cases present
  exact role

theorem Sound.updateOwn (sound : provider.Sound) {asUas : Bool}
    (admitted : ∀ transaction id, provider.transactions[t]? = some transaction → transaction.dialog = some id →
      provider.Admitted id t asUas)
    (role : ∀ transaction, provider.transactions[t]? = some transaction → asUas = !transaction.isClient) :
    Checked.Safe (provider.updateOwn t asUas) fun after =>
      after.Sound ∧ after.transactions = provider.transactions := by
  unfold Provider.updateOwn
  split
  · exact ⟨sound, rfl⟩
  · next id belongs =>
      obtain ⟨transaction, present, isDialog⟩ := Option.bind_eq_some_iff.mp belongs
      have paired : provider.Paired id t := by
        apply sound.paired
        intro other otherPresent
        rw [present] at otherPresent
        cases otherPresent
        exact isDialog
      apply Checked.safe_bind.mpr
      apply (sound.updateDialog (admitted transaction id present isDialog) paired role).mono
      rintro ⟨after, retransmission⟩ kept
      exact kept

theorem modify_getElem? {change : Transaction → Transaction} (present : provider.transactions[t]? = some transaction) :
    (provider.modify t change).transactions[t]? = some (change transaction) := by
  simp [Provider.modify, present]

theorem Sound.terminate (sound : provider.Sound) (may : provider.mayTerminate t = true) :
    Checked.Safe (provider.terminate t) Sound := by
  unfold Provider.terminate
  split
  · exact sound
  · next transaction present =>
      split
      · exact sound
      · next alive =>
          have ended : (provider.modify t fun transaction => { transaction with state := .terminated }).Sound :=
            sound.moved t fun _ => by decide
          have now : (provider.modify t fun transaction => { transaction with state := .terminated }).transactions[t]? =
              some { transaction with state := .terminated } := modify_getElem? present
          split
          · next unanswered =>
              have same : ∀ other, (provider.modify t fun transaction =>
                  { transaction with state := .terminated }).transactions[t]? = some other →
                  other = { transaction with state := .terminated } := by
                intro other otherPresent
                rw [now] at otherPresent
                exact (Option.some.inj otherPresent).symm
              refine (ended.updateOwn ?_ ?_).mono fun after kept => kept.1
              · intro other id otherPresent belongs dialog again hasDialog hasAgain
                rw [same other otherPresent] at belongs
                rw [same again hasAgain]
                have hasOld : provider.dialogs[id]? = some dialog := hasDialog
                simpa [mayTerminate, present, alive, unanswered, show transaction.dialog = some id from belongs,
                  hasOld] using may
              · intro other otherPresent
                rw [same other otherPresent]
          · exact ended

/-- A new dialog has the role of its transaction and nothing else that matters. -/
theorem new_sound {isServer : Bool} {request : Request} {lastResponse : Option Response} {dialog : Dialog}
    (created : Dialog.new isServer request lastResponse = some dialog) :
    dialog.Sound ∧ dialog.isServer = isServer ∧ dialog.state = .null ∧ dialog.queuedCt = [] := by
  unfold Dialog.new at created
  obtain ⟨fromHeader, -, created⟩ := Option.bind_eq_some_iff.mp created
  obtain ⟨fromTag, -, created⟩ := Option.bind_eq_some_iff.mp created
  obtain ⟨toTag, made⟩ : ∃ toTag, (if isServer = true then
      some { isServer := true, remoteParty := some fromHeader, localTag := toTag, remoteTag := some fromTag }
      else some { isServer := false, localParty := some fromHeader, localTag := some fromTag, remoteTag := toTag,
                  routeSet := request.routes }) = some dialog := by
    cases lastResponse with
    | none => exact ⟨none, created⟩
    | some resp =>
        obtain ⟨toTag, -, made⟩ := Option.bind_eq_some_iff.mp created
        exact ⟨toTag, made⟩
  cases isServer with
  | true =>
      cases made
      refine ⟨⟨?_, fun _ => ⟨rfl, rfl⟩, ?_, fun _ => rfl, ?_, ?_, ?_, ?_⟩, rfl, rfl, rfl⟩
      all_goals simp [Dialog.visible]
  | false =>
      cases made
      refine ⟨⟨?_, ?_, fun _ => ⟨rfl, rfl⟩, fun _ => rfl, ?_, ?_, ?_, ?_⟩, rfl, rfl, rfl⟩
      all_goals simp [Dialog.visible]

/-- A new dialog is listed for a transaction that does not wait for another one. -/
theorem Sound.addDialog (sound : provider.Sound) (present : provider.transactions[t]? = some transaction)
    {dialog : Dialog} {lastResponse : Option Response}
    (created : Dialog.new (!transaction.isClient) transaction.request lastResponse = some dialog)
    (free : transaction.state ≠ .init ∨ transaction.request.dialogQueued = false) :
    (provider.addDialog t dialog).Sound := by
  obtain ⟨dialogSound, role, new, noQueue⟩ := new_sound created
  have listed : { provider with dialogs := provider.dialogs ++ [dialog] }.Sound := by
    refine ⟨?_, ?_, ?_, sound.received⟩
    · intro other among
      rcases List.mem_append.mp among with among | isNew
      · exact sound.dialogs other among
      · rw [List.mem_singleton.mp isNew]
        exact dialogSound
    · intro other among
      exact (sound.transactions other among).mono (grows_append _ _)
    · intro other among
      rcases List.mem_append.mp among with among | isNew
      · exact sound.queues other among
      · rw [List.mem_singleton.mp isNew, noQueue]
        simp
  show ({ provider with dialogs := provider.dialogs ++ [dialog] }.modify t fun transaction =>
    { transaction with dialog := some provider.dialogs.length }).Sound
  apply listed.modify
  intro other otherPresent
  have same : other = transaction := Option.some.inj (otherPresent.symm.trans present)
  subst same
  have fits := listed.fits otherPresent
  refine ⟨⟨?_, ?_, fits.flagged, fits.unsent, fits.server, fits.responded⟩, fun queued => queued⟩
  · intro id belongs
    cases belongs
    exact ⟨dialog, List.getElem?_concat_length, fun _ => role⟩
  · intro client init queued
    rcases free with left | unqueued
    · exact absurd init left
    · exact absurd (queued.symm.trans unqueued) (by decide)

end Provider

end BelleSip
