import BelleSip.Dialog.Ack
import BelleSip.Provider.Identity
import BelleSip.Provider.Soundness

/-
This file proves that the provider tells its dialogs apart in every run whose responses name no dialog twice.
-/

namespace BelleSip

open Foundation
open Foundation.Checked (OnReturn)

namespace Provider

theorem mayName_none (provider : Provider) (dialog : Dialog) (req : Request) :
    provider.mayName dialog req none = true := by simp [mayName, Dialog.establishing]

/-- A dialog that is not new takes its identifiers from no response. -/
theorem mayName_known {provider : Provider} {dialog : Dialog} (known : dialog.state ≠ .null) (req : Request)
    (resp : Option Response) : provider.mayName dialog req resp = true := by
  simp [mayName, Dialog.establishing, known]

theorem visible_known {dialog : Dialog} (seen : dialog.visible = true) : dialog.state ≠ .null := by
  intro new
  simp [Dialog.visible, new] at seen

theorem mayNameOwn_none (provider : Provider) (transaction : Transaction) :
    provider.mayNameOwn transaction none = true := by
  unfold mayNameOwn
  cases transaction.dialog with
  | none => rfl
  | some id => cases provider.dialogs[id]? <;> simp [mayName_none]

namespace Identified

variable {provider : Provider} {owners : List TransactionId}

variable {t : TransactionId}

/-- A transaction updates a dialog that it owns or that is not new. -/
theorem updateDialog (identified : Identified provider owners) {id : DialogId}
    (owner : ∀ dialog, provider.dialogs[id]? = some dialog → dialog.state = .null → owners[id]? = some t)
    (may : ∀ dialog transaction, provider.dialogs[id]? = some dialog →
      provider.transactions[t]? = some transaction →
        provider.mayName dialog transaction.request transaction.lastResponse = true) (asUas : Bool) :
    OnReturn (provider.updateDialog id t asUas) fun (after, _) =>
      Identified after owners ∧ after.transactions = provider.transactions := by
  unfold Provider.updateDialog
  split
  · next dialog transaction present placed =>
      have proper := identified.proper dialog (List.mem_of_getElem? present)
      have named := may dialog transaction present placed
      have suits : ∀ answer, transaction.lastResponse = some answer →
          dialog.establishing transaction.request transaction.lastResponse = true →
            dialog.nameable transaction.request answer = true ∧
              provider.unnamed (dialog.namedBy transaction.request answer) = true := by
        intro answer answered establishing
        rw [answered] at establishing
        simpa [mayName, answered, establishing] using named
      apply Checked.onReturn_bind.mpr
      apply (Dialog.update_identifies proper (fun answer answered establishing =>
        (suits answer answered establishing).1) t _ asUas).mono
      rintro ⟨after, retransmission⟩ identifies
      apply Checked.onReturn_pure.mpr
      refine ⟨?_, rfl⟩
      rcases identifies with keeps | ⟨establishing, answer, answered, names⟩
      · exact (identified.keep present keeps).congr rfl rfl
      · have new : dialog.state = .null := by
          simp only [Dialog.establishing, Bool.and_eq_true, decide_eq_true_eq] at establishing
          exact establishing.1.1
        have free := (suits answer answered establishing).2
        exact (identified.name present new (owner dialog present new) placed names free).congr rfl rfl
  · exact Checked.onReturn_pure.mpr ⟨identified, rfl⟩

/-- A transaction updates its own dialog. -/
theorem updateOwn (identified : Identified provider owners)
    (may : ∀ transaction, provider.transactions[t]? = some transaction →
      provider.mayNameOwn transaction transaction.lastResponse = true) (asUas : Bool) :
    OnReturn (provider.updateOwn t asUas) fun after =>
      Identified after owners ∧ after.transactions = provider.transactions := by
  unfold Provider.updateOwn
  split
  · exact Checked.onReturn_pure.mpr ⟨identified, rfl⟩
  · next id own =>
      obtain ⟨transaction, placed, isDialog⟩ := Option.bind_eq_some_iff.mp own
      obtain ⟨dialog, present, owned⟩ := identified.belongs t transaction id placed isDialog
      apply Checked.onReturn_bind.mpr
      apply (identified.updateDialog _ _ asUas).mono
      · rintro ⟨after, retransmission⟩ kept
        exact Checked.onReturn_pure.mpr kept
      · intro other otherPresent new
        cases present.symm.trans otherPresent
        exact owned new
      · intro other again otherPresent againPlaced
        cases placed.symm.trans againPlaced
        have named := may transaction placed
        simpa [mayNameOwn, isDialog, otherPresent] using named

/-- A transaction changes its state and stays what it is. -/
theorem moved (identified : Identified provider owners) (t : TransactionId)
    {state : Transaction → TransactionState} (left : ∀ transaction, state transaction ≠ .init) :
    Identified (provider.modify t fun transaction => { transaction with state := state transaction }) owners := by
  apply identified.modify
  intro transaction _
  exact ⟨rfl, rfl, rfl, rfl, fun _ initial => absurd initial (left transaction)⟩

theorem terminate (identified : Identified provider owners) (may : provider.mayEnd t = true) :
    OnReturn (provider.terminate t) fun after => Identified after owners := by
  unfold Provider.terminate
  cases placed : provider.transactions[t]? with
  | none => exact Checked.onReturn_pure.mpr identified
  | some transaction =>
      dsimp only
      split
      · exact Checked.onReturn_pure.mpr identified
      · next alive =>
          have ended : Identified (provider.modify t fun transaction => { transaction with state := .terminated })
              owners := identified.moved t fun _ => by decide
          split
          · next unanswered =>
              have named : ∀ other, (provider.modify t fun transaction =>
                  { transaction with state := .terminated }).transactions[t]? = some other →
                  provider.mayNameOwn other other.lastResponse = true := by
                intro other otherPlaced
                rw [modify_getElem? placed] at otherPlaced
                cases otherPlaced
                simp only [mayEnd, placed, Option.all_some, alive, unanswered, decide_false, Bool.not_true,
                  Bool.or_self, Bool.false_or] at may
                exact may
              apply (ended.updateOwn named (!transaction.isClient)).mono
              rintro after ⟨kept, -⟩
              exact kept
          · exact Checked.onReturn_pure.mpr ended

/-- A request that gets no response before it is sent names no dialog. -/
theorem dispatch (identified : Identified provider owners) (waiting : provider.Waiting t) (outlet : Outlet) :
    OnReturn (provider.dispatch t outlet) fun after => Identified after owners := by
  have silent : ∀ transaction, provider.transactions[t]? = some transaction →
      provider.mayNameOwn transaction transaction.lastResponse = true := by
    intro transaction placed
    rw [(waiting transaction placed).2]
    exact mayNameOwn_none provider transaction
  unfold Provider.dispatch
  apply Checked.onReturn_bind.mpr
  apply (identified.updateOwn silent false).mono
  rintro after ⟨kept, transactions⟩
  have mayEnd : after.mayEnd t = true := by
    unfold Provider.mayEnd
    cases placed : after.transactions[t]? with
    | none => rfl
    | some transaction =>
        rw [transactions] at placed
        rw [Option.all_some, (waiting transaction placed).2, mayNameOwn_none, Bool.or_true]
  cases outlet with
  | ready => exact kept.moved t fun transaction => by split <;> decide
  | connecting => exact kept
  | noChannel => exact kept.terminate mayEnd
  | badUris => exact kept.terminate mayEnd

theorem queueClientTransaction (identified : Identified provider owners) (t : TransactionId)
    (transaction : Transaction) : Identified (provider.queueClientTransaction t transaction) owners := by
  unfold Provider.queueClientTransaction
  split
  · exact identified
  · split
    · exact identified
    · next id belongs dialog present =>
        exact identified.keep present (.unread rfl rfl rfl (fun armed => armed) fun _ => rfl)

theorem updateRequest (identified : Identified provider owners) {transaction : Transaction}
    (placed : provider.transactions[t]? = some transaction) (client : transaction.isClient = true)
    (init : transaction.state = .init) :
    OnReturn (provider.updateRequest t transaction) fun after => Identified after owners ∧ after.Waiting t := by
  have unsent := identified.unsent t transaction placed client init
  unfold Provider.updateRequest
  split
  · apply Checked.onReturn_bind.mpr
    apply Checked.onReturn_deref.mpr
    intro id belongs
    cases present : provider.dialogs[id]? with
    | none =>
        apply Checked.onReturn_pure.mpr
        refine ⟨identified, ?_⟩
        intro other otherPlaced
        cases placed.symm.trans otherPlaced
        exact ⟨client, unsent⟩
    | some dialog =>
        apply Checked.onReturn_bind.mpr
        apply (dialog.updateRequest_keeps transaction.request).mono
        rintro ⟨after, req⟩ ⟨keeps, -, callId, fromHeader⟩
        have set := identified.keep present keeps
        have setPlaced : (provider.setDialog id after).transactions[t]? = some transaction := placed
        apply Checked.onReturn_pure.mpr
        constructor
        · apply set.modify
          intro other otherPlaced
          cases setPlaced.symm.trans otherPlaced
          exact ⟨rfl, rfl, callId, fromHeader, fun _ initial => ⟨initial, rfl⟩⟩
        · intro other otherPlaced
          rw [modify_getElem? setPlaced] at otherPlaced
          cases otherPlaced
          exact ⟨client, unsent⟩
  · apply Checked.onReturn_pure.mpr
    refine ⟨identified, ?_⟩
    intro other otherPlaced
    cases placed.symm.trans otherPlaced
    exact ⟨client, unsent⟩

theorem sendRequest (identified : Identified provider owners) (t : TransactionId) (outlet : Outlet) :
    OnReturn (provider.sendRequest t outlet) fun after => Identified after owners := by
  unfold Provider.sendRequest
  cases placed : provider.transactions[t]? with
  | none => exact Checked.onReturn_pure.mpr identified
  | some transaction =>
      dsimp only
      split
      · exact Checked.onReturn_pure.mpr identified
      · next active =>
          simp only [not_or, Bool.not_eq_true', Bool.not_eq_false, ne_eq, not_not] at active
          obtain ⟨client, init, -⟩ := active
          apply Checked.onReturn_bind.mpr
          generalize provider.mustQueue transaction = busy
          cases busy with
          | error fault => trivial
          | ok busy =>
              apply Checked.onReturn_ok.mpr
              split
              · exact Checked.onReturn_pure.mpr (identified.queueClientTransaction t transaction)
              · apply Checked.onReturn_bind.mpr
                apply (identified.updateRequest placed client init).mono
                rintro after ⟨kept, waiting⟩
                exact kept.dispatch waiting outlet

/-- What a message is found to belong to is no new dialog. -/
theorem findDialog (identified : Identified provider owners) (message : Headers) (asUas : Bool) :
    OnReturn (findDialogFromMessage provider.dialogs message asUas) fun found =>
      ∀ id, found = some id → ∃ dialog, provider.dialogs[id]? = some dialog ∧ dialog.state ≠ .null := by
  obtain ⟨found, ended, finds, -⟩ := findDialogFromMessage_returns identified.proper identified.apart message asUas
  rw [ended]
  apply Checked.onReturn_ok.mpr
  intro id isFound
  obtain ⟨dialog, present, seen⟩ := finds id isFound
  exact ⟨dialog, present, visible_known seen⟩

theorem createClientTransaction (identified : Identified provider owners) (req : Request) :
    OnReturn (provider.createClientTransaction req) fun after => Identified after owners := by
  unfold Provider.createClientTransaction
  split
  · exact Checked.onReturn_pure.mpr identified
  · split
    · trivial
    · apply Checked.onReturn_bind.mpr
      apply (identified.findDialog req.toHeaders false).mono
      intro found finds
      exact Checked.onReturn_pure.mpr (identified.add finds fun _ => rfl)

theorem createServerTransaction (identified : Identified provider owners) (req : Request) (toTag : String)
    (channel : Bool) : OnReturn (provider.createServerTransaction req toTag channel) fun after =>
      Identified after owners ∧ (req.method ≠ "ACK" → ∃ transaction : Transaction,
        after.transactions[provider.transactions.length]? = some transaction ∧ transaction.isClient = false ∧
          transaction.lastResponse.all (·.statusCode = 100) = true) := by
  unfold Provider.createServerTransaction
  split
  · next ack => exact Checked.onReturn_pure.mpr ⟨identified, fun other => absurd ack other⟩
  · apply Checked.onReturn_bind.mpr
    apply (identified.findDialog req.toHeaders true).mono
    intro found finds
    apply Checked.onReturn_pure.mpr
    constructor
    · exact identified.add finds nofun
    · intro _
      refine ⟨_, List.getElem?_concat_length, rfl, ?_⟩
      dsimp only
      split <;> rfl

/-- The transaction of a request that a dialog has made. -/
theorem addInDialog (identified : Identified provider owners) {id : DialogId} {dialog : Dialog}
    (present : provider.dialogs[id]? = some dialog) {req : Option Request}
    (known : req.isSome = true → dialog.state ≠ .null) : Identified (provider.addInDialog id req) owners := by
  unfold Provider.addInDialog
  split
  · exact identified
  · split
    · exact identified
    · apply identified.add _ fun _ => rfl
      rintro other ⟨⟩
      exact ⟨dialog, present, known rfl⟩

theorem createRequest (identified : Identified provider owners) (id : DialogId) (method : String) :
    OnReturn (provider.createRequest id method) fun after => Identified after owners := by
  unfold Provider.createRequest
  cases present : provider.dialogs[id]? with
  | none => exact Checked.onReturn_pure.mpr identified
  | some dialog =>
      apply Checked.onReturn_bind.mpr
      apply (dialog.createRequest_keeps (provider.requestPending dialog) method).mono
      rintro ⟨after, req⟩ ⟨keeps, seen⟩
      apply Checked.onReturn_pure.mpr
      apply (identified.keep present keeps).addInDialog (setDialog_getElem? present)
      intro made new
      exact visible_known (seen made) (keeps.new new)

theorem createQueuedRequest (identified : Identified provider owners) (id : DialogId) (method : String) :
    OnReturn (provider.createQueuedRequest id method) fun after => Identified after owners := by
  unfold Provider.createQueuedRequest
  cases present : provider.dialogs[id]? with
  | none => exact Checked.onReturn_pure.mpr identified
  | some dialog =>
      apply Checked.onReturn_bind.mpr
      apply (dialog.createQueuedRequest_target method).mono
      intro req targeted
      apply Checked.onReturn_pure.mpr
      apply identified.addInDialog present
      intro made new
      have target := targeted made
      rw [(identified.proper dialog (List.mem_of_getElem? present)).targetless new] at target
      cases target

theorem createAck (identified : Identified provider owners) (id : DialogId) (cseq : Nat) :
    OnReturn (provider.createAck id cseq) fun after => Identified after owners := by
  unfold Provider.createAck
  cases provider.dialogs[id]? with
  | none => exact Checked.onReturn_pure.mpr identified
  | some dialog =>
      apply Checked.onReturn_bind.mpr
      generalize dialog.createAck cseq = ack
      cases ack with
      | error fault => trivial
      | ok ack => exact Checked.onReturn_pure.mpr identified

theorem sendAck (identified : Identified provider owners) (id : DialogId) (ack : Request) :
    Identified (provider.sendAck id ack) owners := by
  unfold Provider.sendAck
  cases present : provider.dialogs[id]? with
  | none => exact identified
  | some dialog => exact identified.keep present (dialog.sendAck_keeps ack)

theorem handleAck (identified : Identified provider owners) (id : DialogId) (ack : Request) :
    OnReturn (provider.handleAck id ack) fun (after, _) => Identified after owners := by
  unfold Provider.handleAck
  cases present : provider.dialogs[id]? with
  | none => exact Checked.onReturn_pure.mpr identified
  | some dialog =>
      apply Checked.onReturn_bind.mpr
      apply (dialog.handleAck_keeps ack).mono
      rintro ⟨after, recognised⟩ keeps
      exact Checked.onReturn_pure.mpr (identified.keep present keeps)

theorem processQueue (identified : Identified provider owners) (id : DialogId) (outlet : Outlet) :
    OnReturn (provider.processQueue id outlet) fun after => Identified after owners := by
  unfold Provider.processQueue
  cases present : provider.dialogs[id]? with
  | none => exact Checked.onReturn_pure.mpr identified
  | some dialog =>
      dsimp only
      cases dialog.postponed with
      | zero => exact Checked.onReturn_pure.mpr identified
      | succ rest =>
          dsimp only
          cases provider.dequeued dialog with
          | none =>
              exact Checked.onReturn_pure.mpr
                (identified.keep present (.unread rfl rfl rfl (fun armed => armed) fun _ => rfl))
          | some t =>
              apply Identified.sendRequest
              apply Identified.modify
              · exact identified.keep present (.unread rfl rfl rfl (fun armed => armed) fun _ => rfl)
              · intro transaction _
                exact ⟨rfl, rfl, rfl, rfl, fun _ initial => ⟨initial, rfl⟩⟩

theorem sendBye (identified : Identified provider owners) {id : DialogId} {before after : Dialog}
    (present : provider.dialogs[id]? = some before) (keeps : before.Keeps after) (known : after.state ≠ .null)
    (bye : Request) (outlet : Outlet) :
    OnReturn (provider.sendBye id after bye outlet) fun later => Identified later owners := by
  apply Identified.sendRequest
  apply (identified.keep present keeps).add _ fun _ => rfl
  rintro other ⟨⟩
  exact ⟨after, setDialog_getElem? present, known⟩

theorem checkAckSent (identified : Identified provider owners) (id : DialogId) (outlet : Outlet) :
    OnReturn (provider.checkAckSent id outlet) fun after => Identified after owners := by
  unfold Provider.checkAckSent
  cases present : provider.dialogs[id]? with
  | none => exact Checked.onReturn_pure.mpr identified
  | some dialog =>
      apply Checked.onReturn_bind.mpr
      apply (dialog.checkAckSent_keeps (provider.requestPending dialog)).mono
      rintro ⟨after, bye⟩ ⟨keeps, seen⟩
      cases bye with
      | none => exact Checked.onReturn_pure.mpr (identified.keep present keeps)
      | some bye =>
          apply identified.sendBye present keeps
          intro new
          exact visible_known (seen rfl) (keeps.new new)

theorem on200OkEnd (identified : Identified provider owners) (id : DialogId) (outlet : Outlet) :
    OnReturn (provider.on200OkEnd id outlet) fun after => Identified after owners := by
  unfold Provider.on200OkEnd
  cases present : provider.dialogs[id]? with
  | none => exact Checked.onReturn_pure.mpr identified
  | some dialog =>
      dsimp only
      split
      · next armed =>
          have proper := identified.proper dialog (List.mem_of_getElem? present)
          apply Checked.onReturn_bind.mpr
          apply (Dialog.on200OkEnd_keeps proper armed (provider.requestPending dialog)).mono
          rintro ⟨after, bye⟩ keeps
          apply identified.sendBye present keeps
          intro new
          exact visible_known (proper.armed armed) (keeps.new new)
      · exact Checked.onReturn_pure.mpr identified

/-- A server transaction sends a response whose identifiers no dialog has. -/
theorem sendFilled (identified : Identified provider owners) {transaction : Transaction}
    (placed : provider.transactions[t]? = some transaction) (server : transaction.isClient = false) {resp : Response}
    {accepted : Option TransactionState}
    (may : provider.mayNameOwn transaction (if accepted.isSome then some resp else transaction.lastResponse) = true) :
    OnReturn ((provider.keepResponse t resp accepted).updateOwn t true) fun after => Identified after owners := by
  cases accepted with
  | none =>
      have named : ∀ other, provider.transactions[t]? = some other →
          provider.mayNameOwn other other.lastResponse = true := by
        intro other otherPlaced
        cases placed.symm.trans otherPlaced
        exact may
      apply (identified.updateOwn named true).mono
      rintro after ⟨kept, -⟩
      exact kept
  | some state =>
      have kept : Identified (provider.keepResponse t resp (some state)) owners := by
        apply identified.modify
        intro other otherPlaced
        cases placed.symm.trans otherPlaced
        exact ⟨rfl, rfl, rfl, rfl, fun client => absurd (client.symm.trans server) (by decide)⟩
      have named : ∀ other, (provider.keepResponse t resp (some state)).transactions[t]? = some other →
          provider.mayNameOwn other other.lastResponse = true := by
        intro other otherPlaced
        have now : (provider.keepResponse t resp (some state)).transactions[t]? =
            some { transaction with state := state, lastResponse := some resp } := modify_getElem? placed
        cases now.symm.trans otherPlaced
        exact may
      apply (kept.updateOwn named true).mono
      rintro after ⟨updated, -⟩
      exact updated

theorem sendResponse (identified : Identified provider owners) {resp : Response} {channel : Bool}
    {accepted : Option TransactionState} (may : provider.tellsApart (.sendResponse t resp channel accepted) = true) :
    OnReturn (provider.sendResponse t resp channel accepted) fun after => Identified after owners := by
  unfold Provider.sendResponse
  cases placed : provider.transactions[t]? with
  | none => exact Checked.onReturn_pure.mpr identified
  | some transaction =>
      dsimp only
      split
      · exact Checked.onReturn_pure.mpr identified
      · next sends =>
          simp only [not_or, Bool.not_eq_true] at sends
          obtain ⟨server, speaks⟩ := sends
          simp only [Provider.tellsApart, placed, Option.all_some, server, Bool.false_or, Bool.or_eq_true,
            Bool.and_eq_true, decide_eq_true_eq] at may
          have named := may.resolve_left speaks
          cases filling : fillResponse transaction resp with
          | error fault => trivial
          | ok filled =>
              rw [filling] at named
              exact identified.sendFilled placed server named

/-- A refusal of the provider itself names no dialog. -/
theorem mayNameOwn_refusal (provider : Provider) (transaction : Transaction) {resp : Option Response}
    (refuses : ∀ answer, resp = some answer → answer.statusCode = 100 ∨ 300 ≤ answer.statusCode) :
    provider.mayNameOwn transaction resp = true := by
  have silent : ∀ dialog : Dialog, dialog.establishing transaction.request resp = false := by
    intro dialog
    cases resp with
    | none => simp [Dialog.establishing]
    | some answer =>
        have outside : ¬(100 < answer.statusCode ∧ answer.statusCode < 300) := by
          intro inside
          rcases refuses answer rfl with trying | failure
          · omega
          · omega
        simp only [Dialog.establishing, Option.any_some, Bool.and_eq_false_iff, decide_eq_false_iff_not]
        exact .inr (by omega)
  unfold mayNameOwn
  cases transaction.dialog with
  | none => rfl
  | some id => cases provider.dialogs[id]? <;> simp [mayName, silent]

theorem fillResponse_statusCode {transaction : Transaction} {resp filled : Response}
    (filling : fillResponse transaction resp = .ok filled) : filled.statusCode = resp.statusCode := by
  unfold fillResponse at filling
  split at filling
  · cases filling
    rfl
  · cases hasTo : resp.toHeader with
    | none =>
        rw [hasTo] at filling
        cases filling
    | some toHeader =>
        rw [hasTo, Checked.deref_some, Checked.ok_bind] at filling
        dsimp only at filling
        split at filling <;> cases filling <;> rfl

theorem answer (identified : Identified provider owners) {req : Request} (request : req.method ≠ "ACK")
    {statusCode : Nat} (refuses : 300 ≤ statusCode) (toTag : String) (channel : Bool)
    (accepted : Option TransactionState) :
    OnReturn (provider.answer req statusCode toTag channel accepted) fun after => Identified after owners := by
  unfold Provider.answer
  apply Checked.onReturn_bind.mpr
  apply (identified.createServerTransaction req toTag channel).mono
  rintro answering ⟨kept, created⟩
  obtain ⟨transaction, placed, server, trying⟩ := created request
  unfold Provider.sendResponse
  rw [placed]
  dsimp only
  split
  · exact Checked.onReturn_pure.mpr kept
  · cases filling : fillResponse transaction (Response.createFromRequest req statusCode) with
    | error fault => trivial
    | ok filled =>
        apply kept.sendFilled placed server
        apply mayNameOwn_refusal
        intro answer answered
        split at answered
        · cases answered
          exact .inr (fillResponse_statusCode filling ▸ refuses)
        · rw [answered] at trying
          exact .inl (by simpa using trying)

theorem offer (identified : Identified provider owners) (req : Request) (toTag : String) (channel : Bool)
    (accepted : Option TransactionState) :
    OnReturn (provider.offer req toTag channel accepted) fun after => Identified after owners := by
  unfold Provider.offer
  split
  · next unconditional => exact identified.answer unconditional.2 (by decide) toTag channel accepted
  · exact Checked.onReturn_pure.mpr (identified.congr rfl rfl)

theorem onRequest (identified : Identified provider owners) (t : TransactionId) (req : Request) :
    OnReturn (provider.onRequest t req) fun after => Identified after owners := by
  unfold Provider.onRequest
  cases provider.transactions[t]? with
  | none => exact Checked.onReturn_pure.mpr identified
  | some transaction =>
      dsimp only
      split
      · split
        · exact Checked.onReturn_pure.mpr identified
        · next id _ =>
            apply Checked.onReturn_bind.mpr
            apply (identified.handleAck id req).mono
            rintro ⟨after, recognised⟩ kept
            exact Checked.onReturn_pure.mpr kept
      · exact Checked.onReturn_pure.mpr identified

theorem dispatchRequest (identified : Identified provider owners) (req : Request)
    (matched : Option TransactionId) (toTag : String) (channel : Bool) (accepted : Option TransactionState) :
    OnReturn (provider.dispatchRequest req matched toTag channel accepted) fun after =>
      Identified after owners := by
  unfold Provider.dispatchRequest
  cases matched with
  | some t => exact identified.onRequest t req
  | none =>
      apply Checked.onReturn_bind.mpr
      apply (identified.findDialog req.toHeaders true).mono
      intro found _
      cases found with
      | none => exact identified.offer req toTag channel accepted
      | some id =>
          dsimp only
          split
          · apply Checked.onReturn_bind.mpr
            apply (identified.handleAck id req).mono
            rintro ⟨after, recognised⟩ kept
            dsimp only
            split
            · exact kept.offer req toTag channel accepted
            · exact Checked.onReturn_pure.mpr kept
          · next request =>
              split
              · exact identified.offer req toTag channel accepted
              · exact identified.answer request (by decide) toTag channel accepted

theorem createDialog (identified : Identified provider owners) (t : TransactionId) :
    OnReturn (provider.createDialog t) fun after => ∃ count, Identified after (owners ++ List.replicate count t) := by
  have nothing : Identified provider (owners ++ List.replicate 0 t) := by
    rw [List.replicate_zero, List.append_nil]
    exact identified
  unfold Provider.createDialog
  cases placed : provider.transactions[t]? with
  | none => exact Checked.onReturn_pure.mpr ⟨0, nothing⟩
  | some transaction =>
      dsimp only
      split
      · trivial
      · apply Checked.onReturn_pure.mpr
        unfold Provider.createDialogInternal
        rw [placed]
        dsimp only
        split
        · exact ⟨0, nothing⟩
        · next dialog created => exact ⟨1, identified.addDialog placed created⟩

theorem resume (identified : Identified provider owners) {outlet : Outlet}
    (may : provider.tellsApart (.resume outlet) = true) :
    OnReturn (provider.resume outlet) fun after => Identified after owners := by
  unfold Provider.resume
  unfold Provider.tellsApart at may
  cases pending : provider.pending with
  | nil => exact Checked.onReturn_pure.mpr identified
  | cons call rest =>
      rw [pending] at may
      have popped : Identified { provider with pending := rest } owners := identified.congr rfl rfl
      cases call with
      | terminate t => exact popped.terminate may
      | checkAckSent id => exact popped.checkAckSent id outlet

end Identified

/-- The dialog that a response goes to takes its identifiers from the transaction, if it takes any. -/
def Aimed (t : TransactionId) (owners : List TransactionId) (provider : Provider) (target : Option DialogId) :
    Prop :=
  Identified provider owners ∧ ∀ id dialog, target = some id → provider.dialogs[id]? = some dialog →
    (dialog.state = .null → owners[id]? = some t) ∧ ∀ transaction,
      provider.transactions[t]? = some transaction →
        provider.mayName dialog transaction.request transaction.lastResponse = true

theorem Aimed.visible {provider : Provider} {owners : List TransactionId} {t : TransactionId}
    (identified : Identified provider owners) {id : DialogId} {dialog : Dialog}
    (present : provider.dialogs[id]? = some dialog) (known : dialog.state ≠ .null) :
    Aimed t owners provider (some id) := by
  refine ⟨identified, ?_⟩
  rintro other again ⟨⟩ againPresent
  cases present.symm.trans againPresent
  exact ⟨fun new => absurd new known, fun transaction _ => mayName_known known _ _⟩

/-- A new client dialog has the tags of the request and of the response. -/
theorem new_client {request : Request} {resp : Response} {dialog : Dialog}
    (created : Dialog.new false request (some resp) = some dialog) :
    dialog.isServer = false ∧ dialog.localTag = request.fromHeader.bind (·.tag) ∧
      dialog.remoteTag = resp.toHeader.bind (·.tag) := by
  unfold Dialog.new at created
  obtain ⟨fromHeader, hasFrom, created⟩ := Option.bind_eq_some_iff.mp created
  obtain ⟨fromTag, hasTag, created⟩ := Option.bind_eq_some_iff.mp created
  obtain ⟨toTag, hasTo, created⟩ := Option.bind_eq_some_iff.mp created
  obtain ⟨toHeader, isTo, isTag⟩ := Option.map_eq_some_iff.mp hasTo
  cases created
  refine ⟨rfl, ?_, ?_⟩
  · rw [hasFrom]
    exact hasTag.symm
  · rw [isTo]
    exact isTag.symm

/-- A dialog that cannot be found takes no identifiers away. -/
theorem mayName_append {provider after : Provider} {dialog : Dialog} (hidden : dialog.visible = false)
    (listed : after.dialogs = provider.dialogs ++ [dialog]) (other : Dialog) (req : Request)
    (resp : Option Response) : after.mayName other req resp = provider.mayName other req resp := by
  simp [mayName, unnamed, listed, hidden]

namespace Identified

variable {provider : Provider} {owners : List TransactionId}

variable {t : TransactionId} {resp : Response}

/-- The identifiers that a response gives a new dialog are free when the look-up has found no dialog. -/
theorem free (identified : Identified provider owners) {req : Request} (echoed : echoes req resp = true)
    {dialog : Dialog} (created : Dialog.new false req (some resp) = some dialog)
    (found : findDialogFromMessage provider.dialogs resp.toHeaders false = .ok none) :
    provider.mayName dialog req (some resp) = true := by
  obtain ⟨client, localTag, remoteTag⟩ := new_client created
  obtain ⟨result, ended, -, nobody⟩ :=
      findDialogFromMessage_returns identified.proper identified.apart resp.toHeaders false
  cases found.symm.trans ended
  simp only [echoes, Bool.and_eq_true, decide_eq_true_eq, Option.isSome_iff_exists, Option.any_eq_true] at echoed
  obtain ⟨⟨⟨⟨⟨⟨callId, hasCallId⟩, sameCallId⟩, sameFrom⟩, toHeader, hasTo, toTag, hasTag⟩, hasCseq⟩, hasVia⟩ := echoed
  obtain ⟨-, -, new, -, -⟩ := new_proper created
  obtain ⟨fromTag, hasFrom⟩ : ∃ fromTag, req.fromHeader.bind (·.tag) = some fromTag := by
    obtain ⟨proper, -⟩ := new_proper created
    have party := proper.party
    rw [client, if_neg Bool.false_ne_true] at party
    exact Option.isSome_iff_exists.mp (localTag ▸ party)
  have respTo : resp.toHeader.bind (·.tag) = some toTag := by
    rw [hasTo]
    exact hasTag
  have named : dialog.namedBy req resp = (some callId, some fromTag, some toTag) := by
    simp [Dialog.namedBy, client, localTag, remoteTag, respTo, hasFrom, ← sameCallId, hasCallId]
  have free : provider.unnamed (dialog.namedBy req resp) = true := by
    apply List.all_eq_true.mpr
    intro other among
    cases seen : other.visible with
    | false => rfl
    | true =>
        have differs := nobody rfl rfl callId fromTag toTag hasCallId (sameFrom.trans hasFrom) respTo other among seen
        simpa [named] using differs
  have suits : dialog.nameable req resp = true := by
    simp only [Dialog.nameable, client, Bool.not_false, Bool.true_or, Bool.and_true, Bool.and_eq_true]
    refine ⟨⟨⟨?_, ?_⟩, ?_⟩, ?_⟩
    · rw [← sameCallId, hasCallId]
      rfl
    · exact Option.isSome_iff_exists.mpr hasCseq
    · exact Option.isSome_iff_exists.mpr hasVia
    · simp [hasTo, hasTag]
  simp [mayName, suits, free]

/-- A response starts a new dialog. -/
theorem createDialogInternal (identified : Identified provider owners) {transaction : Transaction}
    (placed : provider.transactions[t]? = some transaction)
    (may : ∀ dialog, Dialog.new (!transaction.isClient) transaction.request transaction.lastResponse = some dialog →
      provider.mayName dialog transaction.request transaction.lastResponse = true) :
    ∃ count, Aimed t (owners ++ List.replicate count t) (provider.createDialogInternal t).1
      (provider.createDialogInternal t).2 := by
  unfold Provider.createDialogInternal
  rw [placed]
  dsimp only
  split
  · refine ⟨0, ?_, ?_⟩
    · rw [List.replicate_zero, List.append_nil]
      exact identified
    · intro id dialog nowhere
      cases nowhere
  · next dialog created =>
      obtain ⟨-, hidden, -⟩ := new_proper created
      refine ⟨1, identified.addDialog placed created, ?_⟩
      rintro id other ⟨⟩ otherPresent
      have last : (provider.addDialog t dialog).dialogs[provider.dialogs.length]? = some dialog :=
        List.getElem?_concat_length
      cases last.symm.trans otherPresent
      constructor
      · intro _
        rw [← identified.owned]
        exact List.getElem?_concat_length
      · intro later laterPlaced
        have now : (provider.addDialog t dialog).transactions[t]? =
            some { transaction with dialog := some provider.dialogs.length } := modify_getElem? placed
        have same := Option.some.inj (laterPlaced.symm.trans now)
        rw [same, mayName_append hidden rfl]
        exact may dialog created

theorem dialogOfResponse (identified : Identified provider owners) {transaction answered : Transaction}
    (placed : provider.transactions[t]? = some answered)
    (same : answered = { transaction with lastResponse := some resp }) (client : transaction.isClient = true) 
    (may : provider.mayMatch transaction resp = true) :
    OnReturn (provider.dialogOfResponse t transaction resp) fun (after, target) =>
      ∃ count, Aimed t (owners ++ List.replicate count t) after target := by
  subst same
  have still : Identified provider (owners ++ List.replicate 0 t) := by
    rw [List.replicate_zero, List.append_nil]
    exact identified
  have nowhere : ∃ count, Aimed t (owners ++ List.replicate count t) provider none := by
    refine ⟨0, still, ?_⟩
    intro id dialog nothing
    cases nothing
  unfold mayMatch at may
  unfold Provider.dialogOfResponse
  cases belongs : transaction.dialog with
  | none =>
      rw [belongs] at may
      dsimp only at may ⊢
      split
      · next creates =>
          rw [creates] at may
          apply Checked.onReturn_pure.mpr
          apply identified.createDialogInternal placed
          intro dialog created
          rw [show ({ transaction with lastResponse := some resp } : Transaction).request =
            transaction.request from rfl] at created ⊢
          simpa [created] using may
      · exact Checked.onReturn_pure.mpr nowhere
  | some id =>
      rw [belongs] at may
      dsimp only at may ⊢
      obtain ⟨dialog, present, owner⟩ := identified.belongs t _ id placed belongs
      rw [present, Option.all_some] at may
      rw [present]
      dsimp only
      split
      · next fork =>
          rw [if_pos fork] at may
          simp only [mayFork, Bool.and_eq_true] at fork
          obtain ⟨-, seen⟩ := fork
          apply Checked.onReturn_bind.mpr
          generalize dialog.matchMessage resp.toHeaders false = matching
          cases matching with
          | error fault => trivial
          | ok matching =>
              apply Checked.onReturn_ok.mpr
              split
              · exact Checked.onReturn_pure.mpr ⟨0, .visible still present (visible_known seen)⟩
              · apply Checked.onReturn_bind.mpr
                have finds := identified.findDialog resp.toHeaders false
                generalize looked : findDialogFromMessage provider.dialogs resp.toHeaders false = found at finds ⊢
                cases found with
                | error fault => trivial
                | ok found =>
                    apply Checked.onReturn_ok.mpr
                    cases found with
                    | some other =>
                        obtain ⟨otherDialog, otherPresent, known⟩ := finds other rfl
                        exact Checked.onReturn_pure.mpr ⟨0, .visible still otherPresent known⟩
                    | none =>
                        apply Checked.onReturn_pure.mpr
                        apply identified.createDialogInternal placed
                        intro new created
                        rw [show ({ transaction with lastResponse := some resp } : Transaction).isClient = true
                          from client] at created
                        exact identified.free may created looked
      · next direct =>
          rw [if_neg direct] at may
          apply Checked.onReturn_pure.mpr
          refine ⟨0, still, ?_⟩
          rintro other again ⟨⟩ againPresent
          cases present.symm.trans againPresent
          constructor
          · intro new
            rw [List.replicate_zero, List.append_nil]
            exact owner new
          · intro later laterPlaced
            have same := Option.some.inj (laterPlaced.symm.trans placed)
            rw [same]
            exact may

theorem notifyResponse (identified : Identified provider owners) {transaction : Transaction}
    (placed : provider.transactions[t]? = some transaction) (client : transaction.isClient = true)
    (left : transaction.state ≠ .init) (may : provider.mayMatch transaction resp = true) :
    OnReturn (provider.notifyResponse t resp) fun after =>
      ∃ count, Identified after (owners ++ List.replicate count t) := by
  have answered : Identified (provider.modify t fun transaction => { transaction with lastResponse := some resp })
      owners := by
    apply identified.modify
    intro other otherPlaced
    cases placed.symm.trans otherPlaced
    exact ⟨rfl, rfl, rfl, rfl, fun _ initial => absurd initial left⟩
  unfold Provider.notifyResponse
  rw [placed]
  apply Checked.onReturn_bind.mpr
  apply (answered.dialogOfResponse (modify_getElem? placed) rfl client may).mono
  rintro ⟨after, target⟩ ⟨count, kept, aimed⟩
  cases target with
  | none => exact Checked.onReturn_pure.mpr ⟨count, kept⟩
  | some id =>
      apply Checked.onReturn_bind.mpr
      have owner : ∀ dialog, after.dialogs[id]? = some dialog → dialog.state = .null →
          (owners ++ List.replicate count t)[id]? = some t :=
        fun dialog present => (aimed id dialog rfl present).1
      have named : ∀ dialog transaction, after.dialogs[id]? = some dialog →
          after.transactions[t]? = some transaction →
            after.mayName dialog transaction.request transaction.lastResponse = true :=
        fun dialog transaction present => (aimed id dialog rfl present).2 transaction
      apply (kept.updateDialog owner named false).mono
      rintro ⟨updated, retransmission⟩ ⟨updatedKept, -⟩
      dsimp only
      split
      · exact Checked.onReturn_pure.mpr ⟨count, updatedKept.congr rfl rfl⟩
      · exact Checked.onReturn_pure.mpr ⟨count, updatedKept⟩

theorem onResponse (identified : Identified provider owners) {state : TransactionState}
    (may : provider.tellsApart (.responseReceived t resp state) = true) :
    OnReturn (provider.onResponse t resp state) fun after =>
      ∃ count, Identified after (owners ++ List.replicate count t) := by
  have still : ∃ count, Identified provider (owners ++ List.replicate count t) := by
    refine ⟨0, ?_⟩
    rw [List.replicate_zero, List.append_nil]
    exact identified
  unfold Provider.onResponse
  cases placed : provider.transactions[t]? with
  | none => exact Checked.onReturn_pure.mpr still
  | some transaction =>
      dsimp only
      split
      · exact Checked.onReturn_pure.mpr still
      · next active =>
          simp only [not_or, Bool.not_eq_true', Bool.not_eq_false] at active
          obtain ⟨client, left, alive, leaves⟩ := active
          have matches_ : provider.mayMatch transaction resp = true := by
            simpa [Provider.tellsApart, placed, client, left, alive, leaves] using may
          have moved : Identified (provider.modify t fun transaction => { transaction with state := state }) owners :=
            identified.moved t fun _ => leaves
          exact moved.notifyResponse (modify_getElem? placed) client leaves matches_

/-- An event keeps the invariant, and the new dialogs are owned by the transaction that the event is about. -/
theorem handle (identified : Identified provider owners) {event : Event} (may : provider.tellsApart event = true) :
    OnReturn (provider.handle event) fun after =>
      Identified after owners ∨ ∃ t, event.founder = some t ∧
        ∃ count, Identified after (owners ++ List.replicate count t) := by
  have stays : ∀ {computation : Checked Provider}, OnReturn computation (fun after => Identified after owners) →
      OnReturn computation fun after => Identified after owners ∨ ∃ t, event.founder = some t ∧
        ∃ count, Identified after (owners ++ List.replicate count t) := by
    intro computation kept
    exact kept.mono fun after identified => .inl identified
  cases event with
  | createDialog t => exact (identified.createDialog t).mono fun after kept => .inr ⟨t, rfl, kept⟩
  | createClientTransaction req => exact stays (identified.createClientTransaction req)
  | createServerTransaction req toTag channel =>
      apply stays
      dsimp only [Provider.handle]
      split
      · exact (identified.createServerTransaction req toTag channel).mono fun _ kept => kept.1
      · exact Checked.onReturn_pure.mpr identified
  | createRequest id method => exact stays (identified.createRequest id method)
  | createQueuedRequest id method => exact stays (identified.createQueuedRequest id method)
  | createAck id cseq => exact stays (identified.createAck id cseq)
  | sendAck id ack => exact .inl (identified.sendAck id ack)
  | sendRequest t outlet => exact stays (identified.sendRequest t outlet)
  | channelReady t =>
      dsimp only [Provider.handle, Provider.channelReady]
      split
      · exact .inl (identified.moved t fun transaction => by split <;> decide)
      · exact .inl identified
  | processQueue id outlet => exact stays (identified.processQueue id outlet)
  | responseReceived t resp state => exact (identified.onResponse may).mono fun after kept => .inr ⟨t, rfl, kept⟩
  | requestReceived req matched toTag channel accepted =>
      apply stays
      dsimp only [Provider.handle]
      split
      · exact identified.dispatchRequest req matched toTag channel accepted
      · exact Checked.onReturn_pure.mpr identified
  | sendResponse t resp channel accepted => exact stays (identified.sendResponse may)
  | transactionMoves t state =>
      dsimp only [Provider.handle, Provider.move]
      split
      · exact .inl identified
      · next left => exact .inl (identified.moved t fun _ => left)
  | terminate t => exact stays (identified.terminate may)
  | timer200OkEnd id outlet => exact stays (identified.on200OkEnd id outlet)
  | resume outlet => exact stays (identified.resume may)
  | findDialog callId fromTag toTag =>
      apply Checked.onReturn_bind.mpr
      generalize BelleSip.findDialog provider.dialogs callId fromTag toTag = found
      cases found with
      | error fault => trivial
      | ok found => exact .inl identified
  | terminateOnBye id value =>
      dsimp only [Provider.handle, Provider.terminateOnBye]
      cases present : provider.dialogs[id]? with
      | none => exact .inl identified
      | some dialog => exact .inl (identified.keep present (.unread rfl rfl rfl (fun armed => armed) fun _ => rfl))
  | deleteDialog id =>
      dsimp only [Provider.handle, Provider.deleteDialog]
      cases present : provider.dialogs[id]? with
      | none => exact .inl identified
      | some dialog => exact .inl ((identified.keep present (.delete dialog)).congr rfl rfl)

/-- The provider tells its dialogs apart. -/
theorem distinguished (identified : Identified provider owners) : Distinguished provider owners where
  apart := identified.apart
  found := by
    intro message asUas stopped
    obtain ⟨found, ended, -⟩ := findDialogFromMessage_returns identified.proper identified.apart message asUas
    cases ended.symm.trans stopped
  forked := by
    intro t transaction placed client _ first second one other firstOwned secondOwned onePresent otherPresent
      oneSeen otherSeen sameTag
    obtain ⟨founder, founderPlaced, stems⟩ := identified.stems first one t onePresent firstOwned
    obtain ⟨again, againPlaced, alsoStems⟩ := identified.stems second other t otherPresent secondOwned
    cases placed.symm.trans founderPlaced
    cases placed.symm.trans againPlaced
    by_contra different
    apply Apart.iff_positions.mp identified.apart first second one other different onePresent otherPresent oneSeen
      otherSeen
    unfold Dialog.identity
    rw [stems.callId client oneSeen, alsoStems.callId client otherSeen, stems.localTag client,
      alsoStems.localTag client, sameTag]

end Identified

/-- The invariant of a register. -/
def Register.Identified (register : Register) : Prop :=
  OnReturn register.provider fun provider => provider.Identified register.owners

theorem Register.step_identified {register : Register} (identified : register.Identified) {event : Event}
    (may : register.tellsApart event = true) : (register.step event).Identified := by
  obtain ⟨state, owners⟩ := register
  cases state with
  | error fault => trivial
  | ok provider =>
      have before : provider.Identified owners := identified
      have kept := before.handle may
      show OnReturn (provider.handle event) fun after =>
        after.Identified (owners ++ newOwners (.ok provider) (provider.handle event) event.founder)
      generalize provider.handle event = result at kept ⊢
      cases result with
      | error fault => trivial
      | ok after =>
          have grown : ∀ added, after.Identified (owners ++ added) →
              added.length = after.dialogs.length - provider.dialogs.length := by
            intro added later
            have now := later.owned
            have old := before.owned
            rw [List.length_append] at now
            omega
          apply Checked.onReturn_ok.mpr
          rcases kept with same | ⟨t, founder, count, added⟩
          · have nothing : newOwners (.ok provider) (.ok after) event.founder = [] := by
              have none_ := grown [] (by simpa using same)
              unfold newOwners
              split
              · next now _ first second _ =>
                  cases first
                  cases second
                  rw [← none_]
                  rfl
              · rfl
            rw [nothing, List.append_nil]
            exact same
          · have counted := grown _ added
            rw [List.length_replicate] at counted
            rw [founder]
            show after.Identified (owners ++ List.replicate (after.dialogs.length - provider.dialogs.length) t)
            rw [← counted]
            exact added

theorem fresh_identified (unconditionalAnswerEnabled : Bool) :
    Identified (fresh unconditionalAnswerEnabled) [] := by
  refine ⟨?_, .nil, rfl, ?_, ?_, ?_⟩ <;> simp [fresh]

/-- In every run whose responses name no dialog twice, the provider tells its dialogs apart. -/
theorem run_distinguished (unconditionalAnswerEnabled : Bool) {events : List Event}
    (apart : Machine.Along Register.step (fun register event => register.tellsApart event = true)
      { provider := .ok (fresh unconditionalAnswerEnabled) } events) :
    OnReturn (Machine.run Register.step { provider := .ok (fresh unconditionalAnswerEnabled) } events).provider
      fun provider => Distinguished provider
        (Machine.run Register.step { provider := .ok (fresh unconditionalAnswerEnabled) } events).owners := by
  have preserved : ∀ (register : Register) (event : Event), register.Identified →
      register.tellsApart event = true → (register.step event).Identified := by
    intro register event identified may
    exact Register.step_identified identified may
  have start : Register.Identified { provider := .ok (fresh unconditionalAnswerEnabled) } :=
    fresh_identified unconditionalAnswerEnabled
  have ended := Machine.run_invariant preserved start apart
  exact ended.mono fun provider identified => identified.distinguished

/-- An INVITE that two callees answer. -/
def forkedCall : List Event :=
  [.createClientTransaction outgoingInvite, .sendRequest 0 .ready,
    .responseReceived 0 (inviteResponse 180 (some "bob") (some callee)) .proceeding, .resume .ready,
    .responseReceived 0 (inviteResponse 180 (some "carol") (some callee)) .proceeding, .resume .ready,
    .responseReceived 0 (inviteResponse 200 (some "carol") (some callee)) .accepted]

theorem run_distinguished_forked :
    OnReturn (Machine.run Register.step { provider := .ok (fresh false) } forkedCall).provider
      fun provider => Distinguished provider
        (Machine.run Register.step { provider := .ok (fresh false) } forkedCall).owners :=
  run_distinguished false (by decide)

/-- Two INVITEs of a peer that has chosen one To tag for both, answered by 180 in dialogs of their own. -/
def twinInvites : List Event :=
  [.requestReceived (Dialog.peerRequest "INVITE" 1) none "" true none,
    .requestReceived (Dialog.peerRequest "INVITE" 2) none "" true none,
    .createServerTransaction (Dialog.peerRequest "INVITE" 1) "first" true, .createDialog 0,
    .createServerTransaction (Dialog.peerRequest "INVITE" 2) "second" true, .createDialog 1,
    .sendResponse 0 (.createFromRequest (Dialog.peerRequest "INVITE" 1) 180) true (some .proceeding),
    .sendResponse 1 (.createFromRequest (Dialog.peerRequest "INVITE" 2) 180) true (some .proceeding)]

/-- The two dialogs have the same identifiers, and the next request of the peer stops the program. -/
theorem not_distinguished_twins :
    (∃ provider owners, Machine.run Register.step { provider := .ok (fresh false) } twinInvites =
        { provider := .ok provider, owners := owners } ∧
      provider.dialogs.map (fun dialog => (dialog.state, dialog.identity)) =
        [(.early, some "call", some "bob", some "alice"), (.early, some "call", some "bob", some "alice")] ∧
      ¬Distinguished provider owners) ∧
    (Machine.run Register.step { provider := .ok (fresh false) }
      (twinInvites ++ [.requestReceived (Dialog.peerRequest "BYE" 3) none "" true none])).provider =
        .error .fatal := by
  constructor
  · refine ⟨_, _, rfl, rfl, ?_⟩
    intro distinguished
    exact distinguished.found (Dialog.peerRequest "BYE" 3).toHeaders true rfl
  · rfl

end Provider

end BelleSip
