import BelleSip.Foundation.Growth
import BelleSip.Dialog.Identity
import BelleSip.Provider.Machine

/-
This file proves when the provider can always tell its dialogs apart.
-/

namespace BelleSip

open Foundation
open Foundation.Checked (OnReturn)

namespace Provider

/-- No dialog that can be found has these identifiers. -/
def unnamed (provider : Provider) (identity : Option String × Option String × Option String) : Bool :=
  provider.dialogs.all fun dialog => !dialog.visible || dialog.identity ≠ identity

/-- A response that establishes the dialog gives it identifiers that no other dialog has. -/
def mayName (provider : Provider) (dialog : Dialog) (req : Request) (resp : Option Response) : Bool :=
  !dialog.establishing req resp || resp.all fun answer =>
    dialog.nameable req answer && provider.unnamed (dialog.namedBy req answer)

/-- A response that a transaction brings to its own dialog. -/
def mayNameOwn (provider : Provider) (transaction : Transaction) (resp : Option Response) : Bool :=
  transaction.dialog.all fun id => provider.dialogs[id]?.all fun dialog =>
    provider.mayName dialog transaction.request resp

/-- The response has the Call-ID and the From tag of the request, and a To tag. -/
def echoes (req : Request) (resp : Response) : Bool :=
  resp.callId.isSome && resp.callId = req.callId && resp.fromHeader.bind (·.tag) = req.fromHeader.bind (·.tag) &&
    resp.toHeader.any (·.tag.isSome) && req.cseq.isSome && req.vias.head?.isSome

/-- A response for which the provider looks its dialogs up comes from the peer of the request, and one for
which it does not look them up has identifiers that no dialog has. -/
def mayMatch (provider : Provider) (transaction : Transaction) (resp : Response) : Bool :=
  match transaction.dialog with
  | none => !shouldDialogBeCreated transaction.request resp ||
      (Dialog.new (!transaction.isClient) transaction.request (some resp)).all fun dialog =>
        provider.mayName dialog transaction.request (some resp)
  | some id => provider.dialogs[id]?.all fun dialog =>
      if mayFork dialog transaction.request resp then echoes transaction.request resp
      else provider.mayName dialog transaction.request (some resp)

/-- The condition on the end of a transaction. -/
def mayEnd (provider : Provider) (t : TransactionId) : Bool :=
  provider.transactions[t]?.all fun transaction =>
    transaction.state = .terminated || !transaction.unanswered ||
      provider.mayNameOwn transaction transaction.lastResponse

/-- The event gives no dialog the identifiers of another one. -/
def tellsApart (provider : Provider) : Event → Bool
  | .responseReceived t resp state => provider.transactions[t]?.all fun transaction =>
      !transaction.isClient || transaction.state = .init || transaction.state = .terminated || state = .init ||
        provider.mayMatch transaction resp
  | .sendResponse t resp channel accepted => provider.transactions[t]?.all fun transaction =>
      transaction.isClient || (transaction.lastResponse = none && channel = false) ||
        match fillResponse transaction resp with
        | .error _ => true
        | .ok filled => provider.mayNameOwn transaction
            (if accepted.isSome then some filled else transaction.lastResponse)
  | .terminate t => provider.mayEnd t
  | .resume _ => match provider.pending with
      | .terminate t :: _ => provider.mayEnd t
      | _ => true
  | _ => true

/-- The transaction that a dialog is created for by the event. -/
def Event.founder : Event → Option TransactionId
  | .createDialog t => some t
  | .responseReceived t _ _ => some t
  | _ => none

/-- A provider with the transaction that each of its dialogs has been created for. -/
structure Register where
  provider : Checked Provider
  owners : List TransactionId := []

/-- The owners of the dialogs that an event has added. -/
def newOwners (before after : Checked Provider) (founder : Option TransactionId) : List TransactionId :=
  match before, after, founder with
  | .ok before, .ok after, some t => List.replicate (after.dialogs.length - before.dialogs.length) t
  | _, _, _ => []

def Register.step (register : Register) (event : Event) : Register :=
  let after := Provider.step register.provider event
  { provider := after, owners := register.owners ++ newOwners register.provider after event.founder }

/-- The condition on an event, as long as the program runs. -/
def Register.tellsApart (register : Register) (event : Event) : Bool :=
  match register.provider with
  | .ok provider => provider.tellsApart event
  | .error _ => true

/-- No two dialogs that can be found have the same identifiers, the search by a message finds one dialog at
most, and an INVITE owns at most one dialog for each remote tag. -/
structure Distinguished (provider : Provider) (owners : List TransactionId) : Prop where
  apart : Apart Dialog.Differs provider.dialogs
  found : ∀ message asUas, findDialogFromMessage provider.dialogs message asUas ≠ .error .fatal
  forked : ∀ (t : TransactionId) (transaction : Transaction), provider.transactions[t]? = some transaction →
    transaction.isClient = true → transaction.isInvite = true → ∀ (first second : DialogId) (one other : Dialog),
      owners[first]? = some t → owners[second]? = some t → provider.dialogs[first]? = some one →
        provider.dialogs[second]? = some other → one.visible = true → other.visible = true →
          one.remoteTag = other.remoteTag → first = second

/-- The dialog has been created for the transaction. -/
structure Stems (dialog : Dialog) (transaction : Transaction) : Prop where
  role : dialog.isServer = !transaction.isClient
  localTag : transaction.isClient = true → dialog.localTag = transaction.request.fromHeader.bind (·.tag)
  callId : transaction.isClient = true → dialog.visible = true → dialog.callId = transaction.request.callId

/-- The invariant of the identifiers. -/
structure Identified (provider : Provider) (owners : List TransactionId) : Prop where
  proper : ∀ dialog ∈ provider.dialogs, dialog.Proper
  apart : Apart Dialog.Differs provider.dialogs
  owned : owners.length = provider.dialogs.length
  stems : ∀ (id : DialogId) (dialog : Dialog) (t : TransactionId), provider.dialogs[id]? = some dialog →
    owners[id]? = some t → ∃ transaction, provider.transactions[t]? = some transaction ∧ Stems dialog transaction
  belongs : ∀ (t : TransactionId) (transaction : Transaction) (id : DialogId),
    provider.transactions[t]? = some transaction → transaction.dialog = some id →
      ∃ dialog, provider.dialogs[id]? = some dialog ∧ (dialog.state = .null → owners[id]? = some t)
  unsent : ∀ (t : TransactionId) (transaction : Transaction), provider.transactions[t]? = some transaction →
    transaction.isClient = true → transaction.state = .init → transaction.lastResponse = none

/-- The transaction keeps its role, its dialog, and what its dialogs take from its request. -/
structure Lasts (before after : Transaction) : Prop where
  isClient : after.isClient = before.isClient
  dialog : after.dialog = before.dialog
  callId : after.request.callId = before.request.callId
  fromHeader : after.request.fromHeader = before.request.fromHeader
  initial : after.isClient = true → after.state = .init →
    before.state = .init ∧ after.lastResponse = before.lastResponse

theorem Stems.lasts {dialog : Dialog} {before after : Transaction} (stems : Stems dialog before)
    (lasts : Lasts before after) : Stems dialog after where
  role := by rw [lasts.isClient, stems.role]
  localTag := by
    intro client
    rw [lasts.fromHeader]
    exact stems.localTag (lasts.isClient.symm.trans client)
  callId := by
    intro client seen
    rw [lasts.callId]
    exact stems.callId (lasts.isClient.symm.trans client) seen

theorem Stems.keeps {before after : Dialog} {transaction : Transaction} (stems : Stems before transaction)
    (keeps : before.Keeps after) : Stems after transaction where
  role := keeps.isServer.trans stems.role
  localTag := by
    intro client
    have role : before.isServer = false := by simp [stems.role, client]
    exact (keeps.localTag role).trans (stems.localTag client)
  callId := by
    intro client seen
    obtain ⟨visible, identity⟩ := keeps.identity seen
    exact (congrArg Prod.fst identity).trans (stems.callId client visible)

namespace Identified

variable {provider : Provider} {owners : List TransactionId}

/-- The invariant speaks of the dialogs and the transactions only. -/
theorem congr {after : Provider} (identified : Identified provider owners)
    (dialogs : after.dialogs = provider.dialogs) (transactions : after.transactions = provider.transactions) :
    Identified after owners := by
  obtain ⟨proper, apart, owned, stems, belongs, unsent⟩ := identified
  refine ⟨?_, ?_, ?_, ?_, ?_, ?_⟩
  · rw [dialogs]
    exact proper
  · rw [dialogs]
    exact apart
  · rw [dialogs]
    exact owned
  · rw [dialogs, transactions]
    exact stems
  · rw [dialogs, transactions]
    exact belongs
  · rw [transactions]
    exact unsent

/-- A dialog takes a new value that is told apart from the others. -/
theorem set (identified : Identified provider owners) {id : DialogId} {before after : Dialog}
    (present : provider.dialogs[id]? = some before) (proper : after.Proper)
    (fresh : ∀ (other : DialogId) (dialog : Dialog), other ≠ id → provider.dialogs[other]? = some dialog →
      dialog.Differs after ∧ after.Differs dialog)
    (new : after.state = .null → before.state = .null)
    (stems : ∀ t transaction, owners[id]? = some t → provider.transactions[t]? = some transaction →
      Stems before transaction → Stems after transaction) :
    Identified (provider.setDialog id after) owners where
  proper := by
    intro dialog among
    rcases List.mem_or_eq_of_mem_set among with old | same
    · exact identified.proper dialog old
    · rw [same]
      exact proper
  apart := by
    have modified : provider.dialogs.set id after = provider.dialogs.modify id fun _ => after := by
      rw [List.modify_eq_set_getElem?, present]
      rfl
    show Apart Dialog.Differs (provider.dialogs.set id after)
    rw [modified]
    apply identified.apart.modify
    intro other dialog _ elsewhere otherPresent _
    exact fresh other dialog elsewhere otherPresent
  owned := by
    rw [identified.owned]
    exact (List.length_set ..).symm
  stems := by
    intro other dialog t otherPresent isOwner
    rw [Provider.setDialog, List.getElem?_set] at otherPresent
    split at otherPresent
    · next here =>
        subst here
        obtain ⟨transaction, placed, stemmed⟩ := identified.stems id before t present isOwner
        rw [if_pos (List.getElem?_eq_some_iff.mp present).1] at otherPresent
        cases otherPresent
        exact ⟨transaction, placed, stems t transaction isOwner placed stemmed⟩
    · exact identified.stems other dialog t otherPresent isOwner
  belongs := by
    intro t transaction other placed isDialog
    obtain ⟨dialog, otherPresent, owner⟩ := identified.belongs t transaction other placed isDialog
    rw [Provider.setDialog, List.getElem?_set]
    split
    · next here =>
        subst here
        cases present.symm.trans otherPresent
        rw [if_pos (List.getElem?_eq_some_iff.mp present).1]
        exact ⟨after, rfl, fun null => owner (new null)⟩
    · exact ⟨dialog, otherPresent, owner⟩
  unsent := identified.unsent

/-- A dialog changes and keeps its identifiers. -/
theorem keep (identified : Identified provider owners) {id : DialogId} {before after : Dialog}
    (present : provider.dialogs[id]? = some before) (keeps : before.Keeps after) :
    Identified (provider.setDialog id after) owners := by
  have positions := Apart.iff_positions.mp identified.apart
  apply identified.set present (keeps.proper (identified.proper before (List.mem_of_getElem? present))) _ keeps.new
  · intro t transaction _ _ stems
    exact stems.keeps keeps
  · intro other dialog elsewhere otherPresent
    constructor
    · intro seen afterSeen same
      obtain ⟨visible, identity⟩ := keeps.identity afterSeen
      exact positions other id dialog before elsewhere otherPresent present seen visible (same.trans identity)
    · intro afterSeen seen same
      obtain ⟨visible, identity⟩ := keeps.identity afterSeen
      exact positions other id dialog before elsewhere otherPresent present seen visible (same.symm.trans identity)

/-- A new dialog gets identifiers that no other one has. -/
theorem name (identified : Identified provider owners) {id : DialogId} {before after : Dialog}
    {t : TransactionId} {transaction : Transaction} (present : provider.dialogs[id]? = some before)
    (new : before.state = .null) (owner : owners[id]? = some t)
    (placed : provider.transactions[t]? = some transaction) {resp : Response}
    (names : before.Names transaction.request resp after)
    (free : provider.unnamed (before.namedBy transaction.request resp) = true) :
    Identified (provider.setDialog id after) owners := by
  have others : ∀ (other : DialogId) (dialog : Dialog), provider.dialogs[other]? = some dialog →
      dialog.visible = true → dialog.identity ≠ before.namedBy transaction.request resp := by
    intro other dialog otherPresent seen
    have apart := List.all_eq_true.mp free dialog (List.mem_of_getElem? otherPresent)
    simpa [seen] using apart
  apply identified.set present names.proper _ (fun _ => new)
  · intro owned founder isOwner founderPlaced stems
    cases owner.symm.trans isOwner
    cases placed.symm.trans founderPlaced
    have role := stems.role
    refine ⟨names.isServer.trans role, ?_, ?_⟩
    · intro client
      have uac : before.isServer = false := by simp [role, client]
      exact (names.localTag uac).trans (stems.localTag client)
    · intro client seen
      have uac : before.isServer = false := by simp [role, client]
      have identity := names.identity seen
      rw [Dialog.namedBy, uac] at identity
      exact congrArg Prod.fst identity
  · intro other dialog elsewhere otherPresent
    constructor
    · intro seen afterSeen same
      exact others other dialog otherPresent seen (same.trans (names.identity afterSeen))
    · intro afterSeen seen same
      exact others other dialog otherPresent seen (same.symm.trans (names.identity afterSeen))

/-- A transaction changes and lasts. -/
theorem modify (identified : Identified provider owners) {t : TransactionId} {change : Transaction → Transaction}
    (lasts : ∀ transaction, provider.transactions[t]? = some transaction → Lasts transaction (change transaction)) :
    Identified (provider.modify t change) owners := by
  have back : ∀ (other : TransactionId) (transaction : Transaction),
      (provider.modify t change).transactions[other]? = some transaction →
        ∃ old, provider.transactions[other]? = some old ∧ Lasts old transaction := by
    intro other transaction placed
    rw [Provider.modify, List.getElem?_modify, Option.map_eq_map, Option.map_eq_some_iff] at placed
    obtain ⟨old, oldPlaced, isNew⟩ := placed
    refine ⟨old, oldPlaced, ?_⟩
    split at isNew
    · next here =>
        subst here
        rw [← isNew]
        exact lasts old oldPlaced
    · rw [← isNew]
      exact ⟨rfl, rfl, rfl, rfl, fun _ initial => ⟨initial, rfl⟩⟩
  refine ⟨identified.proper, identified.apart, identified.owned, ?_, ?_, ?_⟩
  · intro id dialog owner present isOwner
    obtain ⟨transaction, placed, stems⟩ := identified.stems id dialog owner present isOwner
    rw [Provider.modify, List.getElem?_modify, placed]
    refine ⟨_, rfl, ?_⟩
    split
    · next here =>
        subst here
        exact stems.lasts (lasts transaction placed)
    · exact stems
  · intro other transaction id placed isDialog
    obtain ⟨old, oldPlaced, last⟩ := back other transaction placed
    exact identified.belongs other old id oldPlaced (last.dialog.symm.trans isDialog)
  · intro other transaction placed client initial
    obtain ⟨old, oldPlaced, last⟩ := back other transaction placed
    obtain ⟨oldInitial, same⟩ := last.initial client initial
    exact same.trans (identified.unsent other old oldPlaced (last.isClient.symm.trans client) oldInitial)

/-- A new transaction belongs to no new dialog. -/
theorem add (identified : Identified provider owners) {transaction : Transaction}
    (belongs : ∀ id, transaction.dialog = some id →
      ∃ dialog, provider.dialogs[id]? = some dialog ∧ dialog.state ≠ .null)
    (unsent : transaction.isClient = true → transaction.lastResponse = none) :
    Identified (provider.add transaction) owners := by
  have placed : ∀ (t : TransactionId) (other : Transaction),
      (provider.add transaction).transactions[t]? = some other →
        provider.transactions[t]? = some other ∨ other = transaction := by
    intro t other present
    rcases Nat.lt_or_ge t provider.transactions.length with inside | outside
    · exact .inl ((List.getElem?_append_left inside).symm.trans present)
    · rw [Provider.add, List.getElem?_append_right outside] at present
      exact .inr (List.mem_singleton.mp (List.mem_of_getElem? present))
  refine ⟨identified.proper, identified.apart, identified.owned, ?_, ?_, ?_⟩
  · intro id dialog t present isOwner
    obtain ⟨founder, founderPlaced, stems⟩ := identified.stems id dialog t present isOwner
    refine ⟨founder, ?_, stems⟩
    exact (List.getElem?_append_left (List.getElem?_eq_some_iff.mp founderPlaced).1).trans founderPlaced
  · intro t other id present isDialog
    rcases placed t other present with old | same
    · exact identified.belongs t other id old isDialog
    · rw [same] at isDialog
      obtain ⟨dialog, hasDialog, known⟩ := belongs id isDialog
      exact ⟨dialog, hasDialog, fun new => absurd new known⟩
  · intro t other present client initial
    rcases placed t other present with old | same
    · exact identified.unsent t other old client initial
    · rw [same] at client ⊢
      exact unsent client

/-- A new dialog cannot be found, and it has the tag of its INVITE. -/
theorem new_proper {isServer : Bool} {request : Request} {lastResponse : Option Response} {dialog : Dialog}
    (created : Dialog.new isServer request lastResponse = some dialog) :
    dialog.Proper ∧ dialog.visible = false ∧ dialog.state = .null ∧ dialog.isServer = isServer ∧
      (isServer = false → dialog.localTag = request.fromHeader.bind (·.tag)) := by
  unfold Dialog.new at created
  obtain ⟨fromHeader, hasFrom, created⟩ := Option.bind_eq_some_iff.mp created
  obtain ⟨fromTag, hasTag, created⟩ := Option.bind_eq_some_iff.mp created
  obtain ⟨toTag, made⟩ : ∃ toTag, (if isServer = true then
      some { isServer := true, remoteParty := some fromHeader, localTag := toTag, remoteTag := some fromTag }
      else some { isServer := false, localParty := some fromHeader, localTag := some fromTag, remoteTag := toTag,
                  routeSet := request.routes }) = some dialog := by
    cases lastResponse with
    | none => exact ⟨none, created⟩
    | some resp =>
        obtain ⟨toTag, -, made⟩ := Option.bind_eq_some_iff.mp created
        exact ⟨toTag, made⟩
  cases isServer with
  | true =>
      cases made
      exact ⟨⟨nofun, rfl, nofun, fun _ => rfl⟩, rfl, rfl, rfl, nofun⟩
  | false =>
      cases made
      refine ⟨⟨nofun, rfl, nofun, fun _ => rfl⟩, rfl, rfl, rfl, fun _ => ?_⟩
      rw [hasFrom]
      exact hasTag.symm

/-- A new dialog is owned by the transaction that it is created for. -/
theorem addDialog (identified : Identified provider owners) {t : TransactionId} {transaction : Transaction}
    (placed : provider.transactions[t]? = some transaction) {dialog : Dialog} {lastResponse : Option Response}
    (created : Dialog.new (!transaction.isClient) transaction.request lastResponse = some dialog) :
    Identified (provider.addDialog t dialog) (owners ++ [t]) := by
  obtain ⟨proper, hidden, new, role, localTag⟩ := new_proper created
  have stemmed : ∀ (id : DialogId) (other : Dialog) (owner : TransactionId),
      (provider.dialogs ++ [dialog])[id]? = some other → (owners ++ [t])[id]? = some owner →
        ∃ founder, provider.transactions[owner]? = some founder ∧ Stems other founder := by
    intro id other owner present isOwner
    rcases Nat.lt_or_ge id owners.length with inside | outside
    · rw [List.getElem?_append_left inside] at isOwner
      rw [List.getElem?_append_left (identified.owned ▸ inside)] at present
      exact identified.stems id other owner present isOwner
    · rw [List.getElem?_append_right outside] at isOwner
      rw [List.getElem?_append_right (identified.owned ▸ outside)] at present
      rw [List.mem_singleton.mp (List.mem_of_getElem? present)]
      rw [List.mem_singleton.mp (List.mem_of_getElem? isOwner)]
      refine ⟨transaction, placed, role, ?_, ?_⟩
      · intro client
        apply localTag
        simp [client]
      · intro _ seen
        rw [hidden] at seen
        cases seen
  have back : ∀ (owner : TransactionId) (later : Transaction),
      (provider.addDialog t dialog).transactions[owner]? = some later →
        ∃ old, provider.transactions[owner]? = some old ∧ later.isClient = old.isClient ∧ later.state = old.state ∧
          later.lastResponse = old.lastResponse ∧
          later.dialog = if t = owner then some provider.dialogs.length else old.dialog := by
    intro owner later present
    simp only [Provider.addDialog, Provider.modify, List.getElem?_modify, Option.map_eq_map,
      Option.map_eq_some_iff] at present
    obtain ⟨old, oldPlaced, isLater⟩ := present
    refine ⟨old, oldPlaced, ?_⟩
    rw [← isLater]
    split <;> exact ⟨rfl, rfl, rfl, rfl⟩
  refine ⟨?_, ?_, ?_, ?_, ?_, ?_⟩
  · intro other among
    rcases List.mem_append.mp among with old | last
    · exact identified.proper other old
    · rw [List.mem_singleton.mp last]
      exact proper
  · apply identified.apart.append_single
    intro other _
    constructor
    · intro _ seen
      rw [hidden] at seen
      cases seen
    · intro seen
      rw [hidden] at seen
      cases seen
  · show (owners ++ [t]).length = (provider.dialogs ++ [dialog]).length
    rw [List.length_append, List.length_append, identified.owned]
    rfl
  · intro id other owner present isOwner
    obtain ⟨founder, founderPlaced, stems⟩ := stemmed id other owner present isOwner
    show ∃ later, (provider.transactions.modify t _)[owner]? = some later ∧ Stems other later
    rw [List.getElem?_modify, founderPlaced]
    refine ⟨_, rfl, ?_⟩
    split <;> exact ⟨stems.role, stems.localTag, stems.callId⟩
  · intro owner later id present isDialog
    obtain ⟨old, oldPlaced, -, -, -, dialogs⟩ := back owner later present
    rw [dialogs] at isDialog
    split at isDialog
    · next here =>
        cases isDialog
        refine ⟨dialog, List.getElem?_concat_length, fun _ => ?_⟩
        rw [← identified.owned, ← here]
        exact List.getElem?_concat_length
    · obtain ⟨other, otherPresent, owned⟩ := identified.belongs owner old id oldPlaced isDialog
      have inside := (List.getElem?_eq_some_iff.mp otherPresent).1
      refine ⟨other, (List.getElem?_append_left inside).trans otherPresent, fun null => ?_⟩
      exact (List.getElem?_append_left (identified.owned ▸ inside)).trans (owned null)
  · intro owner later present client initial
    obtain ⟨old, oldPlaced, isClient, state, lastResponse, -⟩ := back owner later present
    rw [lastResponse]
    exact identified.unsent owner old oldPlaced (isClient.symm.trans client) (state.symm.trans initial)

end Identified

end Provider

end BelleSip
