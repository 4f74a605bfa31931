import BelleSip.Foundation.Machine
import BelleSip.Provider.State
import BelleSip.Dialog.Search

/-
This file defines the runs of a provider and the condition under which its dialogs stay usable.
-/

namespace BelleSip

open Foundation

namespace Provider

/-- The calls of the application, the messages from the network, and the work of the main loop. -/
inductive Event where
  | createDialog (t : TransactionId)
  | createClientTransaction (req : Request)
  | createServerTransaction (req : Request) (toTag : String) (channel : Bool)
  | createRequest (id : DialogId) (method : String)
  | createQueuedRequest (id : DialogId) (method : String)
  | createAck (id : DialogId) (cseq : Nat)
  | sendAck (id : DialogId) (ack : Request)
  | sendRequest (t : TransactionId) (outlet : Outlet)
  | channelReady (t : TransactionId)
  | processQueue (id : DialogId) (outlet : Outlet)
  | responseReceived (t : TransactionId) (resp : Response) (state : TransactionState)
  | requestReceived (req : Request) (matched : Option TransactionId) (toTag : String) (channel : Bool)
      (accepted : Option TransactionState)
  | sendResponse (t : TransactionId) (resp : Response) (channel : Bool) (accepted : Option TransactionState)
  /-- A transaction changes its state without a word to its dialog. -/
  | transactionMoves (t : TransactionId) (state : TransactionState)
  | terminate (t : TransactionId)
  | timer200OkEnd (id : DialogId) (outlet : Outlet)
  | resume (outlet : Outlet)
  | findDialog (callId fromTag toTag : String)
  | terminateOnBye (id : DialogId) (value : Bool)
  | deleteDialog (id : DialogId)
deriving DecidableEq, Repr

/-- A transaction leaves for another state than the first. -/
def move (provider : Provider) (t : TransactionId) (state : TransactionState) : Provider :=
  if state = .init then provider
  else provider.modify t fun transaction => { transaction with state := state }

/-- This is `belle_sip_dialog_terminate_on_bye`. -/
def terminateOnBye (provider : Provider) (id : DialogId) (value : Bool) : Provider :=
  match provider.dialogs[id]? with
  | none => provider
  | some dialog => provider.setDialog id { dialog with terminateOnBye := value }

def handle (provider : Provider) : Event → Checked Provider
  | .createDialog t => provider.createDialog t
  | .createClientTransaction req => provider.createClientTransaction req
  | .createServerTransaction req toTag channel =>
      -- the application answers the requests that it has been given
      if req ∈ provider.received then provider.createServerTransaction req toTag channel else return provider
  | .createRequest id method => provider.createRequest id method
  | .createQueuedRequest id method => provider.createQueuedRequest id method
  | .createAck id cseq => provider.createAck id cseq
  | .sendAck id ack => return provider.sendAck id ack
  | .sendRequest t outlet => provider.sendRequest t outlet
  | .channelReady t => return provider.channelReady t
  | .processQueue id outlet => provider.processQueue id outlet
  | .responseReceived t resp state => provider.onResponse t resp state
  | .requestReceived req matched toTag channel accepted =>
      -- a request without its headers is answered by 400, outside of all transactions
      if req.checkHeaders then provider.dispatchRequest req matched toTag channel accepted
      else return provider
  | .sendResponse t resp channel accepted => provider.sendResponse t resp channel accepted
  | .transactionMoves t state => return provider.move t state
  | .terminate t => provider.terminate t
  | .timer200OkEnd id outlet => provider.on200OkEnd id outlet
  | .resume outlet => provider.resume outlet
  | .findDialog callId fromTag toTag => do
      let _ ← BelleSip.findDialog provider.dialogs callId fromTag toTag
      return provider
  | .terminateOnBye id value => return provider.terminateOnBye id value
  | .deleteDialog id => return provider.deleteDialog id

/-- One event of a provider; nothing happens after a fault. -/
def step (state : Checked Provider) (event : Event) : Checked Provider := do
  let provider ← state
  provider.handle event

/-- The dialog of a transaction admits what the transaction brings when it ends without final response. -/
def mayTerminate (provider : Provider) (t : TransactionId) : Bool :=
  provider.transactions[t]?.all fun transaction =>
    transaction.state = .terminated || !transaction.unanswered || transaction.dialog.all fun id =>
      provider.dialogs[id]?.all fun dialog =>
        dialog.admits transaction.request transaction.lastResponse (!transaction.isClient)

/-- A response that starts a new dialog establishes it. -/
def mayStart (transaction : Transaction) (resp : Response) : Bool :=
  (Dialog.new (!transaction.isClient) transaction.request (some resp)).all fun dialog =>
    dialog.admits transaction.request (some resp) false

/-- A response to a forked INVITE has the tags that are compared, and suits the dialog that it answers or
starts. -/
def mayAnswer (provider : Provider) (dialog : Dialog) (transaction : Transaction) (resp : Response) : Bool :=
  dialog.comparable resp.toHeaders &&
    (provider.dialogs.all fun other =>
      !other.visible || !other.answeredBy resp.toHeaders || other.admits transaction.request (some resp) false) &&
    (provider.dialogs.any (fun other => other.visible && other.answeredBy resp.toHeaders) ||
      mayStart transaction resp)

/-- The condition on a response for the dialog that it updates. -/
def mayRespond (provider : Provider) (transaction : Transaction) (resp : Response) : Bool :=
  match transaction.dialog with
  | none => !shouldDialogBeCreated transaction.request resp || mayStart transaction resp
  | some id => provider.dialogs[id]?.all fun dialog =>
      if mayFork dialog transaction.request resp then provider.mayAnswer dialog transaction resp
      else dialog.admits transaction.request (some resp) false

/-- The condition on a response that the application sends. -/
def maySend (provider : Provider) (transaction : Transaction) (resp : Response)
    (accepted : Option TransactionState) : Bool :=
  match fillResponse transaction resp with
  | .error _ => false
  | .ok resp => transaction.dialog.all fun id => provider.dialogs[id]?.all fun dialog =>
      dialog.admits transaction.request (if accepted.isSome then some resp else transaction.lastResponse) true

/-- The condition on an event under which the dialogs stay usable. -/
def permits (provider : Provider) : Event → Bool
  -- a request that waits for its dialog keeps it
  | .createDialog t => provider.transactions[t]?.all fun transaction =>
      transaction.state ≠ .init || !transaction.request.dialogQueued
  | .createQueuedRequest id method => Dialog.establishes method || provider.dialogs[id]?.all (·.complete)
  | .sendAck id ack => provider.dialogs[id]?.all fun dialog => !dialog.needsAck || ack.cseq.isSome
  | .responseReceived t resp state => provider.transactions[t]?.all fun transaction =>
      !transaction.isClient || transaction.state = .init || transaction.state = .terminated || state = .init ||
        provider.mayRespond transaction resp
  | .sendResponse t resp channel accepted => provider.transactions[t]?.all fun transaction =>
      transaction.isClient || (transaction.lastResponse = none && channel = false) ||
        provider.maySend transaction resp accepted
  | .terminate t => provider.mayTerminate t
  | .resume _ => match provider.pending with
      | [] => true
      | .terminate t :: _ => provider.mayTerminate t
      -- a dialog is not deleted before its listener has sent the ACK
      | .checkAckSent id :: _ => provider.dialogs[id]?.all fun dialog =>
          !dialog.needsAck || dialog.state ≠ .terminated
  | .findDialog callId fromTag toTag => lookable provider.dialogs callId fromTag toTag
  | _ => true

/-- The condition on an event, as long as the program runs. -/
def Permitted (state : Checked Provider) (event : Event) : Prop :=
  Checked.OnReturn state fun provider => provider.permits event = true

instance (state : Checked Provider) (event : Event) : Decidable (Permitted state event) :=
  match state with
  | .ok provider => inferInstanceAs (Decidable (provider.permits event = true))
  | .error _ => isTrue trivial

end Provider

end BelleSip
