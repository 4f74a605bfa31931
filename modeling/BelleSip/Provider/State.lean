import BelleSip.Dialog.Directory
import BelleSip.Transaction.State

/-
This file defines the provider with its dialogs and its transactions, and the calls that change them.

The listener may make any call from inside a callback, so the callbacks are not part of the state. What
the library does once a callback has returned is kept on a stack.
-/

namespace BelleSip

open Foundation

/-- The part of a transaction that the dialogs see. -/
structure Transaction where
  isClient : Bool := true
  request : Request
  state : TransactionState := .init
  lastResponse : Option Response := none
  dialog : Option DialogId := none
  sentByDialogQueue : Bool := false
  /-- The tag that a server transaction gives to its responses. -/
  toTag : String := ""
deriving DecidableEq, Repr

namespace Transaction

/-- The transaction has got no final response. -/
def unanswered (transaction : Transaction) : Bool :=
  transaction.lastResponse.all fun resp => resp.statusCode < 200

/-- The class of `belle_sip_ict_t` and `belle_sip_ist_t`. -/
def isInvite (transaction : Transaction) : Bool := transaction.request.method = "INVITE"

end Transaction

/-- This is `belle_sip_response_fill_for_dialog`; the URI of the Contact is left to the channel. -/
def Response.fillForDialog (resp : Response) (req : Request) : Response :=
  { resp with
    recordRoutes := req.recordRoutes
    contact :=
      if 200 ≤ resp.statusCode ∧ resp.statusCode < 300 ∧ Dialog.establishes req.method then
        resp.contact.or (some {})
      else resp.contact }

/-- What the library does after the call that it is in. -/
inductive Call where
  /-- `belle_sip_dialog_delete` terminates the transactions of its queue. -/
  | terminate (transaction : TransactionId)
  /-- `belle_sip_client_transaction_notify_response` ends with `belle_sip_dialog_check_ack_sent`. -/
  | checkAckSent (dialog : DialogId)
deriving DecidableEq, Repr

structure Provider where
  dialogs : List Dialog := []
  transactions : List Transaction := []
  /-- The requests that the listener has been given. -/
  received : List Request := []
  unconditionalAnswerEnabled : Bool := false
  pending : List Call := []
deriving DecidableEq, Repr

namespace Provider

def modify (provider : Provider) (id : TransactionId) (change : Transaction → Transaction) : Provider :=
  { provider with transactions := provider.transactions.modify id change }

def add (provider : Provider) (transaction : Transaction) : Provider :=
  { provider with transactions := provider.transactions ++ [transaction] }

def setDialog (provider : Provider) (id : DialogId) (dialog : Dialog) : Provider :=
  { provider with dialogs := provider.dialogs.set id dialog }

/-- This is `belle_sip_dialog_request_pending`. -/
def requestPending (provider : Provider) (dialog : Dialog) : Bool :=
  dialog.lastTransaction.any fun id => provider.transactions[id]?.any (·.state.isTransient)

/-- This is `belle_sip_dialog_is_authorized_transaction`. -/
def isAuthorizedTransaction (provider : Provider) (dialog : Dialog) (method : String) : Bool :=
  !provider.requestPending dialog || strcasecmp method "BYE" ||
    dialog.lastTransaction.any fun id => provider.transactions[id]?.any fun last =>
      (last.isClient && last.request.method = "SUBSCRIBE" && method = "NOTIFY") ||
        (last.request.method = "INVITE" && (method = "PRACK" || method = "UPDATE"))

/-- A dialog changes. When it is deleted, the transactions of its queue are terminated next. -/
def leave (provider : Provider) (id : DialogId) (before after : Dialog) : Provider :=
  { provider.setDialog id after with
    pending := (if after.queuedCt = before.queuedCt then [] else before.queuedCt.map .terminate) ++
      provider.pending }

/-- A transaction updates a dialog; the second component says that the response is a retransmission. -/
def updateDialog (provider : Provider) (id : DialogId) (t : TransactionId) (asUas : Bool) :
    Checked (Provider × Bool) :=
  match provider.dialogs[id]?, provider.transactions[t]? with
  | some dialog, some transaction => do
      let (after, retransmission) ← dialog.update t transaction.request transaction.lastResponse
        (transaction.state = .terminated) asUas
      return (provider.leave id dialog after, retransmission)
  | _, _ => return (provider, false)

/-- A transaction updates the dialog that it belongs to, if any. -/
def updateOwn (provider : Provider) (t : TransactionId) (asUas : Bool) : Checked Provider :=
  match provider.transactions[t]?.bind (·.dialog) with
  | none => return provider
  | some id => do
      let (provider, _) ← provider.updateDialog id t asUas
      return provider

/-- This is `belle_sip_dialog_delete`. -/
def deleteDialog (provider : Provider) (id : DialogId) : Provider :=
  match provider.dialogs[id]? with
  | none => provider
  | some dialog => provider.leave id dialog dialog.delete

/-- A new dialog is listed and becomes the dialog of its transaction. -/
def addDialog (provider : Provider) (t : TransactionId) (dialog : Dialog) : Provider :=
  { provider.modify t fun transaction => { transaction with dialog := some provider.dialogs.length } with
    dialogs := provider.dialogs ++ [dialog] }

/-- This is `belle_sip_provider_create_dialog_internal` without the check of the last response. -/
def createDialogInternal (provider : Provider) (t : TransactionId) : Provider × Option DialogId :=
  match provider.transactions[t]? with
  | none => (provider, none)
  | some transaction =>
      match Dialog.new (!transaction.isClient) transaction.request transaction.lastResponse with
      | none => (provider, none)
      | some dialog => (provider.addDialog t dialog, some provider.dialogs.length)

/-- This is `belle_sip_provider_create_dialog`. -/
def createDialog (provider : Provider) (t : TransactionId) : Checked Provider :=
  match provider.transactions[t]? with
  | none => return provider
  | some transaction =>
      if transaction.lastResponse.any fun resp => 200 ≤ resp.statusCode && resp.statusCode < 300 then
        .error .fatal
      else return (provider.createDialogInternal t).1

/-- This is `belle_sip_transaction_terminate`. -/
def terminate (provider : Provider) (t : TransactionId) : Checked Provider :=
  match provider.transactions[t]? with
  | none => return provider
  | some transaction =>
      if transaction.state = .terminated then return provider
      else
        let provider := provider.modify t fun transaction => { transaction with state := .terminated }
        if transaction.unanswered then provider.updateOwn t (!transaction.isClient)
        else return provider

/-- The methods `send_request` of both client transactions. -/
def emit (provider : Provider) (t : TransactionId) : Provider :=
  provider.modify t fun transaction =>
    { transaction with state := if transaction.isInvite then .calling else .trying }

/-- The test of a queued request whether its dialog is busy. -/
def mustQueue (provider : Provider) (transaction : Transaction) : Checked Bool :=
  if transaction.sentByDialogQueue || !transaction.request.dialogQueued then return false
  else do
    let id ← Checked.deref transaction.dialog
    return provider.dialogs[id]?.any fun dialog =>
      provider.requestPending dialog || !dialog.queuedCt.isEmpty

/-- This is `belle_sip_dialog_queue_client_transaction` on the dialog of the transaction. -/
def queueClientTransaction (provider : Provider) (t : TransactionId) (transaction : Transaction) : Provider :=
  match transaction.dialog with
  | none => provider
  | some id =>
      match provider.dialogs[id]? with
      | none => provider
      | some dialog => provider.setDialog id { dialog with queuedCt := dialog.queuedCt ++ [t] }

/-- A queued request gets the next number and the route set of its dialog. -/
def updateRequest (provider : Provider) (t : TransactionId) (transaction : Transaction) : Checked Provider :=
  if transaction.sentByDialogQueue || transaction.request.dialogQueued then do
    let id ← Checked.deref transaction.dialog
    match provider.dialogs[id]? with
    | none => return provider
    | some dialog => do
        let (dialog, req) ← dialog.updateRequest transaction.request
        return (provider.setDialog id dialog).modify t fun transaction => { transaction with request := req }
  else return provider

/-- The end of `belle_sip_client_transaction_send_request_to`, once the request is ready. -/
def dispatch (provider : Provider) (t : TransactionId) (outlet : Outlet) : Checked Provider := do
  let provider ← provider.updateOwn t false
  match outlet with
  | .ready => return provider.emit t
  | .connecting => return provider
  | _ => provider.terminate t

/-- This is `belle_sip_client_transaction_send_request_to`. -/
def sendRequest (provider : Provider) (t : TransactionId) (outlet : Outlet) : Checked Provider :=
  match provider.transactions[t]? with
  | none => return provider
  | some transaction =>
      if !transaction.isClient ∨ transaction.state ≠ .init ∨ outlet = .badUris then return provider
      else do
        let busy ← provider.mustQueue transaction
        if busy then return provider.queueClientTransaction t transaction
        else
          let provider ← provider.updateRequest t transaction
          provider.dispatch t outlet

/-- The channel of a transaction becomes ready. -/
def channelReady (provider : Provider) (t : TransactionId) : Provider :=
  if provider.transactions[t]?.any fun transaction => transaction.isClient && transaction.state = .init then
    provider.emit t
  else provider

/-- This is `belle_sip_provider_create_client_transaction` on a request of the application. -/
def createClientTransaction (provider : Provider) (req : Request) : Checked Provider :=
  if req.method = "ACK" then return provider
  else if req.vias = [] then .error .fatal
  else do
    let found ← findDialogFromMessage provider.dialogs req.toHeaders false
    return provider.add { request := { req with dialogQueued := false }, dialog := found }

/-- The transaction of a request that a dialog has created; none is created for an ACK. -/
def addInDialog (provider : Provider) (id : DialogId) (req : Option Request) : Provider :=
  match req with
  | none => provider
  | some req => if req.method = "ACK" then provider else provider.add { request := req, dialog := some id }

/-- This is `belle_sip_dialog_create_request` followed by `belle_sip_provider_create_client_transaction`. -/
def createRequest (provider : Provider) (id : DialogId) (method : String) : Checked Provider :=
  match provider.dialogs[id]? with
  | none => return provider
  | some dialog => do
      let (dialog, req) ← dialog.createRequest (provider.requestPending dialog) method
      return (provider.setDialog id dialog).addInDialog id req

/-- This is `belle_sip_dialog_create_queued_request` followed by
`belle_sip_provider_create_client_transaction`. -/
def createQueuedRequest (provider : Provider) (id : DialogId) (method : String) : Checked Provider :=
  match provider.dialogs[id]? with
  | none => return provider
  | some dialog => do
      let req ← dialog.createQueuedRequest method
      return provider.addInDialog id req

/-- The application makes an ACK with `belle_sip_dialog_create_ack`. -/
def createAck (provider : Provider) (id : DialogId) (cseq : Nat) : Checked Provider :=
  match provider.dialogs[id]? with
  | none => return provider
  | some dialog => do
      let _ ← dialog.createAck cseq
      return provider

/-- This is `belle_sip_dialog_send_ack`. -/
def sendAck (provider : Provider) (id : DialogId) (ack : Request) : Provider :=
  match provider.dialogs[id]? with
  | none => provider
  | some dialog => provider.setDialog id (dialog.sendAck ack)

/-- This is `belle_sip_dialog_handle_ack`; true when the ACK goes to the listener. -/
def handleAck (provider : Provider) (id : DialogId) (ack : Request) : Checked (Provider × Bool) :=
  match provider.dialogs[id]? with
  | none => return (provider, false)
  | some dialog => do
      let (dialog, recognised) ← dialog.handleAck ack
      return (provider.setDialog id dialog, recognised)

/-- The transaction that `_belle_sip_dialog_process_queue` takes from the queue of a dialog. -/
def dequeued (provider : Provider) (dialog : Dialog) : Option TransactionId :=
  if dialog.state = .terminated || provider.requestPending dialog || dialog.needsAck then none
  else dialog.queuedCt.head?

/-- This is `_belle_sip_dialog_process_queue`, called by the main loop. -/
def processQueue (provider : Provider) (id : DialogId) (outlet : Outlet) : Checked Provider :=
  match provider.dialogs[id]? with
  | none => return provider
  | some dialog =>
      match dialog.postponed with
      | 0 => return provider
      | postponed + 1 =>
          match provider.dequeued dialog with
          | none => return provider.setDialog id { dialog with postponed := postponed }
          | some t =>
              let provider := provider.setDialog id
                { dialog with postponed := postponed, queuedCt := dialog.queuedCt.tail }
              (provider.modify t fun transaction =>
                { transaction with sentByDialogQueue := true }).sendRequest t outlet

/-- The BYE that a dialog has created is sent in a transaction of its own. -/
def sendBye (provider : Provider) (id : DialogId) (dialog : Dialog) (bye : Request) (outlet : Outlet) :
    Checked Provider :=
  ((provider.setDialog id dialog).add { request := bye, dialog := some id }).sendRequest
    provider.transactions.length outlet

/-- This is `belle_sip_dialog_check_ack_sent`. -/
def checkAckSent (provider : Provider) (id : DialogId) (outlet : Outlet) : Checked Provider :=
  match provider.dialogs[id]? with
  | none => return provider
  | some dialog => do
      match ← dialog.checkAckSent (provider.requestPending dialog) with
      | (dialog, none) => return provider.setDialog id dialog
      | (dialog, some bye) => provider.sendBye id dialog bye outlet

/-- This is `dialog_on_200Ok_end`, called by its timer. -/
def on200OkEnd (provider : Provider) (id : DialogId) (outlet : Outlet) : Checked Provider :=
  match provider.dialogs[id]? with
  | none => return provider
  | some dialog =>
      if dialog.timer200OkEnd then do
        let (dialog, bye) ← dialog.on200OkEnd (provider.requestPending dialog)
        provider.sendBye id dialog bye outlet
      else return provider

/-- A response to an INVITE may belong to another dialog than that of its transaction. -/
def mayFork (dialog : Dialog) (req : Request) (resp : Response) : Bool :=
  101 ≤ resp.statusCode && resp.statusCode < 300 && req.method = "INVITE" && dialog.visible

/-- This is `should_dialog_be_created`. -/
def shouldDialogBeCreated (req : Request) (resp : Response) : Bool :=
  101 ≤ resp.statusCode && resp.statusCode < 300 && Dialog.establishes req.method

/-- The dialog that a response updates: that of the transaction, another one, or a new one. -/
def dialogOfResponse (provider : Provider) (t : TransactionId) (transaction : Transaction) (resp : Response) :
    Checked (Provider × Option DialogId) :=
  match transaction.dialog with
  | some id =>
      match provider.dialogs[id]? with
      | none => return (provider, none)
      | some dialog =>
          if mayFork dialog transaction.request resp then do
            let matching ← dialog.matchMessage resp.toHeaders false
            if matching then return (provider, some id)
            else
              match ← findDialogFromMessage provider.dialogs resp.toHeaders false with
              | some other => return (provider, some other)
              | none => return provider.createDialogInternal t
          else return (provider, some id)
  | none =>
      if shouldDialogBeCreated transaction.request resp then return provider.createDialogInternal t
      else return (provider, none)

/-- This is `belle_sip_client_transaction_notify_response` up to the call of the listener. -/
def notifyResponse (provider : Provider) (t : TransactionId) (resp : Response) : Checked Provider :=
  match provider.transactions[t]? with
  | none => return provider
  | some transaction => do
      let provider := provider.modify t fun transaction => { transaction with lastResponse := some resp }
      let (provider, target) ← provider.dialogOfResponse t transaction resp
      match target with
      | none => return provider
      | some id => do
          let (provider, retransmission) ← provider.updateDialog id t false
          if !retransmission && transaction.isInvite then
            return { provider with pending := .checkAckSent id :: provider.pending }
          else return provider

/-- A response that a client transaction passes on, and the state that the transaction leaves for. -/
def onResponse (provider : Provider) (t : TransactionId) (resp : Response) (state : TransactionState) :
    Checked Provider :=
  match provider.transactions[t]? with
  | none => return provider
  | some transaction =>
      if !transaction.isClient ∨ transaction.state = .init ∨ transaction.state = .terminated ∨ state = .init then
        return provider
      else (provider.modify t fun transaction => { transaction with state := state }).notifyResponse t resp

/-- This is `belle_sip_provider_create_server_transaction`; an INVITE is answered by 100 at once. -/
def createServerTransaction (provider : Provider) (req : Request) (toTag : String) (channel : Bool) :
    Checked Provider :=
  if req.method = "ACK" then return provider
  else do
    let found ← findDialogFromMessage provider.dialogs req.toHeaders true
    let invite : Bool := req.method = "INVITE"
    return provider.add {
      isClient := false
      request := req
      state := if invite then .proceeding else .trying
      lastResponse := if invite && channel then some (Response.createFromRequest req 100) else none
      dialog := found
      toTag := toTag }

/-- The response as `belle_sip_server_transaction_send_response` sends it. -/
def fillResponse (transaction : Transaction) (resp : Response) : Checked Response :=
  if resp.statusCode = 100 then return resp
  else do
    let toHeader ← Checked.deref resp.toHeader
    let resp := { resp with toHeader := some { toHeader with tag := toHeader.tag.or (some transaction.toTag) } }
    if transaction.dialog.isSome && 100 < resp.statusCode && resp.statusCode < 300 then
      return resp.fillForDialog transaction.request
    else return resp

/-- The response that a server transaction has accepted, if it has. -/
def keepResponse (provider : Provider) (t : TransactionId) (resp : Response) :
    Option TransactionState → Provider
  | some state => provider.modify t fun transaction =>
      { transaction with state := state, lastResponse := some resp }
  | none => provider

/-- This is `belle_sip_server_transaction_send_response`.

The argument `accepted` is the state that `send_new_response` leaves for, or none when it refuses. -/
def sendResponse (provider : Provider) (t : TransactionId) (resp : Response) (channel : Bool)
    (accepted : Option TransactionState) : Checked Provider :=
  match provider.transactions[t]? with
  | none => return provider
  | some transaction =>
      if transaction.isClient ∨ (transaction.lastResponse = none ∧ channel = false) then return provider
      else do
        let resp ← fillResponse transaction resp
        (provider.keepResponse t resp accepted).updateOwn t true

/-- The provider answers a request by itself. -/
def answer (provider : Provider) (req : Request) (statusCode : Nat) (toTag : String) (channel : Bool)
    (accepted : Option TransactionState) : Checked Provider := do
  let answering ← provider.createServerTransaction req toTag channel
  answering.sendResponse provider.transactions.length (Response.createFromRequest req statusCode) channel accepted

/-- This is `belle_sip_server_transaction_on_request`; an ACK reaches the dialog in the state ACCEPTED. -/
def onRequest (provider : Provider) (t : TransactionId) (req : Request) : Checked Provider :=
  match provider.transactions[t]? with
  | none => return provider
  | some transaction =>
      if req.method = "ACK" ∧ transaction.isInvite = true ∧ transaction.state = .accepted then
        match transaction.dialog with
        | none => return provider
        | some id => do
            let (provider, _) ← provider.handleAck id req
            return provider
      else return provider

/-- The last part of `belle_sip_provider_dispatch_request`, for a request that goes to the listener. -/
def offer (provider : Provider) (req : Request) (toTag : String) (channel : Bool)
    (accepted : Option TransactionState) : Checked Provider :=
  if provider.unconditionalAnswerEnabled ∧ req.method ≠ "ACK" then
    provider.answer req 480 toTag channel accepted
  else return { provider with received := req :: provider.received }

/-- This is `belle_sip_provider_dispatch_request` on a request with its headers.

The argument `matched` is the server transaction that has the branch of the request. -/
def dispatchRequest (provider : Provider) (req : Request) (matched : Option TransactionId) (toTag : String)
    (channel : Bool) (accepted : Option TransactionState) : Checked Provider :=
  match matched with
  | some t => provider.onRequest t req
  | none => do
      match ← findDialogFromMessage provider.dialogs req.toHeaders true with
      | none => provider.offer req toTag channel accepted
      | some id =>
          if req.method = "ACK" then
            let (provider, recognised) ← provider.handleAck id req
            if recognised then provider.offer req toTag channel accepted else return provider
          else if provider.dialogs[id]?.all fun dialog => provider.isAuthorizedTransaction dialog req.method then
            provider.offer req toTag channel accepted
          else provider.answer req 491 toTag channel accepted

/-- The end of a callback or of an iteration of a loop of the library. -/
def resume (provider : Provider) (outlet : Outlet) : Checked Provider :=
  match provider.pending with
  | [] => return provider
  | .terminate t :: rest => { provider with pending := rest }.terminate t
  | .checkAckSent id :: rest => { provider with pending := rest }.checkAckSent id outlet

end Provider

end BelleSip
