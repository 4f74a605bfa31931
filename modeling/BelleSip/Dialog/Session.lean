import BelleSip.Dialog.Directory
import BelleSip.Transaction.State

/-
This file defines the runs of one dialog with the transactions that belong to it.
-/

namespace BelleSip

open Foundation

/-- Where the CSeq number of a request comes from. -/
inductive Origin where
  /-- A queued request has no number of its own before it is sent. -/
  | undrawn
  /-- The dialog counted up for it; the rank is the number of times that it had done so before. -/
  | dialog (rank : Nat)
  /-- The number is one more than that of the challenged request. -/
  | challenge (challenged : TransactionId)
  /-- The number is that of the request to cancel. -/
  | cancel
  | peer
deriving DecidableEq, Repr

structure DialogTransaction where
  isClient : Bool := true
  request : Request
  state : TransactionState := .init
  lastResponse : Option Response := none
  /-- The field `dialog` of the transaction points to the dialog of the session. -/
  inDialog : Bool := true
  sentByDialogQueue : Bool := false
  /-- The transaction listens to a channel that is not ready yet. -/
  waiting : Bool := false
  origin : Origin
deriving DecidableEq, Repr

namespace DialogTransaction

def seqNumber (transaction : DialogTransaction) : Nat := transaction.request.cseq.elim 0 (·.seqNumber)

/-- The transaction has got no final response. -/
def unanswered (transaction : DialogTransaction) : Bool :=
  transaction.lastResponse.all fun resp => resp.statusCode < 200

end DialogTransaction

/-- A request that has been handed to the channel in a new transaction. -/
structure Emission where
  transaction : TransactionId
  seqNumber : Nat
  origin : Origin
deriving DecidableEq, Repr

structure Session where
  dialog : Dialog
  transactions : List DialogTransaction := []
  /-- The number of CSeq numbers that the dialog has given. -/
  drawn : Nat := 0
  /-- The requests sent so far, other than ACK and CANCEL. -/
  emissions : List Emission := []
  /-- The program has been stopped by a fault. -/
  halted : Bool := false
deriving DecidableEq, Repr

namespace Session

def modify (session : Session) (id : TransactionId) (change : DialogTransaction → DialogTransaction) :
    Session :=
  { session with transactions := session.transactions.modify id change }

def add (session : Session) (transaction : DialogTransaction) : Session :=
  { session with transactions := session.transactions ++ [transaction] }

/-- This is `belle_sip_dialog_request_pending`. -/
def requestPending (session : Session) : Bool :=
  match session.dialog.lastTransaction with
  | none => false
  | some id => session.transactions[id]?.any (·.state.isTransient)

/-- The dialog is updated by a transaction in its present state. -/
def updateBy (session : Session) (id : TransactionId) (transaction : DialogTransaction) (asUas : Bool) :
    Checked (Session × Bool) := do
  let (dialog, retransmission) ← session.dialog.update id transaction.request transaction.lastResponse
    (transaction.state = .terminated) asUas
  return ({ session with dialog := dialog }, retransmission)

/-- This is `belle_sip_transaction_terminate` on a transaction of the queue of a deleted dialog. -/
def abort (session : Session) (id : TransactionId) : Checked Session :=
  match session.transactions[id]? with
  | none => return session
  | some transaction =>
      if transaction.state = .terminated then return session
      else do
        let session := session.modify id fun transaction => { transaction with state := .terminated }
        if transaction.unanswered then
          return (← session.updateBy id { transaction with state := .terminated } false).1
        else return session

def abortAll (session : Session) : List TransactionId → Checked Session
  | [] => return session
  | id :: rest => do
      let session ← session.abort id
      session.abortAll rest

/-- This is `belle_sip_dialog_update` with the deletion that it may lead to. -/
def updateDialog (session : Session) (id : TransactionId) (asUas : Bool) : Checked (Session × Bool) :=
  match session.transactions[id]? with
  | none => return (session, false)
  | some transaction => do
      let queued := session.dialog.queuedCt
      let (updated, retransmission) ← session.updateBy id transaction asUas
      if updated.dialog.queuedCt = queued then return (updated, retransmission)
      else return (← updated.abortAll queued, retransmission)

/-- This is `belle_sip_dialog_delete`. -/
def delete (session : Session) : Checked Session :=
  { session with dialog := session.dialog.delete }.abortAll session.dialog.queuedCt

/-- This is `belle_sip_transaction_terminate`. -/
def terminate (session : Session) (id : TransactionId) : Checked Session :=
  match session.transactions[id]? with
  | none => return session
  | some transaction =>
      if transaction.state = .terminated then return session
      else do
        let session := session.modify id fun transaction => { transaction with state := .terminated }
        if transaction.inDialog && transaction.unanswered then
          return (← session.updateDialog id (!transaction.isClient)).1
        else return session

/-- The methods `send_request` of both client transactions. -/
def emit (session : Session) (id : TransactionId) : Session :=
  match session.transactions[id]? with
  | none => session
  | some transaction =>
      let state := if transaction.request.method = "INVITE" then .calling else .trying
      let sent := session.modify id fun transaction => { transaction with state := state, waiting := false }
      if transaction.request.method = "CANCEL" then sent
      else { sent with emissions := sent.emissions ++ [⟨id, transaction.seqNumber, transaction.origin⟩] }

/-- A transaction gets a request with the number that the dialog has just drawn. -/
def renumber (session : Session) (id : TransactionId) (dialog : Dialog) (req : Request) : Session :=
  { session with
    dialog := dialog
    drawn := session.drawn + 1
    transactions := session.transactions.modify id fun transaction =>
      { transaction with request := req, origin := .dialog session.drawn } }

/-- The request of a transaction gets the next number of the dialog. -/
def updateRequest (session : Session) (id : TransactionId) : Checked Session :=
  match session.transactions[id]? with
  | none => return session
  | some transaction => do
      let (dialog, req) ← session.dialog.updateRequest transaction.request
      return session.renumber id dialog req

/-- The request of a transaction updates the dialog of the transaction, if it has one. -/
def updateOwn (session : Session) (id : TransactionId) (inDialog : Bool) : Checked Session :=
  if inDialog then do
    let (session, _) ← session.updateDialog id false
    return session
  else return session

/-- The end of `belle_sip_client_transaction_send_request_to`, once the request has its number. -/
def dispatch (session : Session) (id : TransactionId) (inDialog : Bool) (outlet : Outlet) :
    Checked Session := do
  let session ← session.updateOwn id inDialog
  match outlet with
  | .ready => return session.emit id
  | .connecting => return session.modify id fun transaction => { transaction with waiting := true }
  | _ => session.terminate id

/-- A queued request has to wait while the dialog is busy. -/
def queues (session : Session) (transaction : DialogTransaction) : Bool :=
  !transaction.sentByDialogQueue && transaction.request.dialogQueued &&
    (session.requestPending || !session.dialog.queuedCt.isEmpty)

/-- A request of the queue draws its number when it is sent. -/
def drawsNow (transaction : DialogTransaction) : Bool :=
  transaction.sentByDialogQueue || transaction.request.dialogQueued

/-- This is `belle_sip_client_transaction_send_request_to`. -/
def sendRequest (session : Session) (id : TransactionId) (outlet : Outlet) : Checked Session :=
  match session.transactions[id]? with
  | none => return session
  | some transaction =>
      if transaction.state ≠ .init ∨ outlet = .badUris then return session
      else if session.queues transaction then
        return { session with dialog := { session.dialog with queuedCt := session.dialog.queuedCt ++ [id] } }
      else if drawsNow transaction then do
        let session ← session.updateRequest id
        session.dispatch id transaction.inDialog outlet
      else session.dispatch id transaction.inDialog outlet

/-- A transaction is created for a request with the number that the dialog has just drawn. -/
def addDrawn (session : Session) (req : Request) : Session :=
  { session.add { request := req, origin := .dialog session.drawn } with drawn := session.drawn + 1 }

/-- This is `belle_sip_dialog_create_request` followed by `belle_sip_provider_create_client_transaction`. -/
def createRequest (session : Session) (method : String) : Checked Session := do
  let (dialog, req) ← session.dialog.createRequest session.requestPending method
  let session := { session with dialog := dialog }
  match req with
  | none => return session
  -- a client transaction cannot be created for an ACK
  | some req => if method = "ACK" then return session else return session.addDrawn req

/-- This is `belle_sip_dialog_create_queued_request` with the creation of its transaction. -/
def createQueuedRequest (session : Session) (method : String) : Checked Session := do
  match ← session.dialog.createQueuedRequest method with
  | none => return session
  | some req =>
      if method = "ACK" then return session else return session.add { request := req, origin := .undrawn }

/-- This is `belle_sip_client_transaction_create_authenticated_request` with the creation of the new
transaction, which finds its dialog by the headers of the request. -/
def createAuthenticatedRequest (session : Session) (id : TransactionId) : Checked Session :=
  match session.transactions[id]? with
  | none => return session
  | some transaction => do
      let cseq ← Checked.deref transaction.request.cseq
      if transaction.isClient && (transaction.state = .completed || transaction.state = .terminated) then
        let req : Request := { transaction.request with
          dialogQueued := false
          cseq := some { cseq with seqNumber := (cseq.seqNumber + 1) % UInt32.size } }
        let found ← findDialogFromMessage [session.dialog] req.toHeaders false
        return session.add { request := req, inDialog := found.isSome, origin := .challenge id }
      else return session

/-- This is `belle_sip_client_transaction_create_cancel` with the creation of its transaction. -/
def createCancel (session : Session) (id : TransactionId) : Checked Session :=
  match session.transactions[id]? with
  | none => return session
  | some transaction =>
      if transaction.isClient && transaction.request.method = "INVITE" &&
          transaction.state = .proceeding then do
        let cseq ← Checked.deref transaction.request.cseq
        let req : Request := {
          method := "CANCEL"
          uri := transaction.request.uri
          vias := transaction.request.vias.take 1
          callId := transaction.request.callId
          fromHeader := transaction.request.fromHeader
          toHeader := transaction.request.toHeader
          routes := transaction.request.routes
          maxForwards := transaction.request.maxForwards
          cseq := some { cseq with method := "CANCEL" } }
        let found ← findDialogFromMessage [session.dialog] req.toHeaders false
        return session.add { request := req, inDialog := found.isSome, origin := .cancel }
      else return session

/-- The transaction that `_belle_sip_dialog_process_queue` takes from the queue. -/
def dequeued (session : Session) : Option TransactionId :=
  if session.dialog.state = .terminated || session.requestPending || session.dialog.needsAck then none
  else session.dialog.queuedCt.head?

/-- This is `_belle_sip_dialog_process_queue`, called by the main loop. -/
def processQueue (session : Session) (outlet : Outlet) : Checked Session :=
  match session.dialog.postponed with
  | 0 => return session
  | postponed + 1 =>
      let session : Session := { session with dialog := { session.dialog with postponed := postponed } }
      match session.dequeued with
      | none => return session
      | some id =>
          let session : Session := { session with dialog := { session.dialog with
            queuedCt := session.dialog.queuedCt.tail } }
          (session.modify id fun transaction => { transaction with sentByDialogQueue := true }).sendRequest
            id outlet

/-- A response cannot make the transaction leave for the state: it has not been sent or it has ended, or
its kind would have to go back to a transient state. -/
def excludes (transaction : DialogTransaction) (state : TransactionState) : Bool :=
  transaction.state = .init || transaction.state = .terminated || state = .init ||
    state.isTransient && !transaction.state.isTransient

/-- A response makes a client transaction leave for a state that its kind chooses, then updates the
dialog unless it belongs to another one. -/
def respond (session : Session) (id : TransactionId) (state : TransactionState) (resp : Response) :
    Checked Session :=
  match session.transactions[id]? with
  | none => return session
  | some transaction =>
      if excludes transaction state then return session
      else do
        let session := session.modify id fun transaction =>
          { transaction with state := state, lastResponse := some resp }
        if !transaction.inDialog then return session
        else if transaction.isClient && transaction.request.method = "INVITE" && 101 ≤ resp.statusCode &&
            resp.statusCode < 300 && session.dialog.visible then
          if ← session.dialog.matchMessage resp.toHeaders false then
            return (← session.updateDialog id false).1
          else return session
        else return (← session.updateDialog id (!transaction.isClient)).1

/-- An INVITE creates the dialog of another branch of the fork and belongs to that dialog from then on. -/
def fork (session : Session) (id : TransactionId) : Session :=
  session.modify id fun transaction =>
    if transaction.isClient && transaction.request.method = "INVITE" && transaction.state ≠ .init then
      { transaction with inDialog := false }
    else transaction

/-- A response to an INVITE that belongs to another dialog of the fork matches this one and updates it. -/
def rejoin (session : Session) (id : TransactionId) (state : TransactionState) (resp : Response) :
    Checked Session :=
  match session.transactions[id]? with
  | none => return session
  | some transaction =>
      if excludes transaction state then return session
      else if !transaction.inDialog && transaction.isClient && transaction.request.method = "INVITE" &&
          101 ≤ resp.statusCode && resp.statusCode < 300 && session.dialog.visible then do
        if ← session.dialog.matchMessage resp.toHeaders false then
          let session := session.modify id fun transaction =>
            { transaction with state := state, lastResponse := some resp }
          return (← session.updateDialog id false).1
        else return session
      else return session

/-- The BYE that the dialog has created is sent in a transaction of its own. -/
def sendBye (session : Session) (dialog : Dialog) (bye : Request) (outlet : Outlet) : Checked Session :=
  ({ session with dialog := dialog }.addDrawn bye).sendRequest session.transactions.length outlet

/-- This is `belle_sip_dialog_check_ack_sent`. -/
def checkAckSent (session : Session) (outlet : Outlet) : Checked Session := do
  match ← session.dialog.checkAckSent session.requestPending with
  | (dialog, none) => return { session with dialog := dialog }
  | (dialog, some bye) => session.sendBye dialog bye outlet

/-- The timer that waits for the ACK expires. -/
def on200OkEnd (session : Session) (outlet : Outlet) : Checked Session :=
  if session.dialog.timer200OkEnd then do
    let (dialog, bye) ← session.dialog.on200OkEnd session.requestPending
    session.sendBye dialog bye outlet
  else return session

/-- The calls of the application, the transaction layer, and the main loop. -/
inductive Event where
  | createRequest (method : String)
  | createQueuedRequest (method : String)
  | createAuthenticatedRequest (id : TransactionId)
  | createCancel (id : TransactionId)
  | sendRequest (id : TransactionId) (outlet : Outlet)
  | channelReady (id : TransactionId)
  | processQueue (outlet : Outlet)
  | requestReceived (req : Request)
  | responded (id : TransactionId) (state : TransactionState) (resp : Response)
  | forked (id : TransactionId)
  | rejoined (id : TransactionId) (state : TransactionState) (resp : Response)
  /-- A response that the server transaction refuses updates the dialog with the last one. -/
  | responseRefused (id : TransactionId)
  | terminated (id : TransactionId)
  | ackSent (ack : Request)
  | ackReceived (ack : Request)
  | ackChecked (outlet : Outlet)
  | timer200OkEnd (outlet : Outlet)
  | terminateOnBye (value : Bool)
  | deleted

/-- A transaction that waits for its channel sends its request. -/
def channelReady (session : Session) (id : TransactionId) : Session :=
  if session.transactions[id]?.any fun transaction => transaction.waiting && transaction.state = .init then
    session.emit id
  else session

def handle (session : Session) : Event → Checked Session
  | .createRequest method => session.createRequest method
  | .createQueuedRequest method => session.createQueuedRequest method
  | .createAuthenticatedRequest id => session.createAuthenticatedRequest id
  | .createCancel id => session.createCancel id
  | .sendRequest id outlet => session.sendRequest id outlet
  | .channelReady id => return session.channelReady id
  | .processQueue outlet => session.processQueue outlet
  -- a server transaction is not created for an ACK
  | .requestReceived req =>
      if req.method = "ACK" then return session
      else return session.add { isClient := false, request := req, state := .proceeding, origin := .peer }
  | .responded id state resp => session.respond id state resp
  | .forked id => return session.fork id
  | .rejoined id state resp => session.rejoin id state resp
  | .responseRefused id => do
      if session.transactions[id]?.all (·.isClient) then return session
      else
        let (session, _) ← session.updateDialog id true
        return session
  | .terminated id => session.terminate id
  | .ackSent ack => return { session with dialog := session.dialog.sendAck ack }
  | .ackReceived ack => do
      let (dialog, _) ← session.dialog.handleAck ack
      return { session with dialog := dialog }
  | .ackChecked outlet => session.checkAckSent outlet
  | .timer200OkEnd outlet => session.on200OkEnd outlet
  | .terminateOnBye value => return { session with dialog := { session.dialog with terminateOnBye := value } }
  | .deleted => session.delete

/-- One event of a session; nothing happens after a fault. -/
def step (session : Session) (event : Event) : Session :=
  if session.halted then session
  else match session.handle event with
    | .ok session => session
    | .error _ => { session with halted := true }

end Session

end BelleSip
