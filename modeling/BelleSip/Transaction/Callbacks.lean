import BelleSip.Dialog.Outcome
import BelleSip.Foundation.Reentrance
import BelleSip.Transaction.Server

/-
This file defines the four transactions with the callbacks of their listeners, from which the application may call
them again.
-/

namespace BelleSip

open Foundation
open Foundation.Reentrance (Frame Program)

namespace Callbacks

/-- The classes `belle_sip_ict_t`, `belle_sip_nict_t`, `belle_sip_ist_t`, and `belle_sip_nist_t`. -/
inductive Kind where
  | ict
  | nict
  | ist
  | nist
deriving DecidableEq, Repr

def Kind.isClient : Kind → Bool
  | .ict | .nict => true
  | .ist | .nist => false

/-- The timers of the four classes. -/
inductive Timer where
  | a
  | b
  | d
  | m
  | e
  | f
  | k
  | g
  | h
  | i
  | l
  | j
deriving DecidableEq, Repr

/-- The methods of `belle_sip_listener_t` that a transaction invokes. -/
inductive Callback where
  | processIoError
  | processRequestEvent
  | processResponseEvent
  | processTimeout
  | processTransactionTerminated
deriving DecidableEq, Repr

/-- A listener with its methods that are not null. -/
structure Listener where
  id : Nat
  methods : List Callback
deriving DecidableEq, Repr

inductive Message where
  | request
  | ack
  | response (resp : Response)
deriving DecidableEq, Repr

/-- What a transaction does that others notice. -/
inductive Action where
  | queueMessage (message : Message)
  | invoke (callback : Callback) (listener : Nat)
deriving DecidableEq, Repr

structure Transaction where
  kind : Kind
  request : Request
  toTag : String := ""
  state : TransactionState := .init
  dialog : Option Dialog := none
  lastResponse : Option Response := none
  channel : Option Server.PeerChannel := none
  /-- What the transaction has queued on its channel. -/
  queued : List Message := []
  timedOut : Bool := false
  ack : Bool := false
  /-- The timers that the transaction points to. -/
  timers : List Timer := []
  /-- The timers that are sources of the main loop. -/
  sources : List Timer := []
  /-- How often the transaction is in the list of its provider. -/
  known : Nat := 0
  /-- The listeners of the provider, or the internal ones for an internal transaction. -/
  listeners : List Listener := []
  /-- What the transaction has done in the state `TERMINATED`. -/
  afterwards : List Action := []
  /-- The listeners that were to be told that the transaction has terminated, for each time that they were. -/
  announced : List (List Listener) := []
deriving DecidableEq, Repr

/-- What the application, or another part of the library that runs in its turn, can call or change at any time. -/
inductive Call where
  | terminate
  /-- The argument `busy` says that the dialog queues the requests that were created for its queue. -/
  | sendRequest (outlet : Outlet) (channel : Server.PeerChannel) (busy : Bool)
  | sendResponse (resp : Response) (channel : Option Server.PeerChannel)
  | channelReady
  | channelEnded
  | setDialog (dialog : Option Dialog)
  | setListeners (listeners : List Listener)
deriving DecidableEq, Repr

/-- What the main loop brings: a timer, with what the channel answers to the report of a timeout, a response, with the
dialog that the provider finds for it, and a request. -/
inductive Event where
  | timer (timer : Timer) (suspect : Bool)
  | response (resp : Response) (found : Option Dialog)
  | request (req : Request)
deriving DecidableEq, Repr

/-- The work of a transaction, in parts that no outside code interrupts. -/
inductive Task where
  | enter (call : Call)
  | begin (event : Event)
  | terminate
  | onTerminate
  | setTransactionTerminated
  | removeTransaction
  | invokeListeners (callback : Callback)
  | invoke (callback : Callback) (listeners : List Listener)
  | send (outlet : Outlet) (channel : Server.PeerChannel)
  | startTimerD
  | finishCompleted
  | reportTimeout
  | stopSource (timer : Timer)
deriving DecidableEq, Repr

/-- A part of the work: the transaction after it and what follows. -/
abbrev Part := Checked (Transaction × List (Frame Task))

/-- `belle_sip_dialog_delete` terminates the transactions of its queue, whose listeners are told. -/
def dropped (before after : Dialog) : List (Frame Task) :=
  if after.queuedCt = before.queuedCt then [] else [.outside]

namespace Transaction

/-- The transaction has got no final response. -/
def unanswered (t : Transaction) : Bool := t.lastResponse.all fun resp => resp.statusCode < 200

/-- The listeners that have the method. -/
def listening (t : Transaction) (callback : Callback) : List Listener :=
  t.listeners.filter fun listener => callback ∈ listener.methods

/-- The action is recorded when the transaction has terminated. -/
def record (action : Action) (t : Transaction) : Transaction :=
  if t.state = .terminated then { t with afterwards := t.afterwards ++ [action] } else t

/-- This is `belle_sip_channel_queue_message` on the channel of the transaction. -/
def queueMessage (message : Message) (t : Transaction) : Checked Transaction := do
  let _ ← Checked.deref t.channel
  return { t with queued := t.queued ++ [message] }.record (.queueMessage message)

/-- The last response is queued again. -/
def queueLastResponse (t : Transaction) : Checked Transaction := do
  let resp ← Checked.deref t.lastResponse
  t.queueMessage (.response resp)

/-- A new timer is started. -/
def startTimer (timer : Timer) (t : Transaction) : Transaction :=
  { t with timers := timer :: t.timers, sources := timer :: t.sources }

/-- A timer that the transaction points to is stopped and forgotten. -/
def stopTimer (timer : Timer) (t : Transaction) : Transaction :=
  if timer ∈ t.timers then
    { t with
      timers := t.timers.filter fun other => other ≠ timer
      sources := t.sources.filter fun other => other ≠ timer }
  else t

/-- This is the method `on_terminate` of each class. -/
def onTerminate (t : Transaction) : Transaction :=
  { t with timers := [], sources := t.sources.filter fun timer => timer ∉ t.timers, ack := false }

/-- The transaction updates its dialog, if it has one. -/
def updateDialog (asUas : Bool) (t : Transaction) : Part :=
  match t.dialog with
  | none => return (t, [])
  | some dialog => do
      let (after, _) ← dialog.update 0 t.request t.lastResponse (t.state = .terminated) asUas
      return ({ t with dialog := some after }, dropped dialog after)

/-- A dialog that no final response has ended is informed. -/
def informDialog (t : Transaction) : Part :=
  if t.unanswered then t.updateDialog (!t.kind.isClient) else return (t, [])

/-- This is `belle_sip_transaction_terminate`. -/
def terminate (t : Transaction) : Part :=
  if t.state = .terminated then return (t, [])
  else do
    let (t, frames) ← { t with state := .terminated }.informDialog
    return (t, frames ++ [.task .onTerminate, .task .setTransactionTerminated])

/-- This is `belle_sip_provider_set_transaction_terminated`. -/
def setTransactionTerminated (t : Transaction) : Part :=
  let listeners := t.listening .processTransactionTerminated
  return ({ t.onTerminate with announced := t.announced ++ [listeners] },
    [.task (.invoke .processTransactionTerminated listeners), .task .removeTransaction])

/-- One listener after the other is called. -/
def invoke (callback : Callback) (listeners : List Listener) (t : Transaction) : Part :=
  match listeners with
  | [] => return (t, [])
  | listener :: rest =>
      return (t.record (.invoke callback listener.id), [.outside, .task (.invoke callback rest)])

/-- This is `belle_sip_transaction_notify_timeout`. The channel answers whether it is suspect. -/
def notifyTimeout (suspect : Bool) (t : Transaction) : Part :=
  if t.request.method = "REGISTER" then return ({ t with timedOut := t.timedOut || suspect }, [])
  else return (t, [.task (.invokeListeners .processTimeout), .task .terminate])

/-- This is `belle_sip_provider_create_dialog_internal`. -/
def createDialog (t : Transaction) : Transaction × Option (Dialog × Bool) :=
  match Dialog.new (!t.kind.isClient) t.request t.lastResponse with
  | none => (t, none)
  | some dialog => ({ t with dialog := some dialog }, some (dialog, true))

/-- The dialog that a response belongs to, and whether it is that of the transaction. -/
def chooseDialog (resp : Response) (found : Option Dialog) (t : Transaction) :
    Checked (Transaction × Option (Dialog × Bool)) :=
  match t.dialog with
  | some dialog =>
      if 101 ≤ resp.statusCode ∧ resp.statusCode < 300 ∧ t.request.method = "INVITE" ∧
          (dialog.state = .early ∨ dialog.state = .confirmed) then do
        if ← dialog.matchMessage resp.toHeaders false then return (t, some (dialog, true))
        else match found with
          | some other => return (t, some (other, false))
          | none => return t.createDialog
      else return (t, some (dialog, true))
  | none =>
      if 101 ≤ resp.statusCode ∧ resp.statusCode < 300 ∧ Dialog.establishes t.request.method then
        return t.createDialog
      else return (t, none)

/-- The end of `belle_sip_client_transaction_notify_response`. A listener that has not sent the ACK makes
`belle_sip_dialog_check_ack_sent` send a BYE. -/
def reportResponse (inDialog : Bool) (t : Transaction) : List (Frame Task) :=
  .task (.invokeListeners .processResponseEvent) ::
    if inDialog && t.request.method = "INVITE" then [.outside] else []

/-- This is `belle_sip_client_transaction_notify_response`. -/
def notifyResponse (resp : Response) (found : Option Dialog) (t : Transaction) : Part := do
  let (t, chosen) ← { t with lastResponse := some resp }.chooseDialog resp found
  match chosen with
  | none => return (t, t.reportResponse false)
  | some (dialog, own) => do
      let (after, retransmission) ← dialog.update 0 t.request (some resp) (t.state = .terminated) false
      let t := if own then { t with dialog := some after } else t
      if retransmission then return (t, dropped dialog after)
      else return (t, dropped dialog after ++ t.reportResponse true)

/-- This is the case `BELLE_SIP_TRANSACTION_PROCEEDING` of `ict_on_response`. -/
def ictProceed (resp : Response) (found : Option Dialog) (t : Transaction) : Part :=
  if 300 ≤ resp.statusCode then do
    let t ← { t with state := .completed, ack := true }.queueMessage .ack
    let (t, frames) ← t.notifyResponse resp found
    return (t, frames ++ [.task .startTimerD])
  else if 200 ≤ resp.statusCode then
    { t.startTimer .m with state := .accepted }.notifyResponse resp found
  else if 100 ≤ resp.statusCode then t.notifyResponse resp found
  else return (t, [])

/-- This is `ict_on_response`. -/
def ictOnResponse (resp : Response) (found : Option Dialog) (t : Transaction) : Part :=
  match t.state with
  | .calling => { t with state := .proceeding }.ictProceed resp found
  | .proceeding => t.ictProceed resp found
  | .accepted =>
      if 200 ≤ resp.statusCode ∧ resp.statusCode < 300 then t.notifyResponse resp found else return (t, [])
  | .completed =>
      if 300 ≤ resp.statusCode ∧ t.ack then do
        let t ← t.queueMessage .ack
        return (t, [])
      else return (t, [])
  | _ => return (t, [])

/-- This is `nict_set_completed` up to the callbacks. -/
def nictSetCompleted (resp : Response) (found : Option Dialog) (t : Transaction) : Part :=
  if .k ∈ t.timers then .error .fatal
  else do
    let (t, frames) ← { t with state := .completed }.notifyResponse resp found
    return (t, frames ++ [.task .finishCompleted])

/-- The end of `nict_set_completed`. -/
def finishCompleted (t : Transaction) : Part := do
  let channel ← Checked.deref t.channel
  if channel.reliable then return (t, [.task .terminate]) else return (t.startTimer .k, [])

/-- This is `nict_on_response`. -/
def nictOnResponse (resp : Response) (found : Option Dialog) (t : Transaction) : Part :=
  match t.state with
  | .trying =>
      if resp.statusCode < 200 then { t with state := .proceeding }.notifyResponse resp found
      else t.nictSetCompleted resp found
  | .proceeding => if 200 ≤ resp.statusCode then t.nictSetCompleted resp found else return (t, [])
  | _ => return (t, [])

/-- The method `on_response` of a client transaction. -/
def onResponse (resp : Response) (found : Option Dialog) (t : Transaction) : Part :=
  match t.kind with
  | .ict => t.ictOnResponse resp found
  | .nict => t.nictOnResponse resp found
  | _ => return (t, [])

/-- This is `ict_send_request`. -/
def ictSendRequest (t : Transaction) : Part := do
  let channel ← Checked.deref t.channel
  let calling := { t with state := .calling }
  let retransmitting := if channel.reliable then calling else calling.startTimer .a
  let t ← (retransmitting.startTimer .b).queueMessage .request
  return (t, [])

/-- This is `nict_send_request`. -/
def nictSendRequest (t : Transaction) : Part := do
  let channel ← Checked.deref t.channel
  let limited := { t with state := .trying }.startTimer .f
  let t ← (if channel.reliable then limited else limited.startTimer .e).queueMessage .request
  return (t, [])

/-- The method `send_request` of a client transaction. -/
def sendRequest (t : Transaction) : Part :=
  match t.kind with
  | .ict => t.ictSendRequest
  | .nict => t.nictSendRequest
  | _ => return (t, [])

/-- The end of `belle_sip_client_transaction_send_request_to`. A channel that is prepared may tell its listeners. -/
def send (outlet : Outlet) (channel : Server.PeerChannel) (t : Transaction) : Part :=
  let t := { t with known := t.known + 1 }
  match outlet with
  | .ready => { t with channel := some channel }.sendRequest
  | .connecting => return ({ t with channel := some channel }, [.outside])
  | _ => return (t, [.task .terminate])

/-- This is `belle_sip_client_transaction_send_request_to`. -/
def sendRequestTo (outlet : Outlet) (channel : Server.PeerChannel) (busy : Bool) (t : Transaction) : Part :=
  if t.state ≠ .init ∨ outlet = .badUris then return (t, [])
  -- the dialog will send the request later
  else if t.request.dialogQueued && busy then return (t, [])
  else do
    let (t, frames) ← t.updateDialog false
    return (t, frames ++ [.task (.send outlet channel)])

/-- This is `on_channel_state_changed` with `BELLE_SIP_CHANNEL_READY`. -/
def onChannelReady (t : Transaction) : Part :=
  if t.state = .init then t.sendRequest else return (t, [])

/-- The states in which an error of the channel is reported. -/
def reportsError (t : Transaction) : Bool :=
  t.state ∉ [TransactionState.completed, .confirmed, .accepted, .terminated]

/-- This is `on_channel_state_changed` with `BELLE_SIP_CHANNEL_DISCONNECTED` or `BELLE_SIP_CHANNEL_ERROR`. -/
def onChannelEnded (t : Transaction) : Part :=
  return (t, (if t.reportsError then [.task (.invokeListeners .processIoError)] else []) ++
    [.task .reportTimeout, .task .terminate])

/-- This is `ist_send_new_response`. -/
def istSendNewResponse (resp : Response) (t : Transaction) : Checked (Transaction × Int) :=
  match t.state with
  | .proceeding => do
      let t ← t.queueMessage (.response resp)
      if 200 ≤ resp.statusCode ∧ resp.statusCode < 300 then
        return ({ t with state := .accepted }.startTimer .l, 0)
      else if 300 ≤ resp.statusCode then do
        let channel ← Checked.deref t.channel
        let completed := { t with state := .completed }
        return ((if channel.reliable then completed else completed.startTimer .g).startTimer .h, 0)
      else return (t, 0)
  | .accepted => return (t, if 200 ≤ resp.statusCode ∧ resp.statusCode < 300 then 0 else -1)
  | _ => return (t, -1)

/-- This is the case `BELLE_SIP_TRANSACTION_PROCEEDING` of `nist_send_new_response`, with `nist_set_completed`. -/
def nistProceed (resp : Response) (t : Transaction) : Checked (Transaction × Int) := do
  let t := if 200 ≤ resp.statusCode then { t.startTimer .j with state := .completed } else t
  let t ← t.queueMessage (.response resp)
  return (t, 0)

/-- This is `nist_send_new_response`. -/
def nistSendNewResponse (resp : Response) (t : Transaction) : Checked (Transaction × Int) :=
  match t.state with
  | .trying =>
      if resp.statusCode < 200 then do
        let t ← { t with state := .proceeding }.queueMessage (.response resp)
        return (t, 0)
      else t.nistProceed resp
  | .proceeding => t.nistProceed resp
  | .completed => return (t, -1)
  | _ => return (t, 0)

/-- The method `send_new_response` of a server transaction. -/
def sendNewResponse (resp : Response) (t : Transaction) : Checked (Transaction × Int) :=
  match t.kind with
  | .ist => t.istSendNewResponse resp
  | .nist => t.nistSendNewResponse resp
  | _ => return (t, -1)

/-- The headers that `belle_sip_server_transaction_send_response` adds to a response. -/
def complete (resp : Response) (t : Transaction) : Checked Response :=
  if resp.statusCode = 100 then return resp
  else do
    let header ← Checked.deref resp.toHeader
    let tagged := if header.tag = none then { resp with toHeader := some { header with tag := some t.toTag } } else resp
    if t.dialog.isSome ∧ 100 < resp.statusCode ∧ resp.statusCode < 300 then
      return Server.fillForDialog tagged t.request
    else return tagged

/-- The end of `belle_sip_server_transaction_send_response`, once there is a channel. -/
def sendOnChannel (resp : Response) (t : Transaction) : Part := do
  let resp ← t.complete resp
  let (t, ret) ← t.sendNewResponse resp
  (if ret = 0 then { t with lastResponse := some resp } else t).updateDialog true

/-- This is `belle_sip_server_transaction_send_response` with the channel that the provider has for the response. -/
def sendResponse (resp : Response) (channel : Option Server.PeerChannel) (t : Transaction) : Part :=
  match t.lastResponse, channel with
  | some _, _ => t.sendOnChannel resp
  -- no channel available for sending response
  | none, none => return ({ t with channel := none }, [])
  | none, some channel => { t with channel := some channel }.sendOnChannel resp

/-- This is `belle_sip_ist_process_ack`; the second component says whether the ACK is to be reported. -/
def processAck (t : Transaction) : Checked (Transaction × List (Frame Task) × Bool) :=
  match t.state with
  | .completed => do
      let channel ← Checked.deref t.channel
      let confirmed := { t.stopTimer .g with state := .confirmed }
      if channel.reliable then return (confirmed, [.task .terminate], false)
      else return (confirmed.startTimer .i, [], false)
  | .accepted => return (t, [], true)
  | _ => return (t, [], false)

/-- An ACK is reported when the dialog has waited for it. -/
def reportAck (req : Request) (t : Transaction) : Part :=
  match t.dialog with
  | none => return (t, [])
  | some dialog => do
      let (after, recognised) ← dialog.handleAck req
      return ({ t with dialog := some after },
        if recognised then [.task (.invokeListeners .processRequestEvent)] else [])

/-- This is the method `on_request_retransmission` of a server transaction. -/
def onRequestRetransmission (t : Transaction) : Part :=
  match t.state with
  | .proceeding | .completed => do
      let t ← t.queueLastResponse
      return (t, [])
  | _ => return (t, [])

/-- This is `belle_sip_server_transaction_on_request`. -/
def onRequest (req : Request) (t : Transaction) : Part :=
  if req.method = "ACK" then
    match t.kind with
    | .ist => do
        let (t, frames, reported) ← t.processAck
        if reported then t.reportAck req else return (t, frames)
    | _ => return (t, [])
  else if req.method = "CANCEL" then return (t, [.task (.invokeListeners .processRequestEvent)])
  else t.onRequestRetransmission

/-- The callback of a timer is done, and the main loop removes the source when its result is `BELLE_SIP_STOP`. -/
def stop (timer : Timer) (part : Part) : Part := do
  let (t, frames) ← part
  return (t, frames ++ [.task (.stopSource timer)])

/-- The request is queued again by a timer that goes on. -/
def retransmit (t : Transaction) : Part := do
  let t ← t.queueMessage .request
  return (t, [])

/-- The callbacks `ict_on_timer_A` to `nist_on_timer_J`. -/
def onTimer (timer : Timer) (suspect : Bool) (t : Transaction) : Part :=
  match timer with
  | .a => if t.state = .calling then t.retransmit else return (t, [])
  | .b => stop .b (if t.state = .calling then t.notifyTimeout suspect else return (t, []))
  | .d => stop .d (if t.state = .completed then return (t, [.task .terminate]) else return (t, []))
  | .m => stop .m (if t.state = .accepted then return (t, [.task .terminate]) else return (t, []))
  | .e => if t.state = .trying ∨ t.state = .proceeding then t.retransmit else stop .e (return (t, []))
  | .f => stop .f (if t.state = .trying ∨ t.state = .proceeding then t.notifyTimeout suspect else return (t, []))
  | .g =>
      if t.state = .completed then do
        let t ← t.queueLastResponse
        return (t, [])
      else stop .g (return (t, []))
  | .h => stop .h (if t.state = .completed then return (t, [.task .terminate]) else return (t, []))
  | .k => stop .k (return (t, [.task .terminate]))
  | .i => stop .i (return (t, [.task .terminate]))
  | .l => stop .l (return (t, [.task .terminate]))
  | .j => stop .j (return (t, [.task .terminate]))

def enter (call : Call) (t : Transaction) : Part :=
  match call with
  | .terminate => return (t, [.task .terminate])
  | .sendRequest outlet channel busy =>
      if t.kind.isClient then t.sendRequestTo outlet channel busy else return (t, [])
  | .sendResponse resp channel => if t.kind.isClient then return (t, []) else t.sendResponse resp channel
  -- only a client transaction listens to its channel
  | .channelReady => if t.kind.isClient ∧ t.channel.isSome then t.onChannelReady else return (t, [])
  | .channelEnded => if t.kind.isClient ∧ t.channel.isSome then t.onChannelEnded else return (t, [])
  | .setDialog dialog => return ({ t with dialog := dialog }, [])
  | .setListeners listeners => return ({ t with listeners := listeners }, [])

/-- A timer fires while it is a source, and the provider finds the transaction while it is in its list. -/
def begin (event : Event) (t : Transaction) : Part :=
  match event with
  | .timer timer suspect => if timer ∈ t.sources then t.onTimer timer suspect else return (t, [])
  | .response resp found => if t.kind.isClient ∧ 0 < t.known then t.onResponse resp found else return (t, [])
  | .request req => if !t.kind.isClient ∧ 0 < t.known then t.onRequest req else return (t, [])

def perform (task : Task) (t : Transaction) : Part :=
  match task with
  | .enter call => t.enter call
  | .begin event => t.begin event
  | .terminate => t.terminate
  | .onTerminate => return (t.onTerminate, [])
  | .setTransactionTerminated => t.setTransactionTerminated
  | .removeTransaction => return ({ t with known := t.known - 1 }, [])
  | .invokeListeners callback => return (t, [.task (.invoke callback (t.listening callback))])
  | .invoke callback listeners => t.invoke callback listeners
  | .send outlet channel => t.send outlet channel
  | .startTimerD => return (t.startTimer .d, [])
  | .finishCompleted => t.finishCompleted
  | .reportTimeout => return (t, if t.timedOut then [.task (.invokeListeners .processTimeout)] else [])
  | .stopSource timer => return ({ t with sources := t.sources.filter fun other => other ≠ timer }, [])

/-- This is `belle_sip_ist_new`, or the constructor of another class. -/
def new (kind : Kind) (request : Request) (toTag : String) (channel : Option Server.PeerChannel) :
    Checked Transaction :=
  match kind with
  | .ict | .nict => return { kind := kind, request := request }
  | .ist => do
      let t : Transaction := { kind := .ist, request := request, toTag := toTag, state := .proceeding }
      let (t, _) ← t.sendResponse (Response.createFromRequest request 100) channel
      return { t with known := 1 }
  | .nist => return { kind := .nist, request := request, toTag := toTag, state := .trying, known := 1 }

end Transaction

/-- The transaction as a program that outside code enters again. -/
def program : Program Transaction Task Call Event where
  perform := Transaction.perform
  enter := .enter
  begin := .begin

end Callbacks

end BelleSip
