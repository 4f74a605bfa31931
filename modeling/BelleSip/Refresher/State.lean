import BelleSip.Foundation.Checked
import BelleSip.Transaction.State

/-
This file defines the refresher of a registration or subscription and the events that it handles.
-/

namespace BelleSip

open Foundation

/-- This is `belle_sip_refresher_state_t`. -/
inductive RefresherState where
  | started
  | stopped
deriving DecidableEq, Repr

/-- This is `timer_purpose_t`. -/
inductive TimerPurpose where
  | normalRefresh
  | retry
deriving DecidableEq, Repr

/-- A timeout source that calls `timer_cb`. -/
structure TimeoutSource where
  id : Nat
  delay : Int
deriving DecidableEq, Repr

/-- The methods that the refresher tells apart. -/
inductive RefreshMethod where
  | register
  | subscribe
  | other
deriving DecidableEq, Repr

/-- What the refresher reads of the request of its transaction: the `Expires` header, and the parameter `expires` of
the first contact. A contact without the parameter has −1 there, and a request without a contact nothing. -/
structure RefreshRequest where
  method : RefreshMethod
  expires : Option Int := none
  contactExpires : Option Int := none
deriving DecidableEq, Repr

/-- This is `belle_sip_refresher_t`, with the state and the request of its transaction, the sources that the main loop
holds for it, the status codes with which its listener has been called, and the states in which it has left its
transactions when it sent another request. -/
structure Refresher where
  listener : Bool := false
  timer : Option Nat := none
  sources : List TimeoutSource := []
  nextSource : Nat := 0
  transaction : TransactionState
  request : RefreshRequest
  targetExpires : Int := 0
  obtainedExpires : Int := 0
  state : RefresherState := .stopped
  retryAfter : Int := 60000
  authFailures : Nat := 0
  onIoError : Bool := false
  numberOfRetry : Nat := 0
  timerPurpose : TimerPurpose := .normalRefresh
  manual : Bool := false
  notified : List Nat := []
  left : List TransactionState := []
deriving Repr

/-- What a transaction finds in its dialog: no dialog, a confirmed one, perhaps with a pending request, or another. -/
inductive DialogBinding where
  | none
  | confirmed (requestPending : Bool)
  | unconfirmed
deriving DecidableEq, Repr

/-- What a refresh finds around it: its dialog, whether an authentication is not filled, and the way out. -/
structure Surroundings where
  dialog : DialogBinding := .none
  unfilledAuthInfo : Bool := false
  outlet : Outlet
deriving DecidableEq, Repr

/-- The parameter `expires` of the matching contact of a response, which is −1 when it is absent, and the `Expires`
header of the response. -/
structure ResponseExpires where
  matchingContact : Option Int := none
  expires : Option Int := none
deriving DecidableEq, Repr

/-- What the refresher reads of a response: also whether the contact of the request is accurate for the channel,
whether there is a contact with a URI, and the number in the header `Min-Expires`. -/
structure RefreshAnswer where
  statusCode : Nat
  expires : ResponseExpires := {}
  contactAccurate : Bool := true
  redirection : Bool := false
  minExpires : Option Int := none
deriving DecidableEq, Repr

namespace Refresher

def notify (refresher : Refresher) (statusCode : Nat) : Refresher :=
  if refresher.listener then { refresher with notified := refresher.notified ++ [statusCode] } else refresher

/-- This is `cancel_retry`. -/
def cancelRetry (refresher : Refresher) : Refresher :=
  match refresher.timer with
  | some id =>
      { refresher with timer := none, sources := refresher.sources.filter fun source => source.id ≠ id }
  | none => refresher

/-- This is `schedule_timer_at`. -/
def scheduleTimerAt (refresher : Refresher) (delay : Int) (purpose : TimerPurpose) : Refresher :=
  let cancelled := { refresher with timerPurpose := purpose }.cancelRetry
  { cancelled with
    timer := some cancelled.nextSource
    sources := cancelled.sources ++ [{ id := cancelled.nextSource, delay := delay }]
    nextSource := cancelled.nextSource + 1 }

/-- This is `retry_later`. -/
def retryLater (refresher : Refresher) : Refresher :=
  { refresher with numberOfRetry := refresher.numberOfRetry + 1 }.scheduleTimerAt refresher.retryAfter .retry

/-- This is `retry_later_on_io_error`. -/
def retryLaterOnIoError (refresher : Refresher) : Refresher :=
  if refresher.numberOfRetry < 1 then
    { refresher.scheduleTimerAt 500 .retry with numberOfRetry := refresher.numberOfRetry + 1 }
  else refresher.retryLater

/-- This is `schedule_timer`. -/
def scheduleTimer (refresher : Refresher) : Refresher :=
  refresher.scheduleTimerAt ((refresher.obtainedExpires * 900).bmod UInt32.size) .normalRefresh

/-- This is `belle_sip_refresher_stop_internal`. -/
def stopInternal (refresher : Refresher) (cancelPendingTransaction : Bool) : Refresher :=
  let cancelled := refresher.cancelRetry
  { cancelled with
    transaction :=
      if cancelPendingTransaction && cancelled.transaction.isTransient then .terminated else cancelled.transaction
    state := .stopped }

/-- This is `get_matching_contact`, which gives the parameter `expires` of the contact that it finds. It clones the
contact of the request without a look at whether there is one. -/
def getMatchingContact (request : RefreshRequest) (response : Option ResponseExpires) : Checked (Option Int) :=
  match response with
  | none => .ok none
  | some response => do
      let _unfixedLocalContact ← Checked.deref request.contactExpires
      return response.matchingContact

/-- What `set_expires_from_trans` makes of the matching contact and the `Expires` header. -/
def takeExpires (refresher : Refresher) (matchingContact expires : Option Int) : Refresher :=
  let request := refresher.request
  if request.method = .register ∨ request.expires ≠ none then
    let target :=
      match request.expires, request.contactExpires with
      | some expires, _ => expires
      | none, some contactExpires => if contactExpires ≠ -1 then contactExpires else refresher.targetExpires
      | none, none => refresher.targetExpires
    let obtained := if matchingContact.getD (-1) = -1 then expires.getD (-1) else matchingContact.getD (-1)
    { refresher with
      targetExpires := target
      -- a server that grants nothing is taken to grant the target
      obtainedExpires := if obtained = -1 ∨ (0 < target ∧ obtained = 0) then target else obtained }
  else { refresher with obtainedExpires := -1 }

/-- This is `set_expires_from_trans`, with the last response of the transaction if there is one. -/
def setExpiresFromTrans (refresher : Refresher) (response : Option ResponseExpires) : Checked Refresher := do
  let matchingContact ←
    if refresher.request.method = .register then getMatchingContact refresher.request response else .ok none
  return refresher.takeExpires matchingContact (response.bind ResponseExpires.expires)

/-- What `belle_sip_client_transaction_send_request_to` makes of a new transaction, and whether it returns 0. -/
def sendRequestTo : Outlet → TransactionState × Bool
  | .badUris => (.init, false)
  | .noChannel => (.terminated, false)
  | .connecting => (.init, true)
  | .ready => (.trying, true)

/-- In a very early state the transaction is terminated before another request is sent. -/
def leave : TransactionState → TransactionState
  | .init | .calling | .trying => .terminated
  | state => state

/-- The request of the next transaction: the expiry is written where there is a place for it, and a subscription in a
dialog has one. -/
def nextRequest (refresher : Refresher) (dialog : DialogBinding) : RefreshRequest :=
  let request := refresher.request
  { request with
    expires :=
      if request.expires ≠ none ∨ (dialog ≠ .none ∧ request.method = .subscribe) then some refresher.targetExpires
      else none
    contactExpires :=
      request.contactExpires.map fun expires => if 0 ≤ expires then refresher.targetExpires else expires }

end Refresher

/-- A request can be created for the transaction or in its dialog. -/
def DialogBinding.permits : DialogBinding → Bool
  | .none => true
  | .confirmed requestPending => !requestPending
  | .unconfirmed => false

namespace Refresher

/-- This is `belle_sip_refresher_refresh_internal`, which returns whether the refresh was sent. -/
def refreshInternal (refresher : Refresher) (expires : Int) (authMandatory : Bool) (around : Surroundings) :
    Refresher × Bool :=
  let targeted := if 0 ≤ expires then { refresher with targetExpires := expires } else refresher
  if !around.dialog.permits || (authMandatory && around.unfilledAuthInfo) then (targeted, false)
  else
    let sent := sendRequestTo around.outlet
    let renewed := { targeted with
      onIoError := false
      request := targeted.nextRequest around.dialog
      transaction := sent.1
      left := if sent.2 then targeted.left ++ [leave targeted.transaction] else targeted.left }
    (if sent.2 && expires = 0 then renewed.stopInternal false else renewed, sent.2)

/-- This is `belle_sip_refresher_refresh`. -/
def refresh (refresher : Refresher) (expires : Int) (around : Surroundings) : Refresher × Bool :=
  { refresher.cancelRetry with authFailures := 0 }.refreshInternal expires false around

/-- The branch of `process_response_event` for a success, once the expiries have been taken. -/
def processSuccess (updated : Refresher) (answer : RefreshAnswer) (around : Surroundings) : Refresher :=
  let current := if updated.targetExpires ≤ 0 then updated.stopInternal true else updated
  if current.state = .started then
    if answer.contactAccurate then current.scheduleTimer.notify answer.statusCode
    else (current.refresh current.targetExpires around).1
  else current.notify answer.statusCode

/-- A retry is scheduled when there is an expiry to keep. -/
def retryIfTarget (refresher : Refresher) : Refresher :=
  if 0 < refresher.targetExpires then refresher.retryLater else refresher

/-- The branch of `process_response_event` for the other responses, the provisional ones among them. -/
def processFailure (refresher : Refresher) (answer : RefreshAnswer) (around : Surroundings) : Refresher :=
  let code := answer.statusCode
  if code = 301 ∨ code = 302 then
    if answer.redirection then
      let refreshed := refresher.refreshInternal refresher.targetExpires true around
      if refreshed.2 then refreshed.1 else refreshed.1.notify code
    else refresher.notify code
  else if code = 401 ∨ code = 407 then
    let failed := { refresher with authFailures := refresher.authFailures + 1 }
    if 1 < failed.authFailures then { failed.retryIfTarget with authFailures := 0 }.notify code
    else
      let refreshed := failed.refreshInternal failed.targetExpires true around
      if refreshed.2 then refreshed.1 else refreshed.1.notify code
  else if code = 423 then
    match answer.minExpires with
    | some newExpires =>
        if 0 < newExpires ∧ refresher.state = .started then
          ({ refresher with targetExpires := newExpires }.refresh newExpires around).1
        else refresher.notify code
    | none => refresher.notify code
  else if code = 501 ∨ code = 505 then refresher.notify code
  else refresher.retryIfTarget.notify code

/-- This is `process_response_event` for the transaction of the refresher. -/
def processResponseEvent (refresher : Refresher) (answer : RefreshAnswer) (around : Surroundings) :
    Checked Refresher :=
  if 200 ≤ answer.statusCode ∧ answer.statusCode < 300 then do
    let updated ← { refresher with authFailures := 0, numberOfRetry := 0 }.setExpiresFromTrans (some answer.expires)
    return updated.processSuccess answer around
  else .ok (refresher.processFailure answer around)

/-- This is `process_timeout` for the transaction of the refresher. -/
def processTimeout (refresher : Refresher) : Refresher :=
  (if refresher.state = .started then refresher.scheduleTimerAt 2000 .retry else refresher).notify 408

/-- The very early states of a transaction of the refresher that may be stopped. -/
def isEarly (state : TransactionState) : Bool := state = .trying || state = .init

/-- The part of `process_io_error` that both sources share. -/
def reportIoError (refresher : Refresher) : Refresher :=
  (if refresher.state = .started then refresher.retryLaterOnIoError else refresher).notify 503

/-- This is `process_io_error` for the transaction of the refresher. -/
def processTransactionError (refresher : Refresher) : Refresher :=
  if refresher.onIoError then refresher
  else if refresher.state = .stopped && !(isEarly refresher.transaction) then refresher
  else if refresher.targetExpires = 0 && !(isEarly refresher.transaction) then refresher
  else refresher.reportIoError

/-- This is `process_io_error` for a provider. -/
def processProviderError (refresher : Refresher) (channelBroken : Bool) : Refresher :=
  if refresher.onIoError then refresher
  else if refresher.state = .started ∧ refresher.transaction = .terminated ∧ channelBroken = true then
    { refresher.reportIoError with onIoError := true }
  else refresher

/-- This is `timer_cb`. -/
def timerCb (refresher : Refresher) (around : Surroundings) : Refresher :=
  if refresher.timerPurpose = .normalRefresh ∧ refresher.manual = true then refresher.notify 0
  else
    let refreshed := refresher.refresh refresher.targetExpires around
    if refreshed.2 then refreshed.1 else refreshed.1.retryLater

/-- This is `belle_sip_refresher_set_listener`. -/
def setListener (refresher : Refresher) : Refresher := { refresher with listener := true }

/-- This is `belle_sip_refresher_start`. -/
def start (refresher : Refresher) (contactAccurate : Bool) (around : Surroundings) : Refresher :=
  if refresher.state = .started then refresher
  else if 0 < refresher.targetExpires then
    let started := { refresher with state := .started }
    if contactAccurate then started.scheduleTimer else (started.refresh started.targetExpires around).1
  else { refresher with state := .stopped }

/-- This is `belle_sip_refresher_new`, which takes a transient transaction as its own. -/
def create (transaction : TransactionState) (request : RefreshRequest) (response : Option ResponseExpires)
    (contactAccurate : Bool) (around : Surroundings) : Checked Refresher := do
  let created ← { transaction := transaction, request := request : Refresher }.setExpiresFromTrans response
  return if transaction.isTransient then { created with state := .started } else created.start contactAccurate around

end Refresher

/-- What happens around a refresher: a response, a timeout or an I/O error of its transaction, an I/O error of its
provider, one of its timers, an event of another transaction, and the steps that its transaction takes by itself. -/
inductive RefreshEvent where
  | response (answer : RefreshAnswer) (around : Surroundings)
  | timeout
  | transactionError (timedOut : Bool)
  | providerError (channelBroken : Bool)
  | timerExpires (source : TimeoutSource) (around : Surroundings)
  | foreign
  | channelReady
  | terminated
deriving DecidableEq, Repr

namespace Refresher

/-- The transaction waits for a response that has been sent for. -/
def awaits (state : TransactionState) : Bool := state = .trying || state = .proceeding

/-- The transaction tells the refresher about the event, or the main loop does. -/
def handles (refresher : Refresher) : RefreshEvent → Bool
  | .response answer _ =>
      refresher.transaction = .trying || (refresher.transaction = .proceeding && 200 ≤ answer.statusCode)
  | .timeout => awaits refresher.transaction
  | .transactionError timedOut => refresher.transaction.isTransient || timedOut
  | .providerError channelBroken =>
      refresher.onIoError ||
        (refresher.state = .started && refresher.transaction = .terminated && channelBroken)
  | .timerExpires source _ => source ∈ refresher.sources
  | .foreign | .channelReady | .terminated => false

/-- One event, with what a non-INVITE transaction does before and after it tells the refresher. -/
def react (refresher : Refresher) (event : RefreshEvent) : Checked Refresher :=
  match event with
  | .response answer around =>
      if refresher.handles event then
        { refresher with transaction := if answer.statusCode < 200 then .proceeding else .completed }
          |>.processResponseEvent answer around
      else .ok refresher
  | .timeout =>
      .ok (if refresher.handles event then { refresher.processTimeout with transaction := .terminated } else refresher)
  | .transactionError timedOut =>
      let reported := if refresher.transaction.isTransient then refresher.processTransactionError else refresher
      .ok { (if timedOut then reported.processTimeout else reported) with transaction := .terminated }
  | .providerError channelBroken => .ok (refresher.processProviderError channelBroken)
  | .timerExpires source around =>
      if refresher.handles event then
        let called := refresher.timerCb around
        -- the callback stops its source
        .ok { called with sources := called.sources.filter fun other => other.id ≠ source.id }
      else .ok refresher
  | .foreign => .ok refresher
  | .channelReady =>
      .ok (if refresher.transaction = .init then { refresher with transaction := .trying } else refresher)
  | .terminated =>
      .ok (if refresher.transaction = .completed then { refresher with transaction := .terminated } else refresher)

/-- A step of a run, which a program that has stopped does not take. -/
def step (state : Checked Refresher) (event : RefreshEvent) : Checked Refresher := do (← state).react event

end Refresher

end BelleSip
