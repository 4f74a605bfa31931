import BelleSip.Sip.Message

/-
This file defines the dialog record and the functions that establish, update, and delete a dialog.
-/

namespace BelleSip

open Foundation

/-- The values of `belle_sip_dialog_state_t`. -/
inductive DialogState where
  | null
  | early
  | confirmed
  | terminated
deriving DecidableEq, Repr

/-- A transaction is named by its place among those that the application and the provider create. -/
abbrev TransactionId := Nat

structure Dialog where
  isServer : Bool
  isSecure : Bool := false
  state : DialogState := .null
  previousState : DialogState := .null
  callId : Option String := none
  localParty : Option TaggedAddress := none
  remoteParty : Option TaggedAddress := none
  localTag : Option String := none
  remoteTag : Option String := none
  remoteTarget : Option HeaderAddress := none
  routeSet : List HeaderAddress := []
  localCseq : Nat := 0
  remoteCseq : Nat := 0
  needsAck : Bool := false
  terminateOnBye : Bool := true
  lastOutInvite : Option Request := none
  lastOutAck : Option Request := none
  last200Ok : Option Response := none
  /-- The retransmission timer of the 200 Ok is on the main loop. -/
  timer200Ok : Bool := false
  /-- The timer that gives up waiting for the ACK is on the main loop. -/
  timer200OkEnd : Bool := false
  lastTransaction : Option TransactionId := none
  queuedCt : List TransactionId := []
  /-- The calls of `_belle_sip_dialog_process_queue` that the main loop has still to make. -/
  postponed : Nat := 0
deriving DecidableEq, Repr

namespace Dialog

/-- This is `set_state`. -/
def setState (dialog : Dialog) (state : DialogState) : Dialog :=
  { dialog with previousState := dialog.state, state := state }

/-- This is `set_to_tag`. -/
def setToTag (dialog : Dialog) (toHeader : Option TaggedAddress) : Checked Dialog := do
  let toHeader ← Checked.deref toHeader
  if dialog.isServer then return { dialog with localTag := dialog.localTag.or toHeader.tag }
  else return { dialog with remoteTag := dialog.remoteTag.or toHeader.tag }

/-- The value of `is_secure` after the initialisation as UAS or UAC. -/
def checkSecure (dialog : Dialog) (via : HeaderVia) (requri : Option Uri) : Checked Bool :=
  if strcasecmp via.protocol "TLS" then do
    let requri ← Checked.deref requri
    return dialog.isSecure || requri.secure
  else return dialog.isSecure

@[simp] theorem checkSecure_eq (dialog : Dialog) (via : HeaderVia) (requri : Option Uri) :
    dialog.checkSecure via requri = .ok dialog.isSecure := by
  unfold checkSecure
  rw [via.protocol_not_tls]
  rfl

/-- This is `belle_sip_dialog_init_as_uas`; its error result is none. -/
def initAsUas (dialog : Dialog) (req : Request) (resp : Response) : Checked (Option Dialog) :=
  match req.contact, resp.toHeader, req.cseq, req.vias.head? with
  | some contact, some toHeader, some cseq, some via => do
      let isSecure ← dialog.checkSecure via req.uri
      return some { dialog with
        isSecure := isSecure
        routeSet := req.recordRoutes
        remoteTarget := some contact
        remoteCseq := cseq.seqNumber
        localParty := some toHeader }
  | _, _, _, _ => return none

/-- This is `set_last_out_invite`. -/
def setLastOutInvite (dialog : Dialog) (req : Request) : Dialog :=
  { dialog with lastOutInvite := some req }

/-- This is `belle_sip_dialog_init_as_uac`; its error result is none. -/
def initAsUac (dialog : Dialog) (req : Request) (resp : Response) : Checked (Option Dialog) :=
  match resp.toHeader, req.cseq, req.vias.head? with
  | some toHeader, some cseq, some via => do
      let isSecure ← dialog.checkSecure via req.uri
      let dialog := { dialog with
        isSecure := isSecure
        routeSet := resp.recordRoutes.reverse
        -- the Contact may come with a later response
        remoteTarget := resp.contact.or dialog.remoteTarget
        localCseq := cseq.seqNumber
        remoteParty := some toHeader }
      return some (if req.method = "INVITE" then dialog.setLastOutInvite req else dialog)
  | _, _, _ => return none

/-- This is `belle_sip_dialog_establish`; the second component says whether it succeeded. -/
def establish (dialog : Dialog) (req : Request) (resp : Response) : Checked (Dialog × Bool) :=
  if dialog.state ≠ .null then return (dialog, false)
  else match req.callId with
    | none => return (dialog, false)
    | some callId => do
        let dialog := { dialog with callId := some callId }
        match ← if dialog.isServer then dialog.initAsUas req resp else dialog.initAsUac req resp with
        | none => return (dialog, false)
        | some dialog => return (← dialog.setToTag resp.toHeader, true)

/-- This is `belle_sip_dialog_init_200Ok_retrans`. -/
def init200OkRetrans (dialog : Dialog) (resp : Response) : Dialog :=
  { dialog with timer200Ok := true, timer200OkEnd := true, last200Ok := some resp }

/-- This is `belle_sip_dialog_stop_200Ok_retrans`. -/
def stop200OkRetrans (dialog : Dialog) : Dialog :=
  { dialog with timer200Ok := false, timer200OkEnd := false, last200Ok := none }

/-- This is `belle_sip_dialog_establish_full`; the second component says whether it succeeded. -/
def establishFull (dialog : Dialog) (req : Request) (resp : Response) : Checked (Dialog × Bool) := do
  let dialog := if req.method = "INVITE" then { dialog with needsAck := true } else dialog
  if dialog.isServer then
    let dialog := if req.method = "INVITE" then dialog.init200OkRetrans resp else dialog
    return ((← dialog.setToTag resp.toHeader).setState .confirmed, true)
  else match resp.contact.or dialog.remoteTarget with
    | none => return (dialog, false)
    | some target =>
        let dialog := { dialog with remoteTarget := some target }
        return ((← dialog.setToTag resp.toHeader).setState .confirmed, true)

/-- This is `belle_sip_dialog_handle_200Ok`: true when the last ACK is sent again. -/
def handle200Ok (dialog : Dialog) (resp : Response) : Checked Bool :=
  match dialog.lastOutAck, resp.cseq with
  | some ack, some cseq => do
      let ackCseq ← Checked.deref ack.cseq
      return cseq.seqNumber = ackCseq.seqNumber
  | _, _ => return false

/-- Only a UAC answers a 200 Ok with its last ACK. -/
def retransmits (dialog : Dialog) (resp : Response) (asUas : Bool) : Checked Bool :=
  if asUas then return false else dialog.handle200Ok resp

/-- What an update asks of the rest of `belle_sip_dialog_update`. -/
inductive Verdict where
  | keep
  | delete
  | retransmission
deriving DecidableEq, Repr

/-- The methods whose responses create a dialog. -/
def establishes (method : String) : Bool := method = "INVITE" || method = "SUBSCRIBE"

/-- The case `BELLE_SIP_DIALOG_EARLY` of the update. -/
def updateEarly (dialog : Dialog) (req : Request) (resp : Response) : Checked (Dialog × Verdict) :=
  if establishes req.method ∧ 300 ≤ resp.statusCode then return (dialog, .delete)
  else if establishes req.method ∧ 200 ≤ resp.statusCode then do
    return ((← dialog.establishFull req resp).1, .keep)
  else return (dialog, .keep)

/-- The case `BELLE_SIP_DIALOG_NULL` of the update, which falls through to the next one. -/
def updateNull (dialog : Dialog) (req : Request) (resp : Response) : Checked (Dialog × Verdict) :=
  if establishes req.method ∧ 100 < resp.statusCode ∧ resp.statusCode < 300 then do
    -- the result of the establishment is not read
    let dialog := (← dialog.establish req resp).1
    if resp.statusCode < 200 then return (dialog.setState .early, .keep)
    else dialog.updateEarly req resp
  else dialog.updateEarly req resp

/-- A Contact in a response to a re-INVITE refreshes the remote target, whose reference is dropped. -/
def refreshTarget (dialog : Dialog) : Option HeaderAddress → Checked Dialog
  | none => return dialog
  | some contact => do
      let _ ← Checked.deref dialog.remoteTarget
      return { dialog with remoteTarget := some contact }

/-- The case `BELLE_SIP_DIALOG_CONFIRMED` of the update with a response to an INVITE. -/
def updateReinvite (dialog : Dialog) (req : Request) (resp : Response) (asUas : Bool) :
    Checked (Dialog × Verdict) :=
  if 200 ≤ resp.statusCode ∧ resp.statusCode < 300 then do
    let dialog := if asUas then dialog else dialog.setLastOutInvite req
    let dialog ← dialog.refreshTarget (if asUas then req.contact else resp.contact)
    let retransmission ← dialog.retransmits resp asUas
    if retransmission then return (dialog, .retransmission)
    else return ({ dialog with needsAck := true }, .keep)
  else if 300 ≤ resp.statusCode then return ({ dialog with needsAck := false }, .keep)
  else return (dialog, .keep)

/-- The case `BELLE_SIP_DIALOG_CONFIRMED` of the update with a BYE that has ended. -/
def updateBye (dialog : Dialog) : Dialog × Verdict :=
  ({ dialog with needsAck := false }, if dialog.terminateOnBye then .delete else .keep)

/-- The switch of the update; a transaction without response has the code 0. -/
def updateState (dialog : Dialog) (req : Request) (resp : Option Response) (terminated asUas : Bool) :
    Checked (Dialog × Verdict) :=
  match dialog.state, resp with
  | .null, some resp => dialog.updateNull req resp
  | .early, some resp => dialog.updateEarly req resp
  | .confirmed, some resp =>
      if req.method = "INVITE" then dialog.updateReinvite req resp asUas
      else if req.method = "BYE" ∧ 200 ≤ resp.statusCode then return dialog.updateBye
      else return (dialog, .keep)
  | .confirmed, none =>
      if req.method = "BYE" ∧ terminated then return dialog.updateBye else return (dialog, .keep)
  | _, _ => return (dialog, .keep)

/-- This is `belle_sip_dialog_process_queue`, which postpones the work. -/
def processQueue (dialog : Dialog) : Dialog := { dialog with postponed := dialog.postponed + 1 }

/-- This is `belle_sip_dialog_delete`; the transactions of the queue are terminated by its callers. -/
def delete (dialog : Dialog) : Dialog :=
  { dialog.stop200OkRetrans.setState .terminated with queuedCt := [] }

/-- The transaction that updates a dialog becomes its last one; a server transaction brings its CSeq. -/
def touch (dialog : Dialog) (transaction : TransactionId) (req : Request) (asUas : Bool) :
    Checked Dialog := do
  let dialog := { dialog with lastTransaction := some transaction }
  if asUas then
    let cseq ← Checked.deref req.cseq
    return { dialog with remoteCseq := cseq.seqNumber }
  else return dialog

/-- The end of the update: true tells the caller that the response is a retransmission. -/
def settle (dialog : Dialog) : Verdict → Dialog × Bool
  | .keep => (dialog.processQueue, false)
  | .delete => (dialog.delete, false)
  | .retransmission => (dialog, true)

/-- This is `belle_sip_dialog_update`. -/
def update (dialog : Dialog) (transaction : TransactionId) (req : Request) (resp : Option Response)
    (terminated asUas : Bool) : Checked (Dialog × Bool) := do
  let dialog ← dialog.touch transaction req asUas
  let (dialog, verdict) ← dialog.updateState req resp terminated asUas
  return dialog.settle verdict

/-- This is `belle_sip_dialog_new` on a client or server transaction; its error result is none. -/
def new (isServer : Bool) (request : Request) (lastResponse : Option Response) : Option Dialog := do
  let fromHeader ← request.fromHeader
  let fromTag ← fromHeader.tag
  let toTag ← match lastResponse with
    | none => some none
    | some resp => resp.toHeader.map (·.tag)
  if isServer then
    return { isServer := true, remoteTag := some fromTag, localTag := toTag, remoteParty := some fromHeader }
  else
    return { isServer := false, localTag := some fromTag, remoteTag := toTag, localParty := some fromHeader,
             routeSet := request.routes }

/-- This is `create_request`.

A SIP URI is read for its headers, and the Call-ID and both parties for their copies. -/
def buildRequest (dialog : Dialog) (method : String) (full : Bool) : Checked Request := do
  let remoteTarget ← Checked.deref dialog.remoteTarget
  let uri ← Checked.deref remoteTarget.uri
  let callId ← Checked.deref dialog.callId
  let localParty ← Checked.deref dialog.localParty
  let remoteParty ← Checked.deref dialog.remoteParty
  return {
    method := method
    uri := some uri
    callId := some callId
    cseq := some { seqNumber := dialog.localCseq, method := method }
    fromHeader := some localParty
    toHeader := some remoteParty
    vias := [{}]
    maxForwards := true
    routes := if full then dialog.routeSet else [] }

/-- This is `belle_sip_dialog_update_local_cseq`, on an `unsigned int`. -/
def updateLocalCseq (dialog : Dialog) (method : String) : Dialog :=
  let localCseq := if dialog.localCseq = 0 then 110 else dialog.localCseq
  { dialog with localCseq := if method = "ACK" then localCseq else (localCseq + 1) % UInt32.size }

/-- The test at the entry of `belle_sip_dialog_create_request`.

The argument `pending` is `belle_sip_dialog_request_pending`. -/
def mayCreate (dialog : Dialog) (pending : Bool) (method : String) : Bool :=
  (dialog.state = .confirmed || dialog.state = .early) &&
    !(method ≠ "BYE" && pending && dialog.state ≠ .early && method ≠ "UPDATE")

/-- This is `belle_sip_dialog_create_request`; its error result is none. -/
def createRequest (dialog : Dialog) (pending : Bool) (method : String) :
    Checked (Dialog × Option Request) :=
  if dialog.mayCreate pending method then do
    let dialog := dialog.updateLocalCseq method
    let req ← dialog.buildRequest method true
    return (dialog, some req)
  else return (dialog, none)

/-- This is `belle_sip_dialog_create_queued_request`; its error result is none. -/
def createQueuedRequest (dialog : Dialog) (method : String) : Checked (Option Request) :=
  if establishes method then return none
  else do
    let req ← dialog.buildRequest method false
    return some { req with dialogQueued := true }

/-- This is `belle_sip_dialog_create_ack`; its error result is none. -/
def createAck (dialog : Dialog) (cseq : Nat) : Checked (Option Request) :=
  match dialog.lastOutInvite with
  | none => return none
  | some invite => do
      let inviteCseq ← Checked.deref invite.cseq
      if inviteCseq.seqNumber ≠ cseq then return none
      else
        let ack ← dialog.buildRequest "ACK" true
        return some ack

/-- This is `belle_sip_dialog_send_ack`. -/
def sendAck (dialog : Dialog) (request : Request) : Dialog :=
  if dialog.needsAck then
    { dialog with needsAck := false, lastOutAck := some request }.processQueue
  else dialog

/-- This is `belle_sip_dialog_handle_ack`; the second component says whether the ACK is recognised. -/
def handleAck (dialog : Dialog) (ack : Request) : Checked (Dialog × Bool) :=
  if dialog.needsAck then do
    let cseq ← Checked.deref ack.cseq
    if cseq.seqNumber = dialog.remoteCseq then
      return ({ dialog with needsAck := false }.stop200OkRetrans.processQueue, true)
    else return (dialog, false)
  else return (dialog, false)

/-- This is `belle_sip_dialog_check_ack_sent`: the BYE that it sends, if any, is never null. -/
def checkAckSent (dialog : Dialog) (pending : Bool) : Checked (Dialog × Option Request) :=
  if dialog.needsAck then do
    let (dialog, bye) ← dialog.createRequest pending "BYE"
    let bye ← Checked.deref bye
    return (dialog, some bye)
  else return (dialog, none)

/-- This is `dialog_on_200Ok_end`, which sends the BYE that it returns. -/
def on200OkEnd (dialog : Dialog) (pending : Bool) : Checked (Dialog × Request) := do
  let dialog := { dialog.stop200OkRetrans with state := .confirmed }
  let (dialog, bye) ← dialog.createRequest pending "BYE"
  let bye ← Checked.deref bye
  return (dialog, bye)

/-- This is `belle_sip_dialog_update_request`. -/
def updateRequest (dialog : Dialog) (req : Request) : Checked (Dialog × Request) := do
  let cseq ← Checked.deref req.cseq
  let dialog := dialog.updateLocalCseq req.method
  let remoteTarget ← Checked.deref dialog.remoteTarget
  return (dialog, { req with
    routes := req.routes ++ dialog.routeSet
    uri := remoteTarget.uri
    cseq := some { cseq with seqNumber := dialog.localCseq } })

/-- This is `_belle_sip_dialog_match`. -/
def matchTags (dialog : Dialog) (callId localTag remoteTag : Option String) : Checked Bool :=
  if dialog.state = .null then .error .fatal
  else do
    if !(← Checked.sameText dialog.callId callId) then return false
    else if !(← Checked.sameText dialog.localTag localTag) then return false
    -- a 180 without tag leaves the remote tag null
    else if dialog.remoteTag.isNone then return false
    else Checked.sameText dialog.remoteTag remoteTag

/-- This is `belle_sip_dialog_match`. -/
def matchMessage (dialog : Dialog) (message : Headers) (asUas : Bool) : Checked Bool :=
  match message.callId, message.fromHeader, message.toHeader with
  | some callId, some fromHeader, some toHeader =>
      dialog.matchTags (some callId) (if asUas then toHeader.tag else fromHeader.tag)
        (if asUas then fromHeader.tag else toHeader.tag)
  | _, _, _ => return false

end Dialog

end BelleSip
