import BelleSip.Foundation.Machine
import BelleSip.Sip.ReturnHop
import BelleSip.Transaction.State

/-
This file defines the INVITE and the non-INVITE server transactions, their timers, and the channel that their
responses use.
-/

namespace BelleSip

open Foundation

namespace Server

/-- This is `belle_sip_timer_config_t`. -/
structure TimerConfig where
  T1 : Nat := 500
  T2 : Nat := 4000
  T4 : Nat := 5000

/-- A channel to a peer, as the server transactions see it. -/
structure PeerChannel where
  id : Nat
  reliable : Bool
deriving DecidableEq, Repr

/-- A listening point of the provider: its channel to a hop, if any, and the one that it can create. -/
structure ListeningPoint where
  transport : String
  getChannel : Hop → Option PeerChannel := fun _ => none
  createChannel : Hop → Option PeerChannel := fun _ => none

/-- This is the loop of `belle_sip_provider_get_channel`. -/
def searchChannel (hop : Hop) : List ListeningPoint → Option ListeningPoint → Option PeerChannel
  | [], candidate => candidate.bind fun lp => lp.createChannel hop
  | lp :: rest, candidate =>
      if strcasecmp lp.transport hop.transport then
        match lp.getChannel hop with
        | some chan => some chan
        | none => searchChannel hop rest (some lp)
      else searchChannel hop rest candidate

/-- This is `belle_sip_provider_get_channel`. -/
def getChannel (lps : List ListeningPoint) (hop : Hop) : Option PeerChannel := searchChannel hop lps none

/-- The two server transactions, `belle_sip_ist_t` and `belle_sip_nist_t`. -/
inductive Kind where
  | ist
  | nist
deriving DecidableEq, Repr

/-- This is `belle_sip_server_transaction_t` with the timers of both kinds; a timer is kept with its interval while it
is a source of the main loop. Besides, what has been queued on the channel, and which of it was not there before. -/
structure Transaction where
  kind : Kind
  request : Request
  toTag : String
  state : TransactionState := .init
  channel : Option PeerChannel := none
  lastResponse : Option Response := none
  dialog : Bool := false
  timerG : Option Nat := none
  timerH : Option Nat := none
  timerI : Option Nat := none
  timerL : Option Nat := none
  timerJ : Option Nat := none
  queued : List (PeerChannel × Response) := []
  sent : List Response := []
deriving Repr

namespace Transaction

/-- This is `belle_sip_channel_queue_message` on the channel of the transaction. -/
def queueMessage (message : Option Response) (t : Transaction) : Checked Transaction := do
  let channel ← Checked.deref t.channel
  let message ← Checked.deref message
  .ok { t with queued := t.queued ++ [(channel, message)] }

/-- A new response is queued. -/
def queueResponse (resp : Response) (t : Transaction) : Checked Transaction := do
  let t ← t.queueMessage (some resp)
  .ok { t with sent := t.sent ++ [resp] }

/-- This is `belle_sip_transaction_terminate`, with `ist_on_terminate` and `nist_on_terminate`. -/
def terminate (t : Transaction) : Transaction :=
  if t.state = .terminated then t
  else { t with
    state := .terminated, timerG := none, timerH := none, timerI := none, timerL := none, timerJ := none }

/-- This is `ist_send_new_response`. -/
def istSendNewResponse (config : TimerConfig) (resp : Response) (t : Transaction) :
    Checked (Transaction × Int) :=
  match t.state with
  | .proceeding => do
      let t ← t.queueResponse resp
      if 200 ≤ resp.statusCode ∧ resp.statusCode < 300 then
        .ok ({ t with state := .accepted, timerL := some (64 * config.T1) }, 0)
      else if 300 ≤ resp.statusCode then do
        let channel ← Checked.deref t.channel
        .ok ({ t with
          state := .completed
          timerG := if channel.reliable then t.timerG else some config.T1
          timerH := some (64 * config.T1) }, 0)
      else .ok (t, 0)
  -- a 2xx response is to go to the transport layer
  | .accepted => .ok (t, if 200 ≤ resp.statusCode ∧ resp.statusCode < 300 then 0 else -1)
  | _ => .ok (t, -1)

/-- This is `nist_set_completed`. -/
def nistSetCompleted (config : TimerConfig) (t : Transaction) : Checked Transaction := do
  let channel ← Checked.deref t.channel
  .ok { t with timerJ := some (if channel.reliable then 0 else config.T1 * 64), state := .completed }

/-- The case of `nist_send_new_response` for `PROCEEDING`. -/
def nistProceed (config : TimerConfig) (resp : Response) (t : Transaction) : Checked (Transaction × Int) := do
  let t ← if 200 ≤ resp.statusCode then t.nistSetCompleted config else .ok t
  let t ← t.queueResponse resp
  .ok (t, 0)

/-- This is `nist_send_new_response`. -/
def nistSendNewResponse (config : TimerConfig) (resp : Response) (t : Transaction) : Checked (Transaction × Int) :=
  match t.state with
  | .trying =>
      if resp.statusCode < 200 then do
        let t ← { t with state := .proceeding }.queueResponse resp
        .ok (t, 0)
      else t.nistProceed config resp
  | .proceeding => t.nistProceed config resp
  -- not allowed to send a response at this time
  | .completed => .ok (t, -1)
  | _ => .ok (t, 0)

/-- The method `send_new_response` of the class. -/
def sendNewResponse (config : TimerConfig) (resp : Response) (t : Transaction) : Checked (Transaction × Int) :=
  match t.kind with
  | .ist => t.istSendNewResponse config resp
  | .nist => t.nistSendNewResponse config resp

end Transaction

/-- This is `belle_sip_response_fill_for_dialog`. -/
def fillForDialog (resp : Response) (req : Request) : Response :=
  let routed := { resp with recordRoutes := req.recordRoutes }
  if 200 ≤ resp.statusCode ∧ resp.statusCode < 300 ∧ resp.contact = none ∧
      (req.method = "INVITE" ∨ req.method = "SUBSCRIBE") then
    { routed with contact := some {} }
  else routed

namespace Transaction

/-- The headers that `belle_sip_server_transaction_send_response` adds to a response. -/
def complete (resp : Response) (t : Transaction) : Checked Response :=
  if resp.statusCode = 100 then .ok resp
  else do
    let header ← Checked.deref resp.toHeader
    let tagged := if header.tag = none then { resp with toHeader := some { header with tag := some t.toTag } } else resp
    .ok (if t.dialog ∧ 100 < resp.statusCode ∧ resp.statusCode < 300 then fillForDialog tagged t.request else tagged)

/-- The rest of `belle_sip_server_transaction_send_response` when there is a channel. -/
def sendOnChannel (config : TimerConfig) (resp : Response) (t : Transaction) : Checked Transaction := do
  let resp ← t.complete resp
  let (t, ret) ← t.sendNewResponse config resp
  .ok (if ret = 0 then { t with lastResponse := some resp } else t)

/-- This is `belle_sip_server_transaction_send_response`. -/
def sendResponse (config : TimerConfig) (lps : List ListeningPoint) (resp : Response) (t : Transaction) :
    Checked Transaction :=
  match t.lastResponse with
  | some _ => t.sendOnChannel config resp
  | none => do
      let hop ← Checked.deref resp.getReturnHop
      match getChannel lps hop with
      -- no channel available for sending response
      | none => .ok { t with channel := none }
      | some channel => sendOnChannel config resp { t with channel := some channel }

/-- This is `on_request_retransmission`, `ist_on_request_retransmission` or `nist_on_request_retransmission`. -/
def onRequestRetransmission (t : Transaction) : Checked Transaction :=
  match t.state with
  | .proceeding | .completed => t.queueMessage t.lastResponse
  | _ => .ok t

/-- This is `belle_sip_ist_process_ack`, without what is reported to the listeners. -/
def processAck (config : TimerConfig) (t : Transaction) : Checked Transaction :=
  match t.state with
  | .completed => do
      let channel ← Checked.deref t.channel
      let confirmed := { t with timerG := none, state := .confirmed }
      .ok (if channel.reliable then confirmed.terminate else { confirmed with timerI := some config.T4 })
  | _ => .ok t

/-- This is `belle_sip_server_transaction_on_request`, without what is reported to the listeners. -/
def onRequest (config : TimerConfig) (method : String) (t : Transaction) : Checked Transaction :=
  if method = "ACK" then
    match t.kind with
    | .ist => t.processAck config
    | .nist => .ok t
  else if method = "CANCEL" then .ok t
  else t.onRequestRetransmission

/-- This is `ist_on_timer_G`. -/
def onTimerG (config : TimerConfig) (interval : Nat) (t : Transaction) : Checked Transaction :=
  if t.state = .completed then do
    let t ← t.queueMessage t.lastResponse
    .ok { t with timerG := some (min (2 * interval) config.T2) }
  else .ok { t with timerG := none }

/-- This is `ist_on_timer_H`. -/
def onTimerH (t : Transaction) : Transaction :=
  if t.state = .completed then t.terminate else { t with timerH := none }

end Transaction

/-- What happens to a server transaction: the application sends a response with the listening points that the provider
has then, a request matches the transaction, a timer fires, or the application terminates it or makes a dialog of it. -/
inductive Event where
  | response (lps : List ListeningPoint) (resp : Response)
  | request (method : String)
  | timerG
  | timerH
  | timerI
  | timerL
  | timerJ
  | terminate
  | dialog (present : Bool)

namespace Transaction

/-- One event; a timer that is not a source does not fire. -/
def handle (config : TimerConfig) (event : Event) (t : Transaction) : Checked Transaction :=
  match event with
  | .response lps resp => t.sendResponse config lps resp
  | .request method => t.onRequest config method
  | .timerG => t.timerG.elim (.ok t) fun interval => t.onTimerG config interval
  | .timerH => .ok (t.timerH.elim t fun _ => t.onTimerH)
  | .timerI => .ok (t.timerI.elim t fun _ => t.terminate)
  | .timerL => .ok (t.timerL.elim t fun _ => t.terminate)
  | .timerJ => .ok (t.timerJ.elim t fun _ => t.terminate)
  | .terminate => .ok t.terminate
  | .dialog present => .ok { t with dialog := present }

/-- One event of a run. -/
def step (config : TimerConfig) (state : Checked Transaction) (event : Event) : Checked Transaction := do
  let t ← state
  t.handle config event

/-- This is `belle_sip_ist_new`. -/
def istNew (config : TimerConfig) (lps : List ListeningPoint) (req : Request) (toTag : String) : Checked Transaction :=
  { kind := .ist, request := req, toTag := toTag, state := .proceeding : Transaction }.sendResponse config lps
    (Response.createFromRequest req 100)

/-- This is `belle_sip_nist_new`. -/
def nistNew (req : Request) (toTag : String) : Checked Transaction :=
  .ok { kind := .nist, request := req, toTag := toTag, state := .trying }

/-- This is `belle_sip_ist_new`, or `belle_sip_nist_new`. -/
def new (kind : Kind) (config : TimerConfig) (lps : List ListeningPoint) (req : Request) (toTag : String) :
    Checked Transaction :=
  match kind with
  | .ist => istNew config lps req toTag
  | .nist => nistNew req toTag

end Transaction

end Server

end BelleSip
