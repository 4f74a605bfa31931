import BelleSip.Transaction.Matching
import BelleSip.Transaction.Reports
import BelleSip.Transaction.ServerRuns

/-
This file defines two providers that exchange the messages of their transactions over a network, which loses, repeats,
and reorders them. One provider has the client transactions, the other one the server transactions.
-/

namespace BelleSip

open Foundation
open Foundation.Reentrance (Config Input)

namespace Exchange

/-- A client transaction with the work that it has still to do, and what it has done. -/
structure Client where
  config : Config Callbacks.Transaction Callbacks.Task
  log : Callbacks.Log := {}

namespace Client

def request (client : Client) : Request := client.config.state.request

def kind (client : Client) : Callbacks.Kind := client.config.state.kind

/-- The field `branch_id`: `belle_sip_client_transaction_init` leaves it in the topmost Via of the request. -/
def branchId (client : Client) : Option String := client.request.vias.head?.bind (·.branch)

/-- The transaction is in the list of its provider. -/
def listed (client : Client) : Bool := 0 < client.config.state.known

def step (client : Client) (input : Input Callbacks.Call Callbacks.Event) : Client :=
  let after := Callbacks.program.step client.config input
  ⟨after, client.log.note (Callbacks.arriving client.config input) (Callbacks.reported client.config input)⟩

/-- This is `belle_sip_ict_new` or `belle_sip_nict_new`, for the method that
`belle_sip_provider_create_client_transaction` asks for. -/
def new (request : Request) : Client :=
  ⟨{ state := { kind := if request.method = "INVITE" then .ict else .nict, request := request } }, {}⟩

end Client

/-- A server transaction. -/
structure Peer extends ServerTransaction where
  work : Server.Transaction

/-- The responses that the transaction has queued on its channel. -/
def Peer.responses (peer : Peer) : List Response := peer.work.queued.map Prod.snd

structure State where
  clients : List Client
  /-- The list `server_transactions` of the second provider, latest first. -/
  live : List Peer := []
  /-- The server transactions that have terminated. The application may still hold them. -/
  gone : List Peer := []
  /-- The requests that the listeners of the second provider have been told of, or that the provider has answered in
  their place, latest first. -/
  given : List IncomingRequest := []
  /-- The responses that belong to no transaction of the first provider. -/
  strays : List Response := []

/-- All the server transactions that there have been. -/
def State.peers (state : State) : List Peer := state.live ++ state.gone

/-- What the application, or the provider in its place, says when it creates a server transaction at once: the tag of
the To header, and the listening points for a first response. -/
structure Acceptance where
  toTag : String
  lps : List Server.ListeningPoint := []

/-- What happens: a client transaction works, is called, or gets an event other than a response; a copy of the request
or of the ACK of a client transaction arrives; the application creates a server transaction later; a copy of a response
arrives; or something happens to a server transaction. -/
inductive Event where
  | client (position : Nat) (input : Input Callbacks.Call Callbacks.Event)
  | request (position : Nat) (ack : Bool) (copy : IncomingRequest) (acceptance : Option Acceptance)
  | accept (req : IncomingRequest) (acceptance : Acceptance)
  | response (peer copy : Nat) (found : Option Dialog)
  | live (position : Nat) (event : Server.Event)
  | gone (position : Nat) (event : Server.Event)

/-- This is `client_transaction_match`. -/
def clientTransactionMatch (branchid method : String) (client : Client) : Bool :=
  client.branchId = some branchid && client.request.method = method

/-- This is `belle_sip_provider_find_matching_client_transaction`; the result is a position. The transactions are
compared only when there is one, and only then the branch is read. -/
def findMatchingClientTransaction (clients : List Client) (resp : Response) : Checked (Option Nat) :=
  match resp.vias.head?, resp.cseq with
  | some via, some cseq =>
      if clients.any Client.listed then do
        let branchid ← Checked.deref via.branch
        return clients.findIdx? fun client => client.listed && clientTransactionMatch branchid cseq.method client
      else return none
  | _, _ => return none

namespace State

/-- This is `belle_sip_provider_dispatch_response`, without what it does to the credentials. -/
def dispatchResponse (resp : Response) (found : Option Dialog) (state : State) : Checked State := do
  match ← findMatchingClientTransaction state.clients resp with
  | some position =>
      return { state with clients := state.clients.modify position (·.step (.event (.response resp found))) }
  | none => return { state with strays := resp :: state.strays }

/-- An event of a server transaction, which is removed when it has terminated. -/
def handleLive (config : Server.TimerConfig) (position : Nat) (event : Server.Event) (state : State) : Checked State :=
  match state.live[position]? with
  | none => return state
  | some peer => do
      let work ← peer.work.handle config event
      let after := { peer with work := work }
      if work.state = .terminated then
        return { state with live := state.live.eraseIdx position, gone := after :: state.gone }
      else return { state with live := state.live.set position after }

/-- An event of a server transaction that has terminated. -/
def handleGone (config : Server.TimerConfig) (position : Nat) (event : Server.Event) (state : State) : Checked State :=
  match state.gone[position]? with
  | none => return state
  | some peer => do
      let work ← peer.work.handle config event
      return { state with gone := state.gone.set position { peer with work := work } }

/-- This is `belle_sip_provider_create_server_transaction`. -/
def createServerTransaction (config : Server.TimerConfig) (req : IncomingRequest) (acceptance : Acceptance)
    (state : State) : Checked State :=
  if req.method = "ACK" then return state
  else do
    let transaction ← ServerTransaction.init req
    let kind : Server.Kind := if req.method = "INVITE" then .ist else .nist
    let work ← Server.Transaction.new kind config acceptance.lps req.toRequest acceptance.toTag
    return { state with live := ⟨transaction, work⟩ :: state.live }

/-- The listeners are told of a request, and may create a server transaction. -/
def processRequestEvent (config : Server.TimerConfig) (req : IncomingRequest) (acceptance : Option Acceptance)
    (state : State) : Checked State :=
  let told := { state with given := req :: state.given }
  match acceptance with
  | some acceptance => told.createServerTransaction config req acceptance
  | none => return told

/-- This is `belle_sip_provider_dispatch_request`. -/
def dispatchRequest (config : Server.TimerConfig) (digest : List UInt8 → String) (req : IncomingRequest)
    (acceptance : Option Acceptance) (state : State) : Checked State := do
  let (found, req) ← findMatchingTransaction digest (state.live.map Peer.toServerTransaction) req
  match found with
  | some position => do
      let state ← state.handleLive config position (.request req.method)
      -- `belle_sip_server_transaction_on_request` passes a CANCEL on
      if req.method = "CANCEL" then state.processRequestEvent config req acceptance else return state
  | none => state.processRequestEvent config req acceptance

def handle (config : Server.TimerConfig) (digest : List UInt8 → String) (event : Event) (state : State) :
    Checked State :=
  match event with
  | .client position input => return { state with clients := state.clients.modify position (·.step input) }
  | .request _ _ copy acceptance => state.dispatchRequest config digest copy acceptance
  | .accept req acceptance => state.createServerTransaction config req acceptance
  | .response peer copy found =>
      match (state.peers[peer]?).bind fun peer => peer.responses[copy]? with
      | some resp => state.dispatchResponse resp found
      | none => return state
  | .live position event => state.handleLive config position event
  | .gone position event => state.handleGone config position event

/-- One event; a party that a fault has stopped does nothing. -/
def step (config : Server.TimerConfig) (digest : List UInt8 → String) (state : State) (event : Event) : State :=
  match state.handle config digest event with
  | .ok after => after
  | .error _ => state

end State

/-- A copy of what a client transaction has queued, as the second provider parses it: the headers that it needs are
there, and the method and the branch are those that were sent. -/
structure Copies (client : Client) (ack : Bool) (copy : IncomingRequest) : Prop where
  sent : (if ack then Callbacks.Message.ack else .request) ∈ client.config.state.queued
  method : copy.method = if ack then "ACK" else client.request.method
  branch : copy.branch = client.branchId
  cseq : copy.cseq.map (·.method) = some copy.method
  checked : copy.checkHeaders = true
  fresh : copy.rfc2543Branch = none

instance (client : Client) (ack : Bool) (copy : IncomingRequest) : Decidable (Copies client ack copy) :=
  decidable_of_iff
    ((if ack then Callbacks.Message.ack else .request) ∈ client.config.state.queued ∧
      copy.method = (if ack then "ACK" else client.request.method) ∧ copy.branch = client.branchId ∧
      copy.cseq.map (·.method) = some copy.method ∧ copy.checkHeaders = true ∧ copy.rfc2543Branch = none)
    ⟨fun ⟨sent, method, branch, cseq, checked, fresh⟩ => ⟨sent, method, branch, cseq, checked, fresh⟩,
      fun ⟨sent, method, branch, cseq, checked, fresh⟩ => ⟨sent, method, branch, cseq, checked, fresh⟩⟩

/-- A response that `belle_sip_response_create_from_request` has made for a request keeps its Via and CSeq headers. -/
def Answers (peer : Peer) (resp : Response) : Prop :=
  resp.vias = peer.request.vias ∧ resp.cseq = peer.request.cseq

instance (peer : Peer) (resp : Response) : Decidable (Answers peer resp) := inferInstanceAs (Decidable (_ ∧ _))

/-- A server transaction gets its requests from the network only, and the application answers with responses that it has
made from the request. -/
def Serves (peers : List Peer) (position : Nat) : Server.Event → Prop
  | .request _ => False
  | .response _ resp => ∀ peer ∈ peers[position]?, Answers peer resp
  | _ => True

instance (peers : List Peer) (position : Nat) : (event : Server.Event) → Decidable (Serves peers position event)
  | .request _ => isFalse id
  | .response _ resp => inferInstanceAs (Decidable (∀ peer ∈ peers[position]?, Answers peer resp))
  | .timerG | .timerH | .timerI | .timerL | .timerJ | .terminate | .dialog _ => isTrue trivial

/-- What a client transaction does without a response: that comes from the network only. -/
def Local : Input Callbacks.Call Callbacks.Event → Prop
  | .event (.response _ _) => False
  | _ => True

instance : (input : Input Callbacks.Call Callbacks.Event) → Decidable (Local input)
  | .event (.response _ _) => isFalse id
  | .event (.timer _ _) | .event (.request _) | .tick | .back | .call _ => isTrue trivial

/-- What can happen: the network delivers only copies of what has been queued, and the application creates server
transactions only for requests that it has been told of. -/
def Possible (state : State) : Event → Prop
  | .client _ input => Local input
  | .request position ack copy _ => ∃ client ∈ state.clients[position]?, Copies client ack copy
  | .accept req _ => req ∈ state.given
  | .response _ _ _ => True
  | .live position event => Serves state.live position event
  | .gone position event => Serves state.gone position event

instance (state : State) : (event : Event) → Decidable (Possible state event)
  | .client _ input => inferInstanceAs (Decidable (Local input))
  | .request position ack copy _ =>
      inferInstanceAs (Decidable (∃ client ∈ state.clients[position]?, Copies client ack copy))
  | .accept req _ => inferInstanceAs (Decidable (req ∈ state.given))
  | .response _ _ _ => isTrue trivial
  | .live position event => inferInstanceAs (Decidable (Serves state.live position event))
  | .gone position event => inferInstanceAs (Decidable (Serves state.gone position event))

/-- The client transactions of the run are new. -/
def start (requests : List Request) : State := { clients := requests.map Client.new }

end Exchange

end BelleSip
