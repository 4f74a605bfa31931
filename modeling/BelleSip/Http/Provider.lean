import Mathlib.Data.List.Infix
import Mathlib.Logic.Function.Basic
import BelleSip.Foundation.Machine
import BelleSip.Foundation.Selection
import BelleSip.Channel.State

/-
This file translates the HTTP provider with the channels that carry its requests.

A channel is seen at the granularity of whole messages: an activation of `_send_message` is described by what
the transport answers to it. Messages are queued without the transmission delay that the stack can simulate.
-/

namespace BelleSip.Http

open Foundation.Selection

/-- The transports for which `provider_get_channels` has a list. -/
inductive Transport where
  | tcp
  | tls
deriving DecidableEq, Repr

/-- The hop that `belle_sip_hop_new_from_generic_uri` makes of the URI of a request. -/
structure Hop where
  transport : Transport := .tcp
  cname : Option String := none
  host : String
  port : Nat := 80
  /-- The address that `getaddrinfo` reads in a numeric host. -/
  numeric : Option Address := none
deriving DecidableEq, Repr

/-- A `belle_http_request_t` that has a listener. -/
structure Request where
  /-- Two requests with the same contents are two objects. -/
  identity : Nat
  hop : Hop
  /-- `belle_sip_object_marshal` fits the header section into the buffer. -/
  marshals : Bool := true
  /-- The body does not fit into the buffer behind the header section. -/
  chunked : Bool := false
deriving DecidableEq, Repr

/-- The answers of `send_buffer` to the buffers of one part of `_send_message`. -/
inductive Written where
  /-- All bytes are taken. -/
  | taken
  | wouldBlock
  | failed
  /-- The transport returns 0. -/
  | closed
deriving DecidableEq, Repr

/-- What the transport answers to one activation of `_send_message`. -/
structure Activation where
  /-- The answer to the bytes that an earlier would-block has left. -/
  flushed : Written := .taken
  written : Written := .taken
deriving DecidableEq, Repr

/-- The answers of the resolver, the socket, and the transport during one event. -/
structure Environment where
  /-- The addresses of a resolver that answers at once. -/
  resolution : Option (List Address) := none
  /-- The method `connect` of the channel starts a connection. -/
  connects : Bool := true
  activations : List Activation := []

/-- A channel together with its `belle_http_channel_context_t`. -/
structure ChannelContext where
  /-- The identity of the object. -/
  number : Nat
  transport : Transport
  peerCname : Option String
  peerName : String
  peerPort : Nat
  state : ChannelState := .init
  /-- The address in use followed by its `ai_next` chain; empty for a null pointer. -/
  currentPeer : List Address := []
  /-- The `resolver_ctx` is there. -/
  resolving : Bool := false
  outgoingMessages : List Request := []
  curOutMessage : Option Request := none
  outState : OutputStreamState := .idle
  /-- The `ewouldblock_buffer` is there. -/
  blocked : Bool := false
  aboutToBeClosed : Bool := false
  forceClose : Bool := false
  deferred : List DeferredTask := []
  pendingRequests : List Request := []
  /-- The channel is in the list of the provider, which has a reference to it. -/
  listed : Bool := true
  /-- The channel is not destroyed. -/
  alive : Bool := true
  /-- The message of each activation of `_send_message` so far. -/
  handed : List Request := []
  /-- The requests that the channel has begun to send, each once. -/
  sent : List Request := []
  /-- The requests to which the responses were given, one for each response. -/
  given : List (Option Request) := []
  /-- The responses that have arrived on the channel while it was read. -/
  arrived : Nat := 0
  /-- The connection, or the last attempt to make one, has failed. -/
  lost : Bool := false

namespace ChannelContext

/-- This is `channel_set_state` for every state but `BELLE_SIP_CHANNEL_ERROR`, with the listener
`channel_state_changed` that it calls. -/
def enterState (context : ChannelContext) (state : ChannelState) : ChannelContext :=
  if state = .disconnected ∧ context.forceClose = false then { context with state := state, listed := false }
  else { context with state := state }

/-- This is `belle_sip_main_loop_do_later`. -/
def doLater (context : ChannelContext) (task : DeferredTask) : ChannelContext :=
  { context with deferred := context.deferred ++ [task] }

/-- This is `belle_sip_channel_handle_error`. -/
def handleError (context : ChannelContext) : ChannelContext :=
  match context.currentPeer with
  | _ :: next :: others =>
      if context.state ≠ .ready then
        ({ context with currentPeer := next :: others }.enterState .retry).doLater .connectNext
      else { context with state := .error }.doLater .invokeStateListenerDefered
  | _ => { context with state := .error }.doLater .invokeStateListenerDefered

/-- This is the end of `_send_message`, at the label `done`. -/
def done (context : ChannelContext) : ChannelContext :=
  { context with blocked := false, outState := .idle, curOutMessage := none }

/-- The message of the activation is sent, kept for later, or given up. -/
def conclude (context : ChannelContext) : Written → ChannelContext
  | .taken | .closed => context.done
  | .failed => context.handleError.done
  | .wouldBlock => { context with blocked := true }

/-- This is the part of `_send_message` for the state `OUTPUT_STREAM_SENDING_HEADERS`; its first statement
calls `channel_on_sending`. -/
def sendHeaders (context : ChannelContext) (request : Request) (written : Written) : ChannelContext :=
  let context := { context with pendingRequests := context.pendingRequests ++ [request] }
  if request.marshals then
    { context with outState := if request.chunked then .sendingBody else .sendingHeaders }.conclude written
  else context.done

/-- This is `_send_message`. -/
def _sendMessage (context : ChannelContext) (activation : Activation) : ChannelContext :=
  match context.curOutMessage with
  | none => context
  | some request =>
      let context := { context with handed := context.handed ++ [request] }
      match if context.blocked then activation.flushed else .taken with
      | .wouldBlock => context
      | .failed => context.handleError.done
      | .closed => context.done
      | .taken =>
          let context := { context with blocked := false }
          if context.outState = .sendingHeaders then context.sendHeaders request activation.written
          else context.conclude activation.written

/-- This is `send_message`. -/
def sendMessage (context : ChannelContext) (request : Request) (activation : Activation) : ChannelContext :=
  { context with
    sent := if request.marshals then context.sent ++ [request] else context.sent,
    curOutMessage := some request, outState := .sendingHeaders }._sendMessage activation

/-- This is the loop of `channel_process_queue`: a message is popped before the state is tested. -/
def popOutgoing : List Request → List Activation → ChannelContext → ChannelContext
  | [], _, context => { context with outgoingMessages := [] }
  | request :: rest, activations, context =>
      if context.state = .ready ∧ context.outState = .idle then
        popOutgoing rest activations.tail
          ({ context with outgoingMessages := rest }.sendMessage request (activations.headD {}))
      else { context with outgoingMessages := rest }

/-- This is `channel_process_queue`. -/
def processQueue (context : ChannelContext) (activations : List Activation) : ChannelContext :=
  if context.outState ≠ .idle then
    popOutgoing context.outgoingMessages activations.tail (context._sendMessage (activations.headD {}))
  else popOutgoing context.outgoingMessages activations context

/-- This is `belle_sip_channel_connect`. -/
def connect (context : ChannelContext) (environment : Environment) : ChannelContext :=
  let context := context.enterState .connecting
  if environment.connects then context else context.handleError

/-- This is `channel_res_done`, which connects through `channel_prepare_continue`. -/
def resDone (context : ChannelContext) (addresses : List Address) (environment : Environment) : ChannelContext :=
  let context := { context with resolving := false }
  if addresses = [] then context.handleError
  else ({ context with currentPeer := addresses }.enterState .resDone).connect environment

/-- This is `belle_sip_channel_resolve`; the resolver may answer at once. -/
def resolve (context : ChannelContext) (environment : Environment) : ChannelContext :=
  let context := context.enterState .resInProgress
  match environment.resolution with
  | none => { context with resolving := true }
  | some addresses => context.resDone addresses environment

/-- This is `channel_push_outgoing`. -/
def pushOutgoing (context : ChannelContext) (request : Request) : ChannelContext :=
  { context with outgoingMessages := context.outgoingMessages ++ [request] }

/-- This is `queue_message`. -/
def queueMessage (context : ChannelContext) (request : Request) (environment : Environment) : ChannelContext :=
  let context := context.pushOutgoing request
  if context.state = .init then context.resolve environment
  else if context.state = .ready then context.processQueue environment.activations
  else context

/-- This is `belle_sip_channel_set_ready`. -/
def setReady (context : ChannelContext) (environment : Environment) : ChannelContext :=
  (context.enterState .ready).processQueue environment.activations

/-- The main loop reaches the channel only while something refers to it. -/
def referenced (context : ChannelContext) : Bool :=
  context.alive && (context.listed || !context.deferred.isEmpty)

/-- This is `belle_sip_channel_matches`; a hop is compared by name, then by address. -/
def matchesHop (context : ChannelContext) (hop : Hop) : Bool :=
  if hop.host = context.peerName ∧ hop.port = context.peerPort then
    match hop.cname, context.peerCname with
    | some asked, some known => asked = known
    | _, _ => true
  else
    match hop.numeric, context.currentPeer with
    | some asked, known :: _ => asked = known
    | _, _ => false

/-- The test of `belle_sip_channel_find_from_list_with_addrinfo` on the list of the transport. -/
def serves (hop : Hop) (context : ChannelContext) : Bool :=
  context.listed && context.transport = hop.transport && !context.aboutToBeClosed && context.matchesHop hop

/-- This is `belle_sip_stream_channel_new_client`, or `belle_sip_channel_new_tls`, with
`belle_http_channel_context_new`. -/
def newClient (number : Nat) (hop : Hop) : ChannelContext :=
  { number := number, transport := hop.transport, peerCname := hop.cname, peerName := hop.host,
    peerPort := hop.port }

/-- The deferred task at an index leaves the main loop. -/
def takeDeferred (context : ChannelContext) (index : Nat) : ChannelContext :=
  { context with deferred := context.deferred.eraseIdx index }

end ChannelContext

/-- What the main loop and the socket do to one channel. -/
inductive ChannelEvent where
  | resolved (addresses : List Address) (environment : Environment)
  | connected (environment : Environment)
  | connectFailed
  | receiveFailed
  /-- `recv` has returned 0, or the inactivity timer has fired. -/
  | disconnected
  | writable (environment : Environment)

/-- The work of a channel on an event. -/
def ChannelContext.handle (context : ChannelContext) : ChannelEvent → ChannelContext
  | .resolved addresses environment =>
      if context.resolving then context.resDone addresses environment else context
  | .connected environment => if context.state = .connecting then context.setReady environment else context
  | .connectFailed => if context.state = .connecting then context.handleError else context
  | .receiveFailed => if context.state = .ready then context.handleError else context
  | .disconnected => context.enterState .disconnected
  | .writable environment =>
      if context.state = .ready then context.processQueue environment.activations else context

namespace ChannelContext

/-- A channel that was closed is read no more, except for the messages of the read in which its closing was forced. -/
def isRead (context : ChannelContext) : Bool := context.listed || context.forceClose

/-- What the network has done to the channel is noted beside its own work. -/
def notice (context : ChannelContext) : ChannelEvent → ChannelContext
  | .resolved addresses _ =>
      if context.resolving then { context with lost := addresses.isEmpty } else context
  | .connectFailed => if context.state = .connecting then { context with lost := true } else context
  | .receiveFailed => if context.state = .ready then { context with lost := true } else context
  | .connected _ | .disconnected | .writable _ => context

/-- A response that arrives is noted. -/
def noticeResponse (context : ChannelContext) : ChannelContext :=
  if context.isRead then { context with arrived := context.arrived + 1 } else context

/-- The main loop is about to try the next address. -/
def noticeRetry (index : Nat) (context : ChannelContext) : ChannelContext :=
  if context.deferred[index]? = some .connectNext then { context with lost := false } else context

end ChannelContext

/-- A response with what the listener and the helpers answer to its challenge. -/
structure Response where
  code : Nat
  /-- The value of its `Connection` header. -/
  connection : Option String := none
  /-- The scheme of its `WWW-Authenticate` header. -/
  scheme : Option String := none
  /-- The URI of the request or its listener has a password or an HA1. -/
  credentials : Bool := false
  /-- `belle_sip_auth_helper_fill_authorization` returns 0. -/
  filled : Bool := true

/-- The header `Connection` asks to close the channel. -/
def Response.closes (response : Response) : Bool :=
  match response.connection with
  | none => false
  | some value => "close".toList <:+: value.toList

/-- This is `http_channel_context_handle_authentication`: whether the request is submitted again, and its
new `auth_attempt_count`. -/
def handleAuthentication (attempts : Nat) (response : Response) : Bool × Nat :=
  if 1 < attempts then (false, 0)
  else
    match response.scheme with
    | none => (false, attempts)
    | some scheme =>
        if scheme.toLower ≠ "digest" then (false, attempts)
        else if response.credentials then (response.filled, attempts + 1)
        else (false, attempts)

structure Provider where
  /-- The channels that were created, the latest first. -/
  contexts : List ChannelContext := []
  created : Nat := 0
  cancelled : List Request := []
  authAttemptCount : Request → Nat := fun _ => 0
  /-- The weak pointer of a request to its channel. -/
  channel : Request → Option Nat := fun _ => none
  /-- The requests that the application has submitted. -/
  submitted : List Request := []
  /-- The requests of the calls of `process_response` and `process_io_error`. -/
  reported : List Request := []
  /-- The channel and the request of each call of `belle_sip_channel_queue_message`. -/
  queued : List (Nat × Request) := []

namespace Provider

def isAt (number : Nat) (context : ChannelContext) : Bool := context.number = number && context.alive

def context (provider : Provider) (number : Nat) : Option ChannelContext :=
  provider.contexts.find? (isAt number)

def modify (provider : Provider) (number : Nat) (change : ChannelContext → ChannelContext) : Provider :=
  { provider with contexts := modifyFirst (isAt number) change provider.contexts }

/-- This is `belle_http_provider_send_request`. -/
def sendRequest (provider : Provider) (request : Request) (environment : Environment) : Provider :=
  match provider.contexts.find? (ChannelContext.serves request.hop) with
  | some context =>
      { provider with
        contexts := modifyFirst (ChannelContext.serves request.hop) (·.queueMessage request environment)
          provider.contexts,
        channel := Function.update provider.channel request (some context.number),
        queued := provider.queued ++ [(context.number, request)] }
  | none =>
      { provider with
        contexts := (ChannelContext.newClient provider.created request.hop).queueMessage request environment ::
          provider.contexts,
        created := provider.created + 1,
        channel := Function.update provider.channel request (some provider.created),
        queued := provider.queued ++ [(provider.created, request)] }

/-- The listener of a request is told its outcome. -/
def report (provider : Provider) (request : Request) : Provider :=
  { provider with reported := provider.reported ++ [request] }

/-- The first pending request is popped for a response. -/
def popPending (cancelled : List Request) (response : Response) (context : ChannelContext) : ChannelContext :=
  match context.pendingRequests with
  | [] => { context with given := context.given ++ [none] }
  | request :: rest =>
      { context with
        pendingRequests := rest, given := context.given ++ [some request],
        aboutToBeClosed := context.aboutToBeClosed || (response.closes && request ∉ cancelled) }

/-- A response is a challenge that is answered, or the outcome of its request. -/
def answer (provider : Provider) (request : Request) (response : Response) (environment : Environment) :
    Provider :=
  if response.code = 401 ∨ response.code = 407 then
    let (resubmitted, attempts) := handleAuthentication (provider.authAttemptCount request) response
    let provider :=
      { provider with authAttemptCount := Function.update provider.authAttemptCount request attempts }
    if resubmitted then provider.sendRequest request environment else provider.report request
  else provider.report request

/-- This is `http_channel_context_handle_response`. -/
def handleResponse (provider : Provider) (number : Nat) (response : Response) (environment : Environment) :
    Provider :=
  match provider.context number with
  | none => provider
  | some context =>
      if context.isRead = false then provider
      else
        let provider := provider.modify number (popPending provider.cancelled response)
        match context.pendingRequests with
        | [] => provider
        | request :: _ =>
            if request ∈ provider.cancelled then provider else provider.answer request response environment

/-- This is `reenqueue_request` on each request of a list. -/
def reenqueue : List Request → List Environment → Provider → Provider
  | [], _, provider => provider
  | request :: rest, environments, provider =>
      reenqueue rest environments.tail (provider.sendRequest request (environments.headD {}))

/-- This is `provider_remove_channel` followed by `belle_sip_channel_force_close`. -/
def closeByForce (context : ChannelContext) : ChannelContext :=
  { context with listed := false, forceClose := true }.enterState .disconnected

/-- This is `belle_http_provider_cancel_request`. -/
def cancelRequest (provider : Provider) (request : Request) (environments : List Environment) : Provider :=
  let provider := { provider with cancelled := request :: provider.cancelled }
  match (provider.channel request).bind provider.context with
  | none => provider
  | some context =>
      reenqueue context.outgoingMessages environments (provider.modify context.number closeByForce)

/-- The requests that the listeners submit while they are told an error; the failed channel takes those of
its hop as long as it is listed. -/
def meanwhile (context : ChannelContext) (again : List Request) : List Request :=
  if context.listed = false ∨ context.aboutToBeClosed ∨
      context.pendingRequests ++ context.outgoingMessages = [] then []
  else again.filter fun request => context.serves request.hop

/-- This is the end of `channel_state_changed` for the state `BELLE_SIP_CHANNEL_ERROR`. -/
def failed (again : List Request) (context : ChannelContext) : ChannelContext :=
  { context with
    outgoingMessages := context.outgoingMessages ++ meanwhile context again,
    listed := context.listed && context.forceClose }

/-- This is `channel_invoke_state_listener_defered` on a channel in the state `BELLE_SIP_CHANNEL_ERROR`, with
`http_channel_context_handle_io_error`. -/
def reportError (provider : Provider) (context : ChannelContext) (again : List Request) : Provider :=
  let more := meanwhile context again
  let provider := provider.modify context.number (failed again)
  { provider with
    submitted := provider.submitted ++ more,
    reported := provider.reported ++
      if context.pendingRequests = [] then context.outgoingMessages ++ more else context.pendingRequests,
    channel := fun request => if request ∈ more then some context.number else provider.channel request,
    queued := provider.queued ++ more.map fun request => (context.number, request) }

/-- This is the execution of a deferred task of a channel by the main loop. -/
def runDeferred (provider : Provider) (number index : Nat) (again : List Request) (environment : Environment) :
    Provider :=
  match provider.context number with
  | none => provider
  | some context =>
      match context.deferred[index]? with
      | none => provider
      | some .connectNext => provider.modify number fun context => (context.takeDeferred index).connect environment
      | some .invokeStateListenerDefered =>
          let provider := provider.modify number (·.takeDeferred index)
          if context.state = .error then provider.reportError (context.takeDeferred index) again
          else provider.modify number fun context => context.enterState context.state

end Provider

/-- The calls and callbacks that the provider receives. -/
inductive Event where
  /-- The application submits a request. -/
  | sendRequest (request : Request) (environment : Environment)
  | cancelRequest (request : Request) (environments : List Environment)
  | channel (number : Nat) (event : ChannelEvent)
  | response (number : Nat) (response : Response) (environment : Environment)
  | deferred (number index : Nat) (again : List Request) (environment : Environment)
  /-- A channel to which nothing refers any more is destroyed. -/
  | destroyed (number : Nat)

/-- One event of the provider. -/
def Provider.step (provider : Provider) : Event → Provider
  | .sendRequest request environment =>
      { provider with submitted := provider.submitted ++ [request] }.sendRequest request environment
  | .cancelRequest request environments => provider.cancelRequest request environments
  | .channel number event =>
      provider.modify number fun context => if context.referenced then (context.notice event).handle event else context
  | .response number response environment =>
      (provider.modify number ChannelContext.noticeResponse).handleResponse number response environment
  | .deferred number index again environment =>
      (provider.modify number (ChannelContext.noticeRetry index)).runDeferred number index again environment
  | .destroyed number =>
      provider.modify number fun context =>
        if context.referenced then context else { context with alive := false }

end BelleSip.Http
