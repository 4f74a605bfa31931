import BelleSip.Foundation.Machine
import BelleSip.Channel.Output

/-
This file defines the events of a channel and the runs that they make.
-/

namespace BelleSip

/-- The result of the method `connect` of a channel. -/
inductive Connection where
  | failed
  | pending
  /-- The UDP method calls `belle_sip_channel_set_ready` itself. -/
  | ready
deriving DecidableEq, Repr

/-- The answers of the resolver, the socket, and the listeners during one event. -/
structure Environment where
  /-- The addresses of a resolver that answers at once. -/
  resolution : Option (List Address) := none
  connection : Connection := .pending
  /-- The messages that listeners queue while they are told the state `BELLE_SIP_CHANNEL_READY`. -/
  onReady : List Message := []

/-- The callbacks and calls that a channel receives.

A read is the event `received`, then the messages that the listeners of the incoming messages
queue, then `endOfStream` when `recv` has returned 0. -/
inductive Event where
  | queueMessage (message : Message) (environment : Environment)
  | prepare (environment : Environment)
  | resolved (addresses : List Address) (environment : Environment)
  | connected (environment : Environment)
  | connectFailed
  | received (now : Nat)
  | endOfStream
  | receiveFailed
  | writable
  | inactivityTimeout
  | keepAliveFailed
  | timeoutNotified (now : Nat)
  | forceClosed
  | deferred (index : Nat) (environment : Environment)

/-- The output work of a channel. -/
inductive Activity where
  /-- This is `queue_message` on a channel that is not in its initial state. -/
  | queue (message : Message)
  /-- This is `channel_process_queue`. -/
  | resume

namespace Channel

/-- This is `channel_push_outgoing` at the entry of `queue_message`. -/
def pushOutgoing (channel : Channel) (message : Message) : Channel :=
  { channel.emit (.queued message) with
    outgoingMessages := channel.outgoingMessages ++ [message] }

/-- This is `belle_sip_channel_set_ready`: listeners may queue messages before the queue is processed.

This function and those that call it end with output work, which they return. -/
def setReady (environment : Environment) (channel : Channel) : Channel × List Activity :=
  (channel.setState .ready, environment.onReady.map .queue ++ [.resume])

/-- This is `belle_sip_channel_connect`. -/
def connect (environment : Environment) (channel : Channel) : Channel × List Activity :=
  let channel := channel.setState .connecting
  match environment.connection with
  | .pending => (channel, [])
  | .failed => (channel.setState .error, [])
  | .ready => setReady environment channel

/-- This is `channel_res_done`, which connects through `channel_prepare_continue`. -/
def resDone (addresses : List Address) (environment : Environment) (channel : Channel) :
    Channel × List Activity :=
  if addresses = [] then (channel.setState .error, [])
  else connect environment ({ channel with currentPeer := addresses }.setState .resDone)

/-- This is `belle_sip_channel_resolve`; the resolver may answer at once. -/
def resolve (environment : Environment) (channel : Channel) : Channel × List Activity :=
  let channel := channel.setState .resInProgress
  match environment.resolution with
  | none => (channel, [])
  | some addresses => resDone addresses environment channel

/-- This is `channel_prepare_continue`. -/
def prepareContinue (environment : Environment) (channel : Channel) : Channel × List Activity :=
  match channel.state with
  | .init => resolve environment channel
  | .resDone => connect environment channel
  | .ready => (channel, [.resume])
  | _ => (channel, [])

/-- This is `queue_message`. -/
def queueMessage (message : Message) (environment : Environment) (channel : Channel) :
    Channel × List Activity :=
  if channel.state = .init then prepareContinue environment (channel.pushOutgoing message)
  else (channel, [.queue message])

/-- The deferred task at an index leaves the main loop. -/
def takeDeferred (index : Nat) (channel : Channel) : Channel :=
  { channel with deferred := channel.deferred.eraseIdx index }

/-- This is the execution of a deferred task by the main loop. -/
def runDeferred (index : Nat) (environment : Environment) (channel : Channel) :
    Channel × List Activity :=
  match channel.deferred[index]? with
  | none => (channel, [])
  | some .connectNext => connect environment (channel.takeDeferred index)
  | some .invokeStateListenerDefered => ((channel.takeDeferred index).invokeStateListener, [])

/-- The life cycle part of one event, with the output work that ends the event. -/
def advance (channel : Channel) : Event → Channel × List Activity
  | .queueMessage message environment => queueMessage message environment channel
  | .prepare environment => prepareContinue environment channel
  | .resolved addresses environment => resDone addresses environment channel
  | .connected environment =>
      if channel.state = .connecting then setReady environment channel else (channel, [])
  | .connectFailed =>
      (if channel.state = .connecting then channel.setState .error else channel, [])
  | .received now => ({ channel with lastRecvTime := now }, [])
  | .endOfStream => (channel.setState .disconnected, [])
  | .receiveFailed => (channel.setState .error, [])
  | .writable => (channel, if channel.state = .ready then [.resume] else [])
  | .inactivityTimeout => (channel.setState .disconnected, [])
  | .keepAliveFailed =>
      (if channel.state = .ready then (channel.setState .error).close else channel, [])
  | .timeoutNotified now => ((channel.notifyTimeout now).1, [])
  | .forceClosed => ({ channel with forceClose := true }.setState .disconnected, [])
  | .deferred index environment => runDeferred index environment channel

variable (transport : Nat → SendResult)

def activate (channel : Channel) : Activity → Channel
  | .queue message =>
      let channel := channel.pushOutgoing message
      if channel.state = .ready then channel.processQueue transport else channel
  | .resume => channel.processQueue transport

/-- One event of a channel. -/
def step (channel : Channel) (event : Event) : Channel :=
  Foundation.Machine.run (activate transport) (channel.advance event).1 (channel.advance event).2

end Channel

end BelleSip
