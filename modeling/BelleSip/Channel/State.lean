import BelleSip.Channel.Message

/-
This file defines the channel record, its life cycle, and the notifications of its state.
-/

namespace BelleSip

/-- The values of `belle_sip_channel_state_t`. -/
inductive ChannelState where
  | init
  | resInProgress
  | resDone
  | connecting
  | retry
  | ready
  | error
  | disconnected
deriving DecidableEq, Repr

/-- The states on which the provider drops its reference to the channel. -/
def ChannelState.terminal : ChannelState → Bool
  | .error | .disconnected => true
  | _ => false

/-- The values of `output_stream_state_t`. -/
inductive OutputStreamState where
  | idle
  | sendingHeaders
  | sendingBody
deriving DecidableEq, Repr

/-- The callbacks that `belle_sip_main_loop_do_later` postpones. -/
inductive DeferredTask where
  | connectNext
  | invokeStateListenerDefered
deriving DecidableEq, Repr

abbrev Address := String

/-- The observable actions of a channel, oldest first in its trace. -/
inductive Effect where
  | queued (message : Message)
  | onSending (message : Message)
  | sentChunk (progress : Progress)
  | accepted (bytes : List Byte)
  | released (message : Message)
  | onStateChanged (state : ChannelState)
  | closed
  | channelReleased
  | fatal

structure Channel where
  state : ChannelState := .init
  /-- The address in use followed by its `ai_next` chain; empty for a null pointer. -/
  currentPeer : List Address := []
  outgoingMessages : List Message := []
  curOutMessage : Option Message := none
  outState : OutputStreamState := .idle
  ewouldblockBuffer : Option (List Byte) := none
  ewouldblockOffset : Nat := 0
  /-- The `transfered_size` of the body handler of the current message. -/
  transferedSize : Nat := 0
  lastRecvTime : Nat := 0
  forceClose : Bool := false
  /-- The provider is among the listeners. -/
  providerListening : Bool := true
  deferred : List DeferredTask := []
  /-- The number of calls of `belle_sip_channel_send` so far. -/
  sends : Nat := 0
  trace : List Effect := []

namespace Channel

def emit (channel : Channel) (effect : Effect) : Channel :=
  { channel with trace := channel.trace ++ [effect] }

/-- This is `belle_sip_channel_close`. -/
def close (channel : Channel) : Channel := channel.emit .closed

/-- This is the listener `channel_state_changed` of the provider. -/
def channelStateChanged (channel : Channel) : Channel :=
  if channel.state.terminal ∧ channel.forceClose = false then
    { channel.emit .channelReleased with providerListening := false }
  else channel

/-- This is `channel_invoke_state_listener`. -/
def invokeStateListener (channel : Channel) : Channel :=
  let channel := if channel.state.terminal then channel.close else channel
  let channel := channel.emit (.onStateChanged channel.state)
  if channel.providerListening then channel.channelStateChanged else channel

/-- This is the branch of `channel_set_state` for every state but `BELLE_SIP_CHANNEL_ERROR`. -/
def enterState (channel : Channel) (state : ChannelState) : Channel :=
  invokeStateListener { channel with state := state }

/-- This is `belle_sip_main_loop_do_later`. -/
def doLater (channel : Channel) (task : DeferredTask) : Channel :=
  { channel with deferred := channel.deferred ++ [task] }

/-- This is `belle_sip_channel_handle_error`. -/
def handleError (channel : Channel) : Channel :=
  match channel.currentPeer with
  | _ :: next :: others =>
      if channel.state ≠ .ready then
        let channel := { channel with currentPeer := next :: others }
        (channel.enterState .retry).close.doLater .connectNext
      else { channel with state := .error }.doLater .invokeStateListenerDefered
  | _ => { channel with state := .error }.doLater .invokeStateListenerDefered

/-- This is `channel_set_state`. -/
def setState (channel : Channel) (state : ChannelState) : Channel :=
  if state = .error then channel.handleError else channel.enterState state

/-- A channel that has received nothing for this many milliseconds is suspect. -/
def tooLong : Nat := 60 * 1000

/-- This is `belle_sip_channel_notify_timeout`. -/
def notifyTimeout (channel : Channel) (now : Nat) : Channel × Bool :=
  if tooLong ≤ now - channel.lastRecvTime then (channel.setState .error, true)
  else (channel, false)

end Channel

end BelleSip
