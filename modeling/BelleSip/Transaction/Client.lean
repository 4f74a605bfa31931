import BelleSip.MainLoop.Sources
import BelleSip.Transaction.Server
import Mathlib.Algebra.Ring.Int.Defs
import Mathlib.Algebra.Ring.Nat

/-
This file defines the INVITE and the non-INVITE client transactions with their timers on the main loop.
-/

namespace BelleSip

open Foundation MainLoop

namespace MainLoop

/-- This is `belle_sip_timeout_source_new`. -/
def timeoutSource (timeout : UInt32) : Source := { timeout := timeout.toBitVec.toInt }

namespace Source

/-- The part of `belle_sip_main_loop_add_source` that concerns the source. -/
def start (source : Source) (now : Int) : Source :=
  { source with
    expireMs := if 0 ≤ source.timeout then now + source.timeout else source.expireMs
    cancelled := false }

/-- This is `belle_sip_source_get_timeout`. -/
def getTimeout (source : Source) : UInt32 := UInt32.ofInt source.timeout

/-- This is `belle_sip_source_set_timeout`. -/
def setTimeout (source : Source) (value : UInt32) (now : Int) : Source :=
  { source with
    expireMs := if source.expired then source.expireMs else now + value.toNat
    timeout := value.toBitVec.toInt }

end Source

end MainLoop

namespace Client

/-- The timers of `belle_sip_ict_t` and of `belle_sip_nict_t`. -/
inductive Timer where
  | a
  | b
  | d
  | m
  | e
  | f
  | k
deriving DecidableEq, Repr

/-- The values that an application can configure: `T1*64` and `T2` are representable. -/
structure Timing extends Server.TimerConfig where
  ordered : T1 ≤ T2
  inviteTimeout : 64 * T1 < 2 ^ 31
  interval : T2 < 2 ^ 31

/-- A client transaction with its sources on the main loop, in their order there, and what its channel knows. Besides,
when the request was sent first, and when and in which states it was sent again. -/
structure Transaction where
  method : String
  state : TransactionState := .init
  sources : List (Timer × Source) := []
  timedOut : Bool := false
  reliable : Bool := false
  lastRecvTime : Int := 0
  channelError : Bool := false
  sentAt : Int := 0
  retransmissions : List (Int × TransactionState) := []
deriving DecidableEq, Repr

namespace Transaction

variable (t : Transaction)

/-- This is `belle_sip_transaction_start_timer` on a new timer. -/
def startTimer (timer : Timer) (timeout : UInt32) (now : Int) : Transaction :=
  { t with sources := t.sources ++ [(timer, (timeoutSource timeout).start now)] }

/-- This is `belle_sip_transaction_stop_timer`, or the removal of the source by the main loop. -/
def stopTimer (timer : Timer) : Transaction :=
  { t with sources := t.sources.filter fun source => source.1 ≠ timer }

def modifyTimer (timer : Timer) (change : Source → Source) : Transaction :=
  { t with sources := t.sources.map fun (name, source) =>
      if name = timer then (name, change source) else (name, source) }

/-- This is `belle_sip_transaction_terminate`; both methods `on_terminate` stop all timers. -/
def terminate : Transaction :=
  if t.state = .terminated then t else { t with state := .terminated, sources := [] }

/-- This is `belle_sip_transaction_notify_timeout`. A channel on which nothing has been received for a minute is
reported as suspect, and its listeners are told later. -/
def notifyTimeout (now : Int) : Transaction :=
  if t.method = "REGISTER" then
    if 60 * 1000 ≤ now - t.lastRecvTime then { t with timedOut := true, channelError := true } else t
  else t.terminate

/-- The request is queued again on the channel, which sends nothing after an error. -/
def retransmit (now : Int) : Transaction :=
  if t.channelError then t else { t with retransmissions := t.retransmissions ++ [(now, t.state)] }

/-- This is `ict_on_timer_A`. -/
def ictOnTimerA (source : Source) (now : Int) : Transaction × Result :=
  match t.state with
  | .calling => ((t.modifyTimer .a (·.setTimeout (2 * source.getTimeout) now)).retransmit now, .continued)
  | _ => (t, .continued)

/-- This is `ict_on_timer_B`. -/
def ictOnTimerB (now : Int) : Transaction × Result :=
  match t.state with
  | .calling => (t.notifyTimeout now, .stop)
  | _ => (t, .stop)

/-- This is `ict_on_timer_D`. -/
def ictOnTimerD : Transaction × Result := (if t.state = .completed then t.terminate else t, .stop)

/-- This is `ict_on_timer_M`. -/
def ictOnTimerM : Transaction × Result := (if t.state = .accepted then t.terminate else t, .stop)

/-- This is `nict_on_timer_E`. -/
def nictOnTimerE (timing : Timing) (source : Source) (now : Int) : Transaction × Result :=
  match t.state with
  | .trying =>
      let doubled := 2 * source.getTimeout
      let T2 := UInt32.ofNat timing.T2
      ((t.modifyTimer .e (·.setTimeout (if doubled < T2 then doubled else T2) now)).retransmit now, .continued)
  | .proceeding => ((t.modifyTimer .e (·.setTimeout (UInt32.ofNat timing.T2) now)).retransmit now, .continued)
  | _ => (t, .stop)

/-- This is `nict_on_timer_F`. -/
def nictOnTimerF (now : Int) : Transaction × Result :=
  match t.state with
  | .trying => (t.notifyTimeout now, .stop)
  | .proceeding => (t.notifyTimeout now, .stop)
  | _ => (t, .stop)

/-- This is `nict_on_timer_K`. -/
def nictOnTimerK : Transaction × Result := (t.terminate, .stop)

/-- The callback `notify` of a timer. -/
def callback (timing : Timing) (timer : Timer) (source : Source) (now : Int) : Transaction × Result :=
  match timer with
  | .a => t.ictOnTimerA source now
  | .b => t.ictOnTimerB now
  | .d => t.ictOnTimerD
  | .m => t.ictOnTimerM
  | .e => t.nictOnTimerE timing source now
  | .f => t.nictOnTimerF now
  | .k => t.nictOnTimerK

/-- The second step of an iteration: the sources that are due have expired. -/
def examine (cur : Int) : Transaction :=
  { t with sources := t.sources.map fun (name, source) =>
      if Loop.isDue cur source then (name, Loop.expire source) else (name, source) }

def due (cur : Int) : List Timer := (t.sources.filter fun source => Loop.isDue cur source.2).map Prod.fst

/-- The third step for one source. A source that has been removed in the meantime is not notified. -/
def notify (timing : Timing) (cur : Int) (timer : Timer) : Transaction :=
  match t.sources.lookup timer with
  | none => t
  | some source =>
      let (called, result) := t.callback timing timer source cur
      if result = .stop then called.stopTimer timer else called.modifyTimer timer (Loop.restart result cur)

/-- This is `belle_sip_main_loop_iterate` with the time of its second step, as the sources of the transaction see it. -/
def iterate (timing : Timing) (cur : Int) : Transaction :=
  (t.due cur).foldl (fun t timer => t.notify timing cur timer) (t.examine cur)

/-- This is `ict_send_request`. -/
def ictSendRequest (timing : Timing) (now : Int) : Transaction :=
  let calling := { t with state := .calling, sentAt := now }
  let retransmitting := if t.reliable then calling else calling.startTimer .a (UInt32.ofNat timing.T1) now
  retransmitting.startTimer .b (UInt32.ofNat (timing.T1 * 64)) now

/-- This is `nict_send_request`. -/
def nictSendRequest (timing : Timing) (now : Int) : Transaction :=
  let trying := { t with state := .trying, sentAt := now }
  let limited := trying.startTimer .f (UInt32.ofNat (timing.T1 * 64)) now
  if t.reliable then limited else limited.startTimer .e (UInt32.ofNat timing.T1) now

/-- The transaction of an INVITE is a `belle_sip_ict_t`. -/
def sendRequest (timing : Timing) (now : Int) : Transaction :=
  if t.method = "INVITE" then t.ictSendRequest timing now else t.nictSendRequest timing now

/-- This is the case `BELLE_SIP_TRANSACTION_PROCEEDING` of `ict_on_response`. -/
def ictProceed (timing : Timing) (code : Nat) (now : Int) : Transaction :=
  if 300 ≤ code then { t with state := .completed }.startTimer .d (UInt32.ofNat (timing.T1 * 64)) now
  else if 200 ≤ code then { t.startTimer .m (UInt32.ofNat (timing.T1 * 64)) now with state := .accepted }
  else t

/-- This is `ict_on_response`, without the messages to the listeners and the ACK. -/
def ictOnResponse (timing : Timing) (code : Nat) (now : Int) : Transaction :=
  match t.state with
  | .calling => { t with state := .proceeding }.ictProceed timing code now
  | .proceeding => t.ictProceed timing code now
  | _ => t

/-- This is `nict_set_completed`, without the message to the listeners. -/
def nictSetCompleted (timing : Timing) (now : Int) : Transaction :=
  if t.reliable then { t with state := .completed }.terminate
  else { t with state := .completed }.startTimer .k (UInt32.ofNat timing.T4) now

/-- This is `nict_on_response`, without the message to the listeners. -/
def nictOnResponse (timing : Timing) (code : Nat) (now : Int) : Transaction :=
  match t.state with
  | .trying => if code < 200 then { t with state := .proceeding } else t.nictSetCompleted timing now
  | .proceeding => if 200 ≤ code then t.nictSetCompleted timing now else t
  | _ => t

def onResponse (timing : Timing) (code : Nat) (now : Int) : Transaction :=
  if t.method = "INVITE" then t.ictOnResponse timing code now else t.nictOnResponse timing code now

end Transaction

/-- What happens to a transaction that has sent its request: an iteration of the main loop, a response to it, another
message on its channel, and the end of its channel. -/
inductive Event where
  | iterate (cur : Int)
  | response (code : Nat) (now : Int)
  | received (now : Int)
  | channelEnded
deriving DecidableEq, Repr

def step (timing : Timing) (t : Transaction) : Event → Transaction
  | .iterate cur => t.iterate timing cur
  | .response code now => { t with lastRecvTime := now }.onResponse timing code now
  | .received now => { t with lastRecvTime := now }
  | .channelEnded => t.terminate

end Client

end BelleSip
