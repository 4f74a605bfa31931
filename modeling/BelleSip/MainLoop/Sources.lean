import BelleSip.Foundation.Machine
import BelleSip.Utils.Links

/-
This file models the sources of the main loop of `belle_sip_loop.c` and its iterations over `poll`. The application has
the control before an iteration and inside of each callback, and it calls the functions of the loop in any order.
-/

namespace BelleSip.MainLoop

open Foundation

def eventRead : Nat := 1

def eventTimeout : Nat := 8

/-- This is `belle_sip_source_t` without its list element. -/
structure Source where
  fd : Int := -1
  events : Nat := 0
  revents : Nat := 0
  timeout : Int := 0
  expireMs : Int := 0
  index : Nat := 0
  cancelled : Bool := false
  expired : Bool := false
  oneshot : Bool := false
  notifyRequired : Bool := false
deriving DecidableEq, Repr

/-- What a `belle_sip_source_func_t` returns. -/
inductive Result where
  | stop
  | continued
  | continuedWithoutCatchup
deriving DecidableEq, Repr

/-- A function of the loop that is being executed: the callback `on_remove` of a source that is removed, or an
iteration, with the time `cur` and the rest of `to_be_notified`, before a source, in its callback `notify`, or behind
it. -/
inductive Frame where
  | removing (source : Nat)
  | iterating (queue : List Nat) (cur : Int)
  | notifying (source : Nat) (queue : List Nat) (cur : Int)
  | finishing (source : Nat) (queue : List Nat) (cur : Int)
deriving DecidableEq, Repr

/-- The main loop with the sources that were ever created, the references to them and those that the application holds.
A source without references is destroyed. `notified` and `revoked` have the sources that were notified, and those that
were removed or cancelled, since the last selection. -/
structure Loop where
  created : Nat := 0
  source : Nat → Source := fun _ => {}
  refs : Nat → Nat := fun _ => 0
  held : Nat → Nat := fun _ => 0
  links : Links Nat := fun _ => {}
  sources : Option Nat := none
  nsources : Int := 0
  inIterate : Bool := false
  frames : List Frame := []
  notified : List Nat := []
  revoked : List Nat := []

namespace Loop

variable (loop : Loop)

def live (source : Nat) : Bool := 0 < loop.refs source

def modify (source : Nat) (change : Source → Source) : Loop :=
  { loop with source := Function.update loop.source source (change (loop.source source)) }

def access (source : Nat) : Checked Unit := Links.access loop.live source

def setFrames (frames : List Frame) : Loop := { loop with frames }

/-- A reference is taken. -/
def ref (source : Nat) : Checked Loop := do
  loop.access source
  return { loop with refs := Function.update loop.refs source (loop.refs source + 1) }

/-- A reference is dropped; `belle_sip_source_destroy` stops the program for a source that has neighbours. -/
def unref (source : Nat) : Checked Loop := do
  loop.access source
  if loop.refs source = 1 ∧ loop.links source ≠ {} then .error .fatal
  else return { loop with refs := Function.update loop.refs source (loop.refs source - 1) }

/-- This is `belle_sip_main_loop_remove_source` until it has called `on_remove`. -/
def removeSource (source : Nat) : Checked Loop := do
  loop.access source
  if loop.links source = {} ∧ loop.sources ≠ some source then return loop
  let removed ← Links.removeLink loop.live loop.links loop.sources source
  let cancelled := loop.modify source fun source => { source with cancelled := true }
  return { cancelled with
    links := removed.1
    sources := removed.2
    nsources := loop.nsources - 1
    frames := .removing source :: loop.frames
    revoked := source :: loop.revoked }

/-- This is `belle_sip_main_loop_add_source`. The walk to the end of the list is over the sources that were created. -/
def addSource (source : Nat) (now : Int) : Checked Loop := do
  loop.access source
  if loop.links source ≠ {} then .error .fatal
  else
    let referred ← loop.ref source
    let expiring := referred.modify source fun source =>
      { source with
        expireMs := if 0 ≤ source.timeout then now + source.timeout else source.expireMs
        cancelled := false }
    let appended ← Links.appendLink expiring.live loop.links loop.created loop.sources source
    return { expiring with links := appended.1, sources := appended.2, nsources := loop.nsources + 1 }

/-- The new source of `belle_sip_socket_source_new`, `belle_sip_fd_source_new` and `belle_sip_timeout_source_new`, with
the reference of the application. -/
def newSource (fd : Int) (events : Nat) (timeout : UInt32) : Loop :=
  { loop with
    created := loop.created + 1
    source := Function.update loop.source loop.created { fd, events, timeout := timeout.toBitVec.toInt }
    refs := Function.update loop.refs loop.created 1
    held := Function.update loop.held loop.created 1 }

/-- The application drops one of its references. -/
def drop (source : Nat) : Checked Loop :=
  Loop.unref { loop with held := Function.update loop.held source (loop.held source - 1) } source

/-- This is `belle_sip_main_loop_do_later`. -/
def doLater (now : Int) : Checked Loop := do
  let added ← (loop.newSource (-1) 0 0).addSource loop.created now
  (added.modify loop.created fun source => { source with oneshot := true }).drop loop.created

/-- This is `belle_sip_main_loop_cancel_source`. -/
def cancelSource (source : Nat) : Checked Loop := do
  let elems ← Links.elements loop.live loop.links loop.created loop.sources
  if source ∈ elems then
    let cancelled := loop.modify source fun source => { source with cancelled := true }
    return { cancelled with revoked := source :: loop.revoked }
  else return loop

/-- An entry of the table of `poll`. -/
structure PollFd where
  fd : Int
  events : Nat
deriving DecidableEq, Repr

/-- This is the loop of the first step: `belle_sip_source_to_poll` writes the entries of a table with room for
`size` of them. -/
def prepare (size : Int) (loop : Loop) (table : List PollFd) : List Nat → Checked (Loop × List PollFd)
  | [] => .ok (loop, table)
  | source :: rest => do
      loop.access source
      let found := loop.source source
      if !found.cancelled && found.fd ≠ -1 then
        if (table.length : Int) < size then
          prepare size (loop.modify source fun source => { source with index := table.length })
            (table ++ [{ fd := found.fd, events := found.events }]) rest
        else .error .nullPointer
      else prepare size loop table rest

/-- This is `belle_sip_source_get_revents`, with the results of `poll` for the entries of the table. -/
def getRevents (table : List PollFd) (polled : Nat → Nat) (source : Source) : Checked Nat :=
  if source.index < table.length then .ok (polled source.index) else .error .nullPointer

/-- The events of a source with a descriptor. -/
def pollSource (table : List PollFd) (polled : Nat → Nat) (source : Source) : Checked Source :=
  if source.fd = -1 then .ok source
  else if source.notifyRequired then .ok { source with revents := eventRead, notifyRequired := false }
  else do
    let revents ← getRevents table polled source
    return { source with revents }

/-- The local variable `revents` is zero for a source without a descriptor. -/
def isDue (cur : Int) (source : Source) : Bool :=
  (source.fd ≠ -1 && source.revents ≠ 0) || (0 ≤ source.timeout && source.expireMs ≤ cur)

def expire (source : Source) : Source :=
  { source with expired := true, revents := if source.revents = 0 then eventTimeout else source.revents }

/-- This is the loop of the second step, with the sources to be notified. -/
def examine (table : List PollFd) (polled : Nat → Nat) (cur : Int) (loop : Loop) (queue : List Nat) :
    List Nat → Checked (Loop × List Nat)
  | [] => .ok (loop, queue)
  | source :: rest => do
      loop.access source
      if (loop.source source).cancelled then
        let referred ← loop.ref source
        examine table polled cur referred (queue ++ [source]) rest
      else
        let found ← pollSource table polled (loop.source source)
        if isDue cur found then
          let referred ← (loop.modify source fun _ => expire found).ref source
          examine table polled cur referred (queue ++ [source]) rest
        else examine table polled cur (loop.modify source fun _ => found) queue rest

/-- This is `belle_sip_main_loop_iterate` until its third step. `poll` fails or gives the events of each entry. -/
def iterate (polled : Option (Nat → Nat)) (cur : Int) : Checked Loop :=
  if loop.inIterate then .ok loop
  else do
    let elems ← Links.elements loop.live loop.links loop.created loop.sources
    let prepared ← prepare loop.nsources loop [] elems
    match polled with
    | none => return prepared.1
    | some polled =>
        let selected ← examine prepared.2 polled cur prepared.1 [] elems
        return { selected.1 with
          inIterate := true
          frames := .iterating selected.2 cur :: selected.1.frames
          notified := []
          revoked := [] }

/-- A timeout is started again. -/
def restart (result : Result) (cur : Int) (source : Source) : Source :=
  if source.revents = eventTimeout then
    { source with
      expireMs := if result = .continuedWithoutCatchup then cur + source.timeout else source.expireMs + source.timeout
      expired := false }
  else source

/-- The functions of the loop that are being executed go on: a callback returns, or the third step of an iteration
turns to the next source. -/
def proceed (result : Result) : Checked Loop :=
  match loop.frames with
  | [] => .ok loop
  | .removing source :: frames => (loop.setFrames frames).unref source
  | .iterating [] _ :: frames => .ok { loop with frames, inIterate := false }
  | .iterating (source :: queue) cur :: frames => do
      loop.access source
      if (loop.source source).cancelled then
        (loop.setFrames (.finishing source queue cur :: frames)).removeSource source
      else
        return { loop with
          frames := .notifying source queue cur :: frames
          notified := source :: loop.notified }
  | .notifying source queue cur :: frames => do
      loop.access source
      if result = .stop ∨ (loop.source source).oneshot then
        (loop.setFrames (.finishing source queue cur :: frames)).removeSource source
      else
        return (loop.setFrames (.finishing source queue cur :: frames)).modify source (restart result cur)
  | .finishing source queue cur :: frames => (loop.setFrames (.iterating queue cur :: frames)).unref source

/-- The application has the control. -/
def inApplication : Bool :=
  match loop.frames with
  | [] => true
  | .removing _ :: _ => true
  | .notifying .. :: _ => true
  | _ => false

end Loop

/-- What the application does where it has the control, and the return to the functions of the loop. -/
inductive Event where
  | newSource (fd : Int) (events : Nat) (timeout : UInt32)
  | ref (source : Nat)
  | unref (source : Nat)
  | sourceInit (source : Nat) (fd : Int) (events : Nat) (timeout : UInt32)
  | setTimeout (source : Nat) (value : UInt32) (now : Int)
  | setNotifyRequired (source : Nat)
  | addSource (source : Nat) (now : Int)
  | removeSource (source : Nat)
  | cancelSource (source : Nat)
  | doLater (now : Int)
  | iterate (polled : Option (Nat → Nat)) (cur : Int)
  | proceed (result : Result)

namespace Loop

variable (loop : Loop)

/-- This is `belle_sip_source_set_timeout`. -/
def setTimeout (source : Nat) (value : UInt32) (now : Int) : Loop :=
  loop.modify source fun source =>
    { source with
      expireMs := if source.expired then source.expireMs else now + value.toNat
      timeout := value.toBitVec.toInt }

/-- This is `belle_sip_source_init` for a source that is in use. -/
def sourceInit (source : Nat) (fd : Int) (events : Nat) (timeout : UInt32) : Loop :=
  loop.modify source fun source => { source with fd, events, timeout := timeout.toBitVec.toInt }

/-- The application uses sources that are not destroyed, and drops references that it holds. -/
def act : Event → Checked Loop
  | .newSource fd events timeout => .ok (loop.newSource fd events timeout)
  | .ref source =>
      if loop.live source then do
        let referred ← loop.ref source
        return { referred with held := Function.update loop.held source (loop.held source + 1) }
      else .ok loop
  | .unref source => if 0 < loop.held source then loop.drop source else .ok loop
  | .sourceInit source fd events timeout =>
      .ok (if loop.live source then loop.sourceInit source fd events timeout else loop)
  | .setTimeout source value now => .ok (if loop.live source then loop.setTimeout source value now else loop)
  | .setNotifyRequired source =>
      .ok (if loop.live source then loop.modify source fun source => { source with notifyRequired := true } else loop)
  | .addSource source now => if loop.live source then loop.addSource source now else .ok loop
  | .removeSource source => if loop.live source then loop.removeSource source else .ok loop
  | .cancelSource source => loop.cancelSource source
  | .doLater now => loop.doLater now
  | .iterate polled cur => loop.iterate polled cur
  | .proceed result => loop.proceed result

end Loop

/-- One step; only the functions of the loop go on where the application does not have the control. -/
def step (loop : Checked Loop) (event : Event) : Checked Loop := do
  let loop ← loop
  match event with
  | .proceed result => loop.proceed result
  | event => if loop.inApplication then loop.act event else return loop

end BelleSip.MainLoop
