import BelleSip.Transaction.Callbacks

/-
This file states what it means that a transaction that has terminated is silent, and proves what its functions keep
while it has not.
-/

namespace BelleSip

open Foundation
open Foundation.Checked (OnReturn)
open Foundation.Reentrance (Frame Config Program)

namespace Callbacks

/-- The calls that tell the listeners that the transaction has terminated. -/
def notices (listeners : List Listener) : List Action :=
  listeners.map fun listener => .invoke .processTransactionTerminated listener.id

namespace Transaction

/-- No timer is armed, and what the transaction has done since its end are the first calls of a single notice. -/
structure Silent (t : Transaction) : Prop where
  unarmed : t.sources = []
  single : t.announced.length ≤ 1
  silent : t.afterwards <+: t.announced.flatMap notices

/-- Each listener has been told once that the transaction has terminated. -/
structure Told (t : Transaction) : Prop where
  single : t.announced.length = 1
  told : t.afterwards = t.announced.flatMap notices

/-- The work that is left does nothing for a transaction that has terminated: it calls no listener and starts no
timer. -/
def Harmless (t : Transaction) : Frame Task → Prop
  | .task (.invoke callback listeners) => listeners = [] ∨ callback = .processTransactionTerminated
  | .task (.invokeListeners callback) => t.listening callback = []
  | .task .reportTimeout => t.timedOut = false ∨ t.listening .processTimeout = []
  | .task .startTimerD => False
  | .task .finishCompleted => t.kind = .nict ∧ t.channel.all (·.reliable)
  | .task (.send _ _) => False
  | .task (.begin _) => t.kind.isClient ∨ t.known = 0
  | _ => True

/-- A BYE without response leaves a confirmed dialog whose queue is not empty. -/
def leavesQueue (t : Transaction) : Bool :=
  t.lastResponse.isNone && t.request.method = "BYE" &&
    t.dialog.any fun dialog => dialog.state = .confirmed && dialog.terminateOnBye && !dialog.queuedCt.isEmpty

end Transaction

/-- The transaction does not terminate while a function that has called outside code has still a listener to call or
the timer D or K to start, nor with timers armed when it leaves queued transactions. Once it has terminated, the end of
its channel finds no timeout to report, and no listener is added for which calls are left. -/
def Guard (t : Transaction) (task : Task) (rest : List (Frame Task)) : Prop :=
  match task with
  | .terminate =>
      t.state ≠ .terminated → (∀ frame ∈ rest, t.Harmless frame) ∧ (t.leavesQueue = true → t.sources = [])
  | .enter .channelEnded => t.state = .terminated → t.Harmless (.task .reportTimeout)
  | .enter (.setListeners listeners) =>
      t.state = .terminated → ∀ frame ∈ rest, { t with listeners := listeners }.Harmless frame
  | _ => True

/-- Outside code finds a transaction that has terminated silent, and when nothing is pending, its listeners have been
told. -/
def Quiet (config : Config Transaction Task) : Prop :=
  config.state.state = .terminated → config.Waits →
    config.state.Silent ∧ (config.stack = [] → config.state.Told)

/-- The work that the end of the transaction itself leaves is not plain. -/
def Plain (kind : Kind) : Frame Task → Prop
  | .task .onTerminate => False
  | .task .setTransactionTerminated => False
  | .task .removeTransaction => False
  | .task (.invoke callback _) => callback ≠ .processTransactionTerminated
  | .task (.invokeListeners callback) => callback ≠ .processTransactionTerminated
  | .task (.send _ _) => kind.isClient = true
  | _ => True

namespace Transaction

/-- A transaction that has not terminated: the sources of the main loop are timers that it points to. -/
structure Alive (kind : Kind) (t : Transaction) : Prop where
  kind : t.kind = kind
  live : t.state ≠ .terminated
  silent : t.afterwards = []
  unannounced : t.announced = []
  armed : t.sources ⊆ t.timers
  once : t.kind.isClient = false → t.known ≤ 1

/-- A part of the work leaves the transaction alive, with plain work to do. -/
def Lives (kind : Kind) (part : Part) : Prop :=
  OnReturn part fun (after, frames) => after.Alive kind ∧ ∀ frame ∈ frames, Plain kind frame

variable {kind : Kind} {t : Transaction}

namespace Alive

/-- The other fields may change. -/
theorem same {after : Transaction} (alive : t.Alive kind) (sameKind : after.kind = t.kind)
    (state : after.state = t.state) (afterwards : after.afterwards = t.afterwards)
    (announced : after.announced = t.announced) (timers : after.timers = t.timers) (sources : after.sources = t.sources)
    (known : after.known = t.known) : after.Alive kind where
  kind := sameKind.trans alive.kind
  live := by rw [state]; exact alive.live
  silent := afterwards.trans alive.silent
  unannounced := announced.trans alive.unannounced
  armed := by rw [sources, timers]; exact alive.armed
  once := by rw [sameKind, known]; exact alive.once

theorem move (alive : t.Alive kind) (state : TransactionState) (live : state ≠ .terminated) :
    { t with state := state }.Alive kind :=
  ⟨alive.kind, live, alive.silent, alive.unannounced, alive.armed, alive.once⟩

theorem startTimer (alive : t.Alive kind) (timer : Timer) : (t.startTimer timer).Alive kind where
  kind := alive.kind
  live := alive.live
  silent := alive.silent
  unannounced := alive.unannounced
  armed := List.cons_subset_cons timer alive.armed
  once := alive.once

theorem stopTimer (alive : t.Alive kind) (timer : Timer) : (t.stopTimer timer).Alive kind := by
  unfold Transaction.stopTimer
  split
  · exact ⟨alive.kind, alive.live, alive.silent, alive.unannounced, List.filter_subset _ alive.armed, alive.once⟩
  · exact alive

theorem record (alive : t.Alive kind) (action : Action) : t.record action = t := if_neg alive.live

/-- A part that does no more. -/
theorem rest (alive : t.Alive kind) : Lives kind (.ok (t, [])) := ⟨alive, List.forall_mem_nil _⟩

theorem queueMessage (alive : t.Alive kind) (message : Message) :
    OnReturn (t.queueMessage message) (Alive kind) := by
  unfold Transaction.queueMessage
  apply Checked.onReturn_bind.mpr
  refine Checked.onReturn_deref.mpr fun _ _ => ?_
  have queued : { t with queued := t.queued ++ [message] }.Alive kind := { alive with }
  rw [queued.record]
  exact queued

theorem queueLastResponse (alive : t.Alive kind) : OnReturn t.queueLastResponse (Alive kind) := by
  unfold Transaction.queueLastResponse
  apply Checked.onReturn_bind.mpr
  exact Checked.onReturn_deref.mpr fun resp _ => alive.queueMessage (.response resp)

/-- A message is queued, and nothing more is done. -/
theorem queues {queued : Checked Transaction} (alive : OnReturn queued (Alive kind)) :
    Lives kind (do let t ← queued; return (t, [])) :=
  Checked.onReturn_bind.mpr (alive.mono fun _ alive => alive.rest)

end Alive

theorem dropped_plain {before after : Dialog} : ∀ frame ∈ dropped before after, Plain kind frame := by
  unfold dropped
  split
  · exact List.forall_mem_nil _
  · exact List.forall_mem_singleton.mpr trivial

namespace Alive

theorem updateDialog (alive : t.Alive kind) (asUas : Bool) : Lives kind (t.updateDialog asUas) := by
  unfold Transaction.updateDialog
  split
  · exact alive.rest
  · next dialog _ =>
      apply Checked.onReturn_bind.mpr
      cases dialog.update 0 t.request t.lastResponse (t.state = .terminated) asUas with
      | error fault => trivial
      | ok result =>
          exact ⟨alive.same rfl rfl rfl rfl rfl rfl rfl, dropped_plain⟩

theorem notifyTimeout (alive : t.Alive kind) (suspect : Bool) : Lives kind (t.notifyTimeout suspect) := by
  unfold Transaction.notifyTimeout
  split
  · exact ⟨alive.same rfl rfl rfl rfl rfl rfl rfl, List.forall_mem_nil _⟩
  · refine ⟨alive, ?_⟩
    simp [Plain]

theorem createDialog (alive : t.Alive kind) : t.createDialog.1.Alive kind := by
  unfold Transaction.createDialog
  split
  · exact alive
  · exact alive.same rfl rfl rfl rfl rfl rfl rfl

theorem chooseDialog (alive : t.Alive kind) (resp : Response) (found : Option Dialog) :
    OnReturn (t.chooseDialog resp found) fun result => result.1.Alive kind := by
  unfold Transaction.chooseDialog
  split
  · next dialog _ =>
      split
      · apply Checked.onReturn_bind.mpr
        cases dialog.matchMessage resp.toHeaders false with
        | error fault => trivial
        | ok matches' =>
            cases matches' with
            | true => exact alive
            | false =>
                cases found with
                | none => exact alive.createDialog
                | some other => exact alive
      · exact alive
  · split
    · exact alive.createDialog
    · exact alive

theorem reportResponse_plain (inDialog : Bool) : ∀ frame ∈ t.reportResponse inDialog, Plain kind frame := by
  unfold Transaction.reportResponse
  refine List.forall_mem_cons.mpr ⟨by simp [Plain], ?_⟩
  split
  · exact List.forall_mem_singleton.mpr trivial
  · exact List.forall_mem_nil _

theorem notifyResponse (alive : t.Alive kind) (resp : Response) (found : Option Dialog) :
    Lives kind (t.notifyResponse resp found) := by
  unfold Transaction.notifyResponse
  apply Checked.onReturn_bind.mpr
  have answered : { t with lastResponse := some resp }.Alive kind :=
    alive.same rfl rfl rfl rfl rfl rfl rfl
  apply (answered.chooseDialog resp found).mono
  intro (t, chosen) alive
  cases chosen with
  | none => exact ⟨alive, reportResponse_plain false⟩
  | some chosen =>
      obtain ⟨dialog, own⟩ := chosen
      apply Checked.onReturn_bind.mpr
      cases dialog.update 0 t.request (some resp) (t.state = .terminated) false with
      | error fault => trivial
      | ok result =>
          obtain ⟨after, retransmission⟩ := result
          have updated : (if own then { t with dialog := some after } else t).Alive kind := by
            split
            · exact alive.same rfl rfl rfl rfl rfl rfl rfl
            · exact alive
          cases retransmission with
          | true => exact ⟨updated, dropped_plain⟩
          | false => exact ⟨updated, List.forall_mem_append.mpr ⟨dropped_plain, reportResponse_plain true⟩⟩

/-- A part whose frames are followed by more plain work. -/
theorem followed {part : Part} {more : List (Frame Task)} (lives : Lives kind part)
    (plain : ∀ frame ∈ more, Plain kind frame) :
    Lives kind (do let (t, frames) ← part; return (t, frames ++ more)) := by
  apply Checked.onReturn_bind.mpr
  apply lives.mono
  intro (t, frames) ⟨alive, before⟩
  exact ⟨alive, List.forall_mem_append.mpr ⟨before, plain⟩⟩

theorem ictProceed (alive : t.Alive kind) (resp : Response) (found : Option Dialog) :
    Lives kind (t.ictProceed resp found) := by
  unfold Transaction.ictProceed
  split
  · apply Checked.onReturn_bind.mpr
    have completed : { t with state := .completed, ack := true }.Alive kind :=
      (alive.move .completed (by decide)).same rfl rfl rfl rfl rfl rfl rfl
    apply (completed.queueMessage .ack).mono
    intro t alive
    exact followed (alive.notifyResponse resp found) (List.forall_mem_singleton.mpr trivial)
  · split
    · exact ((alive.startTimer .m).move _ (by decide)).notifyResponse resp found
    · split
      · exact alive.notifyResponse resp found
      · exact alive.rest

theorem ictOnResponse (alive : t.Alive kind) (resp : Response) (found : Option Dialog) :
    Lives kind (t.ictOnResponse resp found) := by
  unfold Transaction.ictOnResponse
  split
  · exact (alive.move _ (by decide)).ictProceed resp found
  · exact alive.ictProceed resp found
  · split
    · exact alive.notifyResponse resp found
    · exact alive.rest
  · split
    · exact queues (alive.queueMessage .ack)
    · exact alive.rest
  · exact alive.rest

theorem nictSetCompleted (alive : t.Alive kind) (resp : Response) (found : Option Dialog) :
    Lives kind (t.nictSetCompleted resp found) := by
  unfold Transaction.nictSetCompleted
  split
  · trivial
  · exact followed ((alive.move _ (by decide)).notifyResponse resp found) (List.forall_mem_singleton.mpr trivial)

theorem nictOnResponse (alive : t.Alive kind) (resp : Response) (found : Option Dialog) :
    Lives kind (t.nictOnResponse resp found) := by
  unfold Transaction.nictOnResponse
  split
  · split
    · exact (alive.move _ (by decide)).notifyResponse resp found
    · exact alive.nictSetCompleted resp found
  · split
    · exact alive.nictSetCompleted resp found
    · exact alive.rest
  · exact alive.rest

theorem onResponse (alive : t.Alive kind) (resp : Response) (found : Option Dialog) :
    Lives kind (t.onResponse resp found) := by
  unfold Transaction.onResponse
  split
  · exact alive.ictOnResponse resp found
  · exact alive.nictOnResponse resp found
  · exact alive.rest

theorem finishCompleted (alive : t.Alive kind) : Lives kind t.finishCompleted := by
  unfold Transaction.finishCompleted
  apply Checked.onReturn_bind.mpr
  apply Checked.onReturn_deref.mpr
  intro channel _
  split
  · exact ⟨alive, List.forall_mem_singleton.mpr trivial⟩
  · exact (alive.startTimer .k).rest

theorem sendRequest (alive : t.Alive kind) : Lives kind t.sendRequest := by
  unfold Transaction.sendRequest
  split
  · unfold ictSendRequest
    apply Checked.onReturn_bind.mpr
    apply Checked.onReturn_deref.mpr
    intro channel _
    have calling := alive.move .calling (by decide)
    apply queues
    apply (startTimer _ .b).queueMessage .request
    split
    · exact calling
    · exact calling.startTimer .a
  · unfold nictSendRequest
    apply Checked.onReturn_bind.mpr
    apply Checked.onReturn_deref.mpr
    intro channel _
    have limited := (alive.move .trying (by decide)).startTimer .f
    apply queues
    apply queueMessage
    split
    · exact limited
    · exact limited.startTimer .e
  · exact alive.rest

theorem send (alive : t.Alive kind) (client : kind.isClient = true) (outlet : Outlet)
    (channel : Server.PeerChannel) : Lives kind (t.send outlet channel) := by
  have listed : { t with known := t.known + 1 }.Alive kind := by
    refine ⟨alive.kind, alive.live, alive.silent, alive.unannounced, alive.armed, ?_⟩
    intro server
    rw [← alive.kind] at client
    exact absurd (server.symm.trans client) (by decide)
  have connected : { t with known := t.known + 1, channel := some channel }.Alive kind :=
    listed.same rfl rfl rfl rfl rfl rfl rfl
  cases outlet with
  | ready => exact connected.sendRequest
  | connecting => exact ⟨connected, List.forall_mem_singleton.mpr trivial⟩
  | badUris => exact ⟨listed, List.forall_mem_singleton.mpr trivial⟩
  | noChannel => exact ⟨listed, List.forall_mem_singleton.mpr trivial⟩

theorem sendRequestTo (alive : t.Alive kind) (client : kind.isClient = true) (outlet : Outlet)
    (channel : Server.PeerChannel) (busy : Bool) : Lives kind (t.sendRequestTo outlet channel busy) := by
  unfold Transaction.sendRequestTo
  split
  · exact alive.rest
  · split
    · exact alive.rest
    · exact followed (alive.updateDialog false) (List.forall_mem_singleton.mpr client)

theorem onChannelEnded (alive : t.Alive kind) : Lives kind t.onChannelEnded := by
  refine ⟨alive, List.forall_mem_append.mpr ⟨?_, by simp [Plain]⟩⟩
  split
  · exact List.forall_mem_singleton.mpr (by simp [Plain])
  · exact List.forall_mem_nil _

theorem istSendNewResponse (alive : t.Alive kind) (resp : Response) :
    OnReturn (t.istSendNewResponse resp) fun result => result.1.Alive kind := by
  unfold Transaction.istSendNewResponse
  split
  · apply Checked.onReturn_bind.mpr
    apply (alive.queueMessage (.response resp)).mono
    intro t alive
    split
    · exact (alive.move _ (by decide)).startTimer .l
    · split
      · apply Checked.onReturn_bind.mpr
        apply Checked.onReturn_deref.mpr
        intro channel _
        have completed := alive.move .completed (by decide)
        apply startTimer
        split
        · exact completed
        · exact completed.startTimer .g
      · exact alive
  · exact alive
  · exact alive

theorem nistProceed (alive : t.Alive kind) (resp : Response) :
    OnReturn (t.nistProceed resp) fun result => result.1.Alive kind := by
  unfold Transaction.nistProceed
  apply Checked.onReturn_bind.mpr
  apply (queueMessage _ (.response resp)).mono
  · exact fun _ alive => alive
  · split
    · exact (alive.startTimer .j).move _ (by decide)
    · exact alive

theorem nistSendNewResponse (alive : t.Alive kind) (resp : Response) :
    OnReturn (t.nistSendNewResponse resp) fun result => result.1.Alive kind := by
  unfold Transaction.nistSendNewResponse
  split
  · split
    · apply Checked.onReturn_bind.mpr
      exact ((alive.move _ (by decide)).queueMessage (.response resp)).mono fun _ alive => alive
    · exact alive.nistProceed resp
  · exact alive.nistProceed resp
  · exact alive
  · exact alive

theorem sendOnChannel (alive : t.Alive kind) (resp : Response) : Lives kind (t.sendOnChannel resp) := by
  unfold Transaction.sendOnChannel
  apply Checked.onReturn_bind.mpr
  cases t.complete resp with
  | error fault => trivial
  | ok resp =>
      have sent : OnReturn (t.sendNewResponse resp) fun result => result.1.Alive kind := by
        unfold sendNewResponse
        split
        · exact alive.istSendNewResponse resp
        · exact alive.nistSendNewResponse resp
        · exact alive
      apply Checked.onReturn_bind.mpr
      apply sent.mono
      intro (t, ret) alive
      apply updateDialog
      split
      · exact alive.same rfl rfl rfl rfl rfl rfl rfl
      · exact alive

theorem sendResponse (alive : t.Alive kind) (resp : Response) (channel : Option Server.PeerChannel) :
    Lives kind (t.sendResponse resp channel) := by
  unfold Transaction.sendResponse
  split
  · exact alive.sendOnChannel resp
  · apply rest
    exact alive.same rfl rfl rfl rfl rfl rfl rfl
  · apply sendOnChannel
    exact alive.same rfl rfl rfl rfl rfl rfl rfl

theorem processAck (alive : t.Alive kind) :
    OnReturn t.processAck fun (after, frames, _) => after.Alive kind ∧ ∀ frame ∈ frames, Plain kind frame := by
  unfold Transaction.processAck
  split
  · apply Checked.onReturn_bind.mpr
    apply Checked.onReturn_deref.mpr
    intro channel _
    have confirmed := (alive.stopTimer .g).move .confirmed (by decide)
    split
    · exact ⟨confirmed, List.forall_mem_singleton.mpr trivial⟩
    · exact ⟨confirmed.startTimer .i, List.forall_mem_nil _⟩
  · exact ⟨alive, List.forall_mem_nil _⟩
  · exact ⟨alive, List.forall_mem_nil _⟩

theorem reportAck (alive : t.Alive kind) (req : Request) : Lives kind (t.reportAck req) := by
  unfold Transaction.reportAck
  split
  · exact alive.rest
  · next dialog _ =>
      apply Checked.onReturn_bind.mpr
      cases dialog.handleAck req with
      | error fault => trivial
      | ok result =>
          refine ⟨alive.same rfl rfl rfl rfl rfl rfl rfl, ?_⟩
          split
          · exact List.forall_mem_singleton.mpr (by simp [Plain])
          · exact List.forall_mem_nil _

theorem onRequest (alive : t.Alive kind) (req : Request) : Lives kind (t.onRequest req) := by
  unfold Transaction.onRequest
  split
  · split
    · apply Checked.onReturn_bind.mpr
      apply alive.processAck.mono
      intro (t, frames, reported) ⟨alive, plain⟩
      change Lives kind (if reported then t.reportAck req else return (t, frames))
      split
      · exact alive.reportAck req
      · exact ⟨alive, plain⟩
    · exact alive.rest
  · split
    · exact ⟨alive, List.forall_mem_singleton.mpr (by simp [Plain])⟩
    · unfold onRequestRetransmission
      split
      · exact queues alive.queueLastResponse
      · exact queues alive.queueLastResponse
      · exact alive.rest

theorem stop {part : Part} (lives : Lives kind part) (timer : Timer) : Lives kind (Transaction.stop timer part) :=
  followed lives (List.forall_mem_singleton.mpr trivial)

/-- A part that asks for the end of the transaction. -/
theorem asks (alive : t.Alive kind) : Lives kind (.ok (t, [.task .terminate])) :=
  ⟨alive, List.forall_mem_singleton.mpr trivial⟩

theorem onTimer (alive : t.Alive kind) (timer : Timer) (suspect : Bool) :
    Lives kind (t.onTimer timer suspect) := by
  have ended : ∀ (state : TransactionState) (timer : Timer), Lives kind
      (Transaction.stop timer (if t.state = state then return (t, [.task .terminate]) else return (t, []))) := by
    intro state timer
    apply stop
    split
    · exact alive.asks
    · exact alive.rest
  have retransmitted : Lives kind t.retransmit := queues (alive.queueMessage .request)
  unfold Transaction.onTimer
  split
  · split
    · exact retransmitted
    · exact alive.rest
  · apply stop
    split
    · exact alive.notifyTimeout suspect
    · exact alive.rest
  · exact ended .completed .d
  · exact ended .accepted .m
  · split
    · exact retransmitted
    · exact stop alive.rest .e
  · apply stop
    split
    · exact alive.notifyTimeout suspect
    · exact alive.rest
  · split
    · exact queues alive.queueLastResponse
    · exact stop alive.rest .g
  · exact ended .completed .h
  · exact stop alive.asks .k
  · exact stop alive.asks .i
  · exact stop alive.asks .l
  · exact stop alive.asks .j

theorem onChannelReady (alive : t.Alive kind) : Lives kind t.onChannelReady := by
  unfold Transaction.onChannelReady
  split
  · exact alive.sendRequest
  · exact alive.rest

theorem enter (alive : t.Alive kind) (call : Call) : Lives kind (t.enter call) := by
  unfold Transaction.enter
  split
  · exact alive.asks
  · next outlet channel busy =>
      split
      · next client => exact alive.sendRequestTo (by rw [← alive.kind]; exact client) outlet channel busy
      · exact alive.rest
  · next resp channel =>
      split
      · exact alive.rest
      · exact alive.sendResponse resp channel
  · split
    · exact alive.onChannelReady
    · exact alive.rest
  · split
    · exact alive.onChannelEnded
    · exact alive.rest
  · apply rest
    exact alive.same rfl rfl rfl rfl rfl rfl rfl
  · apply rest
    exact alive.same rfl rfl rfl rfl rfl rfl rfl

theorem begin (alive : t.Alive kind) (event : Event) : Lives kind (t.begin event) := by
  unfold Transaction.begin
  split
  · next timer suspect =>
      split
      · exact alive.onTimer timer suspect
      · exact alive.rest
  · next resp found =>
      split
      · exact alive.onResponse resp found
      · exact alive.rest
  · next req =>
      split
      · exact alive.onRequest req
      · exact alive.rest

/-- Plain work other than the end of the transaction. -/
theorem perform (alive : t.Alive kind) {task : Task} (plain : Plain kind (.task task)) (other : task ≠ .terminate) :
    Lives kind (t.perform task) := by
  cases task with
  | enter call => exact alive.enter call
  | begin event => exact alive.begin event
  | terminate => exact absurd rfl other
  | onTerminate => exact plain.elim
  | setTransactionTerminated => exact plain.elim
  | removeTransaction => exact plain.elim
  | invokeListeners callback => exact ⟨alive, List.forall_mem_singleton.mpr plain⟩
  | invoke callback listeners =>
      cases listeners with
      | nil => exact alive.rest
      | cons listener rest =>
          change Lives kind (.ok (t.record (.invoke callback listener.id), [.outside, .task (.invoke callback rest)]))
          rw [alive.record]
          refine ⟨alive, ?_⟩
          exact List.forall_mem_cons.mpr ⟨trivial, List.forall_mem_singleton.mpr plain⟩
  | send outlet channel => exact alive.send plain outlet channel
  | startTimerD => exact (alive.startTimer .d).rest
  | finishCompleted => exact alive.finishCompleted
  | reportTimeout =>
      refine ⟨alive, ?_⟩
      split
      · exact List.forall_mem_singleton.mpr (by simp [Plain])
      · exact List.forall_mem_nil _
  | stopSource timer =>
      apply rest
      refine ⟨alive.kind, alive.live, alive.silent, alive.unannounced, ?_, alive.once⟩
      exact fun other among => alive.armed (List.mem_of_mem_filter among)

end Alive

end Transaction

end Callbacks

end BelleSip
