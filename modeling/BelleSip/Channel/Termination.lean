import Mathlib.Data.List.Perm.Basic
import BelleSip.Channel.Life
import BelleSip.Channel.Machine
import BelleSip.Channel.Queue

/-
This file proves when a failed channel stays in its state and is reported once.
-/

namespace BelleSip

namespace Channel

/-- The number of notifications with a terminal state that listeners have received. -/
def notifications (channel : Channel) : Nat := channel.trace.countP Effect.ends

/-- The number of times the provider has dropped its reference to the channel. -/
def drops (channel : Channel) : Nat :=
  channel.trace.countP fun effect => match effect with | .channelReleased => true | _ => false

/-- The number of notifications that the main loop still has to deliver. -/
def postponed (channel : Channel) : Nat := channel.deferred.count .invokeStateListenerDefered

/-- A channel is reported once when it has ended, and never before; the provider drops it at most once
for each report. -/
structure Settled (channel : Channel) : Prop where
  once : channel.notifications + channel.postponed = if channel.state.terminal then 1 else 0
  dropped : channel.drops ≤ channel.notifications

/-- An event that sets the state of a channel that has already ended. -/
def Revives (channel : Channel) : Event → Prop
  | .resolved _ _ | .endOfStream | .receiveFailed | .inactivityTimeout | .forceClosed => True
  | .timeoutNotified now => tooLong ≤ now - channel.lastRecvTime
  | .deferred index _ => channel.deferred[index]? = some .connectNext
  | _ => False

/-- No event sets the state of a channel that has already ended. -/
def Tame (channel : Channel) (event : Event) : Prop :=
  channel.state.terminal = true → ¬Revives channel event

theorem SameLife.notifications_eq {before after : Channel} (same : SameLife before after) :
    after.notifications = before.notifications := by
  obtain ⟨effects, grown, quiet⟩ := same.grown
  have none : effects.countP Effect.ends = 0 := by
    refine List.countP_eq_zero.mpr fun effect present ends => ?_
    have silent := quiet effect present
    cases effect <;> simp_all [Effect.living, Effect.ends]
  rw [notifications, grown, List.countP_append, none, Nat.add_zero, notifications]

theorem SameLife.drops_eq {before after : Channel} (same : SameLife before after) :
    after.drops = before.drops := by
  obtain ⟨effects, grown, quiet⟩ := same.grown
  rw [drops, grown, List.countP_append, drops, Nat.add_eq_left, List.countP_eq_zero]
  intro effect present
  have silent := quiet effect present
  cases effect <;> simp_all [Effect.living]

theorem SameLife.settled {before after : Channel} (same : SameLife before after) (settled : Settled before) :
    Settled after where
  once := by rw [same.notifications_eq, postponed, same.deferred, same.state, ← settled.once, postponed]
  dropped := by rw [same.drops_eq, same.notifications_eq]; exact settled.dropped

theorem notifications_emit (channel : Channel) (effect : Effect) :
    (channel.emit effect).notifications = channel.notifications + if effect.ends then 1 else 0 := by
  simp [notifications, emit, List.countP_append, List.countP_cons]

/-- One report is made when the state is terminal, and the provider may drop the channel on it. -/
theorem invokeStateListener_counts (channel : Channel) :
    channel.invokeStateListener.notifications =
        channel.notifications + (if channel.state.terminal then 1 else 0) ∧
      channel.invokeStateListener.drops ≤
        channel.drops + (if channel.state.terminal then 1 else 0) ∧
      channel.invokeStateListener.deferred = channel.deferred := by
  cases ended : channel.state.terminal <;> cases listening : channel.providerListening <;>
    cases forced : channel.forceClose <;>
    simp [invokeStateListener, channelStateChanged, close, emit, notifications, drops, Effect.ends,
      ended, listening, forced, List.countP_append]

variable {channel : Channel}

theorem enterState_settled (settled : Settled channel) (alive : channel.state.terminal = false) (state : ChannelState) :
    Settled (channel.enterState state) := by
  have counts := invokeStateListener_counts { channel with state := state }
  have stays := invokeStateListener_state { channel with state := state }
  have once := settled.once
  have dropped := settled.dropped
  rw [alive] at once
  refine ⟨?_, ?_⟩
  · rw [enterState, counts.1, postponed, counts.2.2, stays]
    change channel.notifications + _ + channel.postponed = _
    simp at once
    omega
  · rw [enterState, counts.1]
    refine Nat.le_trans counts.2.1 ?_
    exact Nat.add_le_add_right dropped _

theorem close_settled (settled : Settled channel) : Settled channel.close where
  once := by
    rw [close, notifications_emit]
    exact settled.once
  dropped := by simpa [close, emit, drops, notifications, List.countP_append, Effect.ends] using settled.dropped

theorem connectLater_settled (settled : Settled channel) :
    Settled (channel.doLater .connectNext) where
  once := by
    rw [postponed, doLater, List.count_append]
    exact settled.once
  dropped := settled.dropped

theorem handleError_settled (settled : Settled channel) (alive : channel.state.terminal = false) :
    Settled channel.handleError := by
  have once := settled.once
  have dropped := settled.dropped
  have given_up : Settled (doLater { channel with state := .error } .invokeStateListenerDefered) := by
    refine ⟨?_, dropped⟩
    change channel.notifications + (channel.deferred ++ [_]).count _ = 1
    rw [alive] at once
    simp [postponed] at once
    simp [once]
  unfold handleError
  split
  · split
    · next next_peer others _ _ =>
        have moved : Settled { channel with currentPeer := next_peer :: others } := ⟨settled.once, dropped⟩
        exact connectLater_settled (close_settled (enterState_settled moved alive .retry))
    · exact given_up
  · exact given_up

theorem setState_settled (settled : Settled channel) (alive : channel.state.terminal = false) (state : ChannelState) :
    Settled (channel.setState state) := by
  unfold setState
  split
  · exact handleError_settled settled alive
  · exact enterState_settled settled alive state

theorem alive_of {state : ChannelState} (same : channel.state = state) (living : state.terminal = false) :
    channel.state.terminal = false := by rw [same, living]

/-- The life cycle part of an event keeps a living channel settled. -/
theorem connect_settled (settled : Settled channel) (alive : channel.state.terminal = false) (environment : Environment)
    :
    Settled (connect environment channel).1 := by
  have connecting := setState_settled settled alive .connecting
  have living := alive_of (setState_state channel .connecting (by decide)) rfl
  unfold connect
  cases environment.connection with
  | pending => exact connecting
  | failed => exact setState_settled connecting living .error
  | ready => exact setState_settled connecting living .ready

theorem resDone_settled (settled : Settled channel) (alive : channel.state.terminal = false) (addresses : List Address)
    (environment : Environment) :
    Settled (resDone addresses environment channel).1 := by
  unfold resDone
  split
  · exact setState_settled settled alive .error
  · have moved : Settled { channel with currentPeer := addresses } := ⟨settled.once, settled.dropped⟩
    exact connect_settled (setState_settled moved alive .resDone)
      (alive_of (setState_state _ .resDone (by decide)) rfl) environment

theorem prepareContinue_settled (settled : Settled channel) (environment : Environment) :
    Settled (prepareContinue environment channel).1 := by
  unfold prepareContinue
  split
  · next initial =>
      have alive := alive_of initial rfl
      have resolving := setState_settled settled alive .resInProgress
      have living := alive_of (setState_state channel .resInProgress (by decide)) rfl
      unfold resolve
      cases environment.resolution with
      | none => exact resolving
      | some addresses => exact resDone_settled resolving living addresses environment
  · next resolved => exact connect_settled settled (alive_of resolved rfl) environment
  · exact settled
  · exact settled

theorem push_same (channel : Channel) (message : Message) : SameLife channel (channel.pushOutgoing message) :=
  ⟨rfl, rfl, rfl, rfl, [.queued message], rfl, by simp [Effect.living]⟩

/-- Only a postponed report counts when a deferred task is taken. -/
theorem takeDeferred_postponed (channel : Channel) {index : Nat} {task : DeferredTask}
    (present : channel.deferred[index]? = some task) :
    channel.postponed =
      (channel.takeDeferred index).postponed + if task = .invokeStateListenerDefered then 1 else 0 := by
  obtain ⟨inside, rfl⟩ := List.getElem?_eq_some_iff.mp present
  have same := (List.getElem_cons_eraseIdx_perm inside).count_eq .invokeStateListenerDefered
  rw [List.count_cons] at same
  rw [postponed, takeDeferred, postponed, ← same]
  simp

/-- The report of an error is delivered by the main loop. -/
theorem deliver_settled (settled : Settled channel) {index : Nat}
    (present : channel.deferred[index]? = some .invokeStateListenerDefered) :
    channel.state.terminal = true ∧ Settled (channel.takeDeferred index).invokeStateListener := by
  have fewer := takeDeferred_postponed channel present
  rw [if_pos rfl] at fewer
  have once := settled.once
  have ended : channel.state.terminal = true := by
    by_contra alive
    rw [if_neg alive] at once
    omega
  rw [if_pos ended] at once
  have counts := invokeStateListener_counts (channel.takeDeferred index)
  have stays := invokeStateListener_state (channel.takeDeferred index)
  have terminal : (channel.takeDeferred index).state.terminal = true := ended
  rw [terminal, if_pos rfl] at counts
  refine ⟨ended, ?_, ?_⟩
  · rw [counts.1, postponed, counts.2.2, stays, terminal, if_pos rfl]
    change channel.notifications + 1 + (channel.takeDeferred index).postponed = 1
    omega
  · rw [counts.1]
    exact Nat.le_trans counts.2.1 (Nat.add_le_add_right settled.dropped 1)

/-- A living channel stays settled through the life cycle part of every event. -/
theorem advance_settled (settled : Settled channel) (alive : channel.state.terminal = false) (event : Event) :
    Settled (channel.advance event).1 := by
  cases event with
  | queueMessage message environment =>
      simp only [advance, queueMessage]
      split
      · exact prepareContinue_settled ((push_same channel message).settled settled) environment
      · exact settled
  | prepare environment => exact prepareContinue_settled settled environment
  | resolved addresses environment => exact resDone_settled settled alive addresses environment
  | connected environment =>
      simp only [advance]
      split
      · exact setState_settled settled alive .ready
      · exact settled
  | connectFailed =>
      simp only [advance]
      split
      · exact setState_settled settled alive .error
      · exact settled
  | received now => exact ⟨settled.once, settled.dropped⟩
  | endOfStream => exact setState_settled settled alive .disconnected
  | receiveFailed => exact setState_settled settled alive .error
  | writable => exact settled
  | inactivityTimeout => exact setState_settled settled alive .disconnected
  | keepAliveFailed =>
      simp only [advance]
      split
      · exact close_settled (setState_settled settled alive .error)
      · exact settled
  | timeoutNotified now =>
      simp only [advance, notifyTimeout]
      split
      · exact setState_settled settled alive .error
      · exact settled
  | forceClosed =>
      have forced : Settled { channel with forceClose := true } := ⟨settled.once, settled.dropped⟩
      exact setState_settled forced alive .disconnected
  | deferred index environment =>
      simp only [advance, runDeferred]
      split
      · exact settled
      · next present =>
          have same := takeDeferred_postponed channel present
          have taken : Settled (channel.takeDeferred index) := by
            refine ⟨?_, settled.dropped⟩
            rw [if_neg (by decide), Nat.add_zero] at same
            rw [← same]
            exact settled.once
          exact connect_settled taken alive environment
      · next present => exact (deliver_settled settled present).2

variable (transport : Nat → SendResult)

/-- A ready channel or one that has broken during the event. -/
structure Sending (channel : Channel) : Prop where
  settled : Settled channel
  working : channel.state = .ready ∨ Broken channel

theorem processQueue_sending (sending : Sending channel) :
    Sending (channel.processQueue transport) := by
  rcases sending.working with ready | broken
  · have acted := processQueue_acted transport channel ready
    generalize channel.processQueue transport = after at acted
    cases acted with
    | smooth same => exact ⟨same.settled sending.settled, .inl (same.state.trans ready)⟩
    | @failed middle _ same later idle =>
        have middle_ready := same.state.trans ready
        have reported := setState_settled (same.settled sending.settled) (alive_of middle_ready rfl) .error
        exact ⟨later.settled reported, .inr ⟨later.state.trans (setState_error middle middle_ready), idle⟩⟩
  · obtain ⟨same, still⟩ := processQueue_broken transport broken
    exact ⟨same.settled sending.settled, .inr still⟩

theorem activate_sending (sending : Sending channel) (activity : Activity) :
    Sending (activate transport channel activity) := by
  cases activity with
  | resume => exact processQueue_sending transport sending
  | queue message =>
      have pushed : Sending (channel.pushOutgoing message) :=
        ⟨(push_same channel message).settled sending.settled,
          sending.working.imp id fun broken => ⟨broken.failed, broken.idle⟩⟩
      simp only [activate]
      split
      · exact processQueue_sending transport pushed
      · exact pushed

theorem activities_sending (sending : Sending channel) (activities : List Activity) :
    Sending (Foundation.Machine.run (activate transport) channel activities) := by
  induction activities generalizing channel with
  | nil => exact sending
  | cons activity rest ih => exact ih (activate_sending transport sending activity)

/-- A message queued on a channel that is not ready only waits. -/
theorem activate_waiting (idle : channel.state ≠ .ready) (message : Message) :
    activate transport channel (.queue message) = channel.pushOutgoing message := by
  have pushed : (channel.pushOutgoing message).state ≠ .ready := idle
  simp only [activate, if_neg pushed]

theorem step_alive (settled : Settled channel) (alive : channel.state.terminal = false) (event : Event) :
    Settled (channel.step transport event) := by
  have advanced := advance_settled settled alive event
  rcases channel.advance_prepared event with (⟨none, _⟩ | ⟨_, ready⟩) | ⟨message, environment, rfl, same⟩
  · rw [step, none]
    exact advanced
  · exact (activities_sending transport ⟨advanced, .inl ready⟩ _).settled
  · rw [step, same]
    by_cases ready : channel.state = .ready
    · exact (activities_sending transport ⟨settled, .inl ready⟩ _).settled
    · change Settled (activate transport channel (.queue message))
      rw [activate_waiting transport ready]
      exact (push_same channel message).settled settled

/-- An event that does not set the state leaves a channel that has ended as it is. -/
theorem step_ended (settled : Settled channel) (ended : channel.state.terminal = true) {event : Event}
    (tame : ¬Revives channel event) :
    Settled (channel.step transport event) ∧ (channel.step transport event).state = channel.state := by
  have not_state (state : ChannelState) (living : state.terminal = false) : channel.state ≠ state := by
    rintro rfl
    rw [living] at ended
    simp at ended
  have unchanged (same : channel.advance event = (channel, [])) :
      Settled (channel.step transport event) ∧ (channel.step transport event).state = channel.state := by
    rw [step, same]
    exact ⟨settled, rfl⟩
  cases event with
  | queueMessage message environment =>
      have waiting : channel.step transport (.queueMessage message environment) =
          activate transport channel (.queue message) := by
        simp only [step, advance, queueMessage, if_neg (not_state .init rfl)]
        rfl
      rw [waiting, activate_waiting transport (not_state .ready rfl)]
      exact ⟨(push_same channel message).settled settled, rfl⟩
  | prepare environment =>
      refine unchanged ?_
      cases state : channel.state <;> simp_all [advance, prepareContinue, ChannelState.terminal]
  | connected environment => exact unchanged (by simp only [advance, if_neg (not_state .connecting rfl)])
  | connectFailed => exact unchanged (by simp only [advance, if_neg (not_state .connecting rfl)])
  | received now => exact ⟨⟨settled.once, settled.dropped⟩, rfl⟩
  | writable => exact unchanged (by simp only [advance, if_neg (not_state .ready rfl)])
  | keepAliveFailed => exact unchanged (by simp only [advance, if_neg (not_state .ready rfl)])
  | timeoutNotified now =>
      have recent : ¬tooLong ≤ now - channel.lastRecvTime := tame
      exact unchanged (by simp only [advance, notifyTimeout, if_neg recent])
  | resolved addresses environment => exact absurd trivial tame
  | endOfStream => exact absurd trivial tame
  | receiveFailed => exact absurd trivial tame
  | inactivityTimeout => exact absurd trivial tame
  | forceClosed => exact absurd trivial tame
  | deferred index environment =>
      cases present : channel.deferred[index]? with
      | none => exact unchanged (by simp only [advance, runDeferred, present])
      | some task =>
          cases task with
          | connectNext => exact absurd present tame
          | invokeStateListenerDefered =>
              have delivered : channel.step transport (.deferred index environment) =
                  (channel.takeDeferred index).invokeStateListener := by
                simp only [step, advance, runDeferred, present]
                rfl
              rw [delivered]
              exact ⟨(deliver_settled settled present).2, invokeStateListener_state _⟩

theorem step_settled (settled : Settled channel) {event : Event} (tame : Tame channel event) :
    Settled (channel.step transport event) := by
  cases ended : channel.state.terminal with
  | false => exact step_alive transport settled ended event
  | true => exact (step_ended transport settled ended (tame ended)).1

/-- A channel that has ended keeps its state. -/
def KeepsEnd (before after : Channel) : Prop := before.state.terminal = true → after.state = before.state

theorem KeepsEnd.trans {first second third : Channel} (early : KeepsEnd first second)
    (late : KeepsEnd second third) : KeepsEnd first third := by
  intro ended
  have same := early ended
  exact (late (by rw [same]; exact ended)).trans same

/-- A channel that has ended keeps its state, and it is reported exactly once, along every run in
which no event sets the state of a channel that has ended. -/
theorem run_settled (start : Channel) (settled : Settled start) (events later : List Event)
    (tame : Foundation.Machine.Along (step transport) Tame start (events ++ later)) :
    Settled (Foundation.Machine.run (step transport) start (events ++ later)) ∧
      KeepsEnd (Foundation.Machine.run (step transport) start events)
        (Foundation.Machine.run (step transport) start (events ++ later)) := by
  have preserved (channel : Channel) (event : Event) (settled : Settled channel)
      (tame : Tame channel event) : Settled (channel.step transport event) :=
    step_settled transport settled tame
  have keeps (channel : Channel) (event : Event) (settled : Settled channel)
      (tame : Tame channel event) : KeepsEnd channel (channel.step transport event) :=
    fun ended => (step_ended transport settled ended (tame ended)).2
  have reflexive (channel : Channel) : KeepsEnd channel channel := fun _ => rfl
  have transitive (first second third : Channel) (early : KeepsEnd first second)
      (late : KeepsEnd second third) : KeepsEnd first third := early.trans late
  obtain ⟨first, second⟩ := Foundation.Machine.along_append.mp tame
  have reached := Foundation.Machine.run_invariant preserved settled first
  rw [Foundation.Machine.run_append]
  exact ⟨Foundation.Machine.run_invariant preserved reached second,
    Foundation.Machine.run_related reflexive transitive preserved keeps reached second⟩

/-- A receive error is reported by the main loop. -/
theorem run_settled_receiveFailed :
    Settled (Foundation.Machine.run (step fun _ => .accepted 100) {}
        ([.queueMessage optionsMessage immediate, .receiveFailed] ++ [.deferred 0 {}])) ∧
      KeepsEnd (Foundation.Machine.run (step fun _ => .accepted 100) {}
          [.queueMessage optionsMessage immediate, .receiveFailed])
        (Foundation.Machine.run (step fun _ => .accepted 100) {}
          ([.queueMessage optionsMessage immediate, .receiveFailed] ++ [.deferred 0 {}])) := by
  refine run_settled (fun _ => .accepted 100) {} ⟨rfl, Nat.le_refl 0⟩ _ _ ⟨?_, ?_, ?_, trivial⟩
  · exact fun ended => absurd ended (by decide)
  · exact fun ended => absurd ended Bool.false_ne_true
  · intro _ revived
    have task : (some DeferredTask.invokeStateListenerDefered) = some .connectNext := revived
    simp at task

/-- The transport takes the first message and reports an error for the second one. -/
def failSecond : Nat → SendResult
  | 0 => .accepted 100
  | _ => .error

/-- The host has two addresses. -/
def twoAddresses : Environment :=
  { resolution := some ["192.0.2.1:5060", "192.0.2.2:5060"], connection := .ready }

/-- A timeout reported after a send error takes the channel out of its error state, and the
inactivity timer reports a channel a second time. -/
theorem ended_channel_revived :
    (Foundation.Machine.run (step failSecond) {}
        [.queueMessage optionsMessage twoAddresses, .queueMessage optionsMessage {}]).state = .error ∧
      (Foundation.Machine.run (step failSecond) {}
        [.queueMessage optionsMessage twoAddresses, .queueMessage optionsMessage {},
          .timeoutNotified 60000]).state = .retry ∧
      (Foundation.Machine.run (step failSecond) {}
        [.queueMessage optionsMessage twoAddresses, .queueMessage optionsMessage {},
          .deferred 0 {}, .inactivityTimeout]).notifications = 2 :=
  ⟨rfl, rfl, rfl⟩

end Channel

end BelleSip
