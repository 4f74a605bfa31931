import BelleSip.Http.Queue

/-
This file proves that an HTTP channel whose connection has failed waits for a task of the main loop.
-/

namespace BelleSip.Http.ChannelContext

/-- The main loop has still to tell an error of the channel, or to try its next address. -/
structure Hopeful (context : ChannelContext) : Prop where
  told : context.state = .error → .invokeStateListenerDefered ∈ context.deferred
  retried : context.lost = true → context.state = .error ∨ .connectNext ∈ context.deferred

/-- The channel has not failed, or the main loop has still to try its next address. -/
def Trying (context : ChannelContext) : Prop :=
  context.state ≠ .error ∧ (context.lost = true → .connectNext ∈ context.deferred)

variable {context : ChannelContext}

theorem Trying.hopeful (trying : context.Trying) : context.Hopeful :=
  ⟨fun error => absurd error trying.1, fun lost => .inr (trying.2 lost)⟩

theorem Hopeful.trying (hopeful : context.Hopeful) (sane : context.state ≠ .error) : context.Trying :=
  ⟨sane, fun lost => (hopeful.retried lost).resolve_left sane⟩

/-- Whatever a channel does about an error, it leaves a task to the main loop. -/
theorem handleError_hopeful (context : ChannelContext) : context.handleError.Hopeful := by
  have reported : Hopeful
      (({ context with state := .error } : ChannelContext).doLater .invokeStateListenerDefered) :=
    ⟨fun _ => by simp [doLater], fun _ => .inl rfl⟩
  unfold handleError
  split
  · split
    · refine ⟨fun error => ?_, fun _ => .inr (by simp [doLater])⟩
      simp [doLater, enterState] at error
    · exact reported
  · exact reported

theorem Trying.enterState (trying : context.Trying) {state : ChannelState} (sane : state ≠ .error) :
    (context.enterState state).Trying := by
  rw [ChannelContext.enterState]
  split <;> exact ⟨sane, trying.2⟩

theorem connect_hopeful (awaiting : context.lost = true → .connectNext ∈ context.deferred) (environment : Environment) :
    (context.connect environment).Hopeful := by
  have connecting : (context.enterState .connecting).Trying := by
    rw [ChannelContext.enterState, if_neg (by simp)]
    exact ⟨by simp, awaiting⟩
  rw [ChannelContext.connect]
  split
  · exact connecting.hopeful
  · exact handleError_hopeful _

theorem Trying.resDone (trying : context.Trying) (addresses : List Address) (environment : Environment) :
    (context.resDone addresses environment).Hopeful := by
  rw [ChannelContext.resDone]
  split
  · exact handleError_hopeful _
  · have resolved : Trying { context with resolving := false, currentPeer := addresses } := trying
    exact connect_hopeful (@Trying.enterState _ resolved .resDone (by simp)).2 environment

theorem Trying.resolve (trying : context.Trying) (environment : Environment) :
    (context.resolve environment).Hopeful := by
  have begun := @Trying.enterState _ trying .resInProgress (by simp)
  rw [ChannelContext.resolve]
  split
  · exact ⟨begun.hopeful.told, begun.hopeful.retried⟩
  · exact begun.resDone _ environment

theorem Hopeful.conclude (hopeful : context.Hopeful) (written : Written) : (context.conclude written).Hopeful := by
  cases written with
  | taken | closed | wouldBlock => exact ⟨hopeful.told, hopeful.retried⟩
  | failed =>
      have error := handleError_hopeful context
      exact ⟨error.told, error.retried⟩

theorem Hopeful._sendMessage (hopeful : context.Hopeful) (activation : Activation) :
    (context._sendMessage activation).Hopeful := by
  rw [ChannelContext._sendMessage]
  split
  · exact hopeful
  · next request _ =>
      have begun : Hopeful { context with handed := context.handed ++ [request] } :=
        ⟨hopeful.told, hopeful.retried⟩
      dsimp only
      split
      · exact begun
      · have error := handleError_hopeful { context with handed := context.handed ++ [request] }
        exact ⟨error.told, error.retried⟩
      · exact ⟨hopeful.told, hopeful.retried⟩
      · split
        · rw [sendHeaders]
          dsimp only
          split
          · apply Hopeful.conclude
            exact ⟨hopeful.told, hopeful.retried⟩
          · exact ⟨hopeful.told, hopeful.retried⟩
        · apply Hopeful.conclude
          exact ⟨hopeful.told, hopeful.retried⟩

theorem Hopeful.popOutgoing (queue : List Request) {activations : List Activation} (hopeful : context.Hopeful) :
    (popOutgoing queue activations context).Hopeful := by
  induction queue generalizing activations context with
  | nil => exact ⟨hopeful.told, hopeful.retried⟩
  | cons request rest ih =>
      rw [ChannelContext.popOutgoing]
      split
      · apply ih
        apply Hopeful._sendMessage
        exact ⟨hopeful.told, hopeful.retried⟩
      · exact ⟨hopeful.told, hopeful.retried⟩

theorem Hopeful.processQueue (hopeful : context.Hopeful) (activations : List Activation) :
    (context.processQueue activations).Hopeful := by
  rw [ChannelContext.processQueue]
  split
  · exact (hopeful._sendMessage _).popOutgoing _
  · exact hopeful.popOutgoing _

theorem Hopeful.queueMessage (hopeful : context.Hopeful) (request : Request) (environment : Environment) :
    (context.queueMessage request environment).Hopeful := by
  have pushed : (context.pushOutgoing request).Hopeful := ⟨hopeful.told, hopeful.retried⟩
  rw [ChannelContext.queueMessage]
  split
  · next initial =>
      exact (pushed.trying (by
        show context.state ≠ .error
        rw [show context.state = .init from initial]
        decide)).resolve environment
  · split
    · exact pushed.processQueue _
    · exact pushed

/-- A channel that has not failed is told its own state, and goes on. -/
theorem Hopeful.tell (hopeful : context.Hopeful) (sane : context.state ≠ .error) {index : Nat}
    (deferred : context.deferred[index]? = some .invokeStateListenerDefered) :
    ((context.takeDeferred index).enterState context.state).Hopeful := by
  have trying : (context.takeDeferred index).Trying := by
    refine ⟨sane, fun lost => ?_⟩
    have among := (hopeful.trying sane).2 lost
    obtain ⟨other, isAt⟩ := List.mem_iff_getElem?.mp among
    refine List.mem_eraseIdx_iff_getElem?.mpr ⟨other, ?_, isAt⟩
    rintro rfl
    rw [deferred] at isAt
    cases isAt
  exact (trying.enterState sane).hopeful

/-- A channel that the network has failed does something about it, and one that works goes on. -/
theorem Hopeful.handle (hopeful : context.Hopeful) {event : ChannelEvent} (open_end : event ≠ .disconnected) :
    ((context.notice event).handle event).Hopeful := by
  cases event with
  | resolved addresses environment =>
      by_cases resolving : context.resolving = true
      · rw [notice, if_pos resolving, ChannelContext.handle, if_pos resolving]
        rw [ChannelContext.resDone]
        split
        · exact handleError_hopeful _
        · next found =>
            have resolved : ({ context with
                lost := addresses.isEmpty, resolving := false, currentPeer := addresses } |>.enterState
                .resDone).Trying := by
              rw [ChannelContext.enterState, if_neg (by simp)]
              exact ⟨by simp, fun lost => absurd (List.isEmpty_iff.mp lost) found⟩
            exact connect_hopeful resolved.2 environment
      · rw [notice, if_neg resolving, ChannelContext.handle, if_neg resolving]
        exact hopeful
  | connected environment =>
      rw [notice, ChannelContext.handle]
      split
      · next connecting =>
          have trying := hopeful.trying (by rw [connecting]; decide)
          exact (@Trying.enterState _ trying .ready (by simp)).hopeful.processQueue _
      · exact hopeful
  | connectFailed =>
      by_cases connecting : context.state = .connecting
      · rw [notice, if_pos connecting, ChannelContext.handle, if_pos connecting]
        exact handleError_hopeful _
      · rw [notice, if_neg connecting, ChannelContext.handle, if_neg connecting]
        exact hopeful
  | receiveFailed =>
      by_cases ready : context.state = .ready
      · rw [notice, if_pos ready, ChannelContext.handle, if_pos ready]
        exact handleError_hopeful _
      · rw [notice, if_neg ready, ChannelContext.handle, if_neg ready]
        exact hopeful
  | disconnected => exact absurd rfl open_end
  | writable environment =>
      rw [notice, ChannelContext.handle]
      split
      · exact hopeful.processQueue _
      · exact hopeful

end BelleSip.Http.ChannelContext
