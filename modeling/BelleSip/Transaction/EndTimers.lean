import BelleSip.Transaction.Reports

/-
This file develops what the work of a transaction does to the timer that ends it, one part of the work after the other.
-/

namespace BelleSip

open Foundation
open Foundation.Checked (OnReturn)
open Foundation.Reentrance (Frame Config Input Program)

namespace Callbacks

namespace Transaction

variable {t after : Transaction} {task : Task} {frames rest : List (Frame Task)}

/-- The timer that ends a transaction in its state, whatever the other party and the application do not do. -/
def endTimer (t : Transaction) : Option Timer :=
  match t.kind, t.state with
  | .ict, .calling => some .b
  | .ict, .accepted => some .m
  | .ict, .completed => some .d
  | .nict, .trying => some .f
  | .nict, .proceeding => some .f
  | .nict, .completed => some .k
  | .ist, .accepted => some .l
  | .ist, .completed => some .h
  | .ist, .confirmed => some .i
  | .nist, .completed => some .j
  | _, _ => none

/-- A request has timed out, and the channel has taken the report of it. -/
def TimedOut (t : Transaction) (timer : Timer) : Prop := (timer = .b ∨ timer = .f) ∧ t.timedOut = true

/-- The frame ends the transaction, or starts the timer. -/
def Arms (timer : Timer) : Frame Task → Prop
  | .task .terminate => True
  | .task .startTimerD => timer = .d
  | .task .finishCompleted => timer = .k
  | _ => False

/-- The work is left in the state that it is done in: timers are forgotten when the transaction has terminated, and
started when it has sent its request. -/
def Suits (t : Transaction) : Frame Task → Prop
  | .task .onTerminate | .task .setTransactionTerminated => t.state = .terminated
  | .task .startTimerD | .task .finishCompleted => t.state ≠ .init
  | _ => True

def Forgets : Frame Task → Prop
  | .task .onTerminate | .task .setTransactionTerminated => True
  | _ => False

def Asks : Frame Task → Prop
  | .task (.send _ _) => True
  | _ => False

/-- The work is left by the main loop, or by a request that is to be sent. -/
def Foreign : Frame Task → Prop
  | .task (.begin _) | .task (.send _ _) | .task (.stopSource _) => True
  | _ => False

def Leaves (t : Transaction) (frame : Frame Task) : Prop := t.Suits frame ∧ ¬ Foreign frame

theorem Leaves.unasked {frame : Frame Task} (leaves : t.Leaves frame) : ¬ Asks frame := by
  intro asks
  unfold Asks at asks
  split at asks
  · exact leaves.2 trivial
  · exact asks

/-- What decides about the timer is the same. -/
structure Still (t after : Transaction) : Prop where
  kind : after.kind = t.kind
  request : after.request = t.request
  state : after.state = t.state
  sources : after.sources = t.sources
  timedOut : after.timedOut = t.timedOut

/-- The timer has been reported, or it is a source, or the work that is left arms it. -/
def Armed (t : Transaction) (frames : List (Frame Task)) (timer : Timer) : Prop :=
  t.TimedOut timer ∨ timer ∈ t.sources ∨ ∃ frame ∈ frames, Arms timer frame

/-- A part of the work keeps the timer, or arms the one of the next state. -/
structure Advances (t after : Transaction) (frames : List (Frame Task)) : Prop where
  request : after.request = t.request
  fresh : after.state = .init → t.state = .init ∧ after.sources = t.sources
  lasting : t.state = .terminated → after.state = .terminated
  leaves : ∀ frame ∈ frames, after.Leaves frame
  armed : ∀ timer, after.endTimer = some timer → after.Armed frames timer ∨
    (t.endTimer = some timer ∧ (t.TimedOut timer → after.TimedOut timer) ∧ (timer ∈ t.sources → timer ∈ after.sources))

namespace Still

theorem refl (t : Transaction) : t.Still t := ⟨rfl, rfl, rfl, rfl, rfl⟩

theorem trans {between : Transaction} (first : t.Still between) (second : between.Still after) : t.Still after where
  kind := second.kind.trans first.kind
  request := second.request.trans first.request
  state := second.state.trans first.state
  sources := second.sources.trans first.sources
  timedOut := second.timedOut.trans first.timedOut

theorem leaves (still : t.Still after) {frame : Frame Task} (leaves : t.Leaves frame) : after.Leaves frame := by
  refine ⟨?_, leaves.2⟩
  have suits := leaves.1
  unfold Suits at suits ⊢
  rw [still.state]
  exact suits

theorem endTimer (still : t.Still after) : after.endTimer = t.endTimer := by
  rw [Transaction.endTimer, still.kind, still.state]
  rfl

/-- A part that changes nothing of it only leaves more work. -/
theorem advances (still : t.Still after) (leaves : ∀ frame ∈ frames, after.Leaves frame) :
    t.Advances after frames where
  request := still.request
  fresh := fun init => ⟨still.state.symm.trans init, still.sources⟩
  lasting := still.state.trans
  leaves := leaves
  armed := by
    intro timer waits
    refine .inr ⟨still.endTimer.symm.trans waits, ?_, ?_⟩
    · exact fun reported => ⟨reported.1, still.timedOut.trans reported.2⟩
    · exact fun source => still.sources ▸ source

/-- A transaction has moved to another state first, and more work is left. -/
theorem carried {moved : Transaction} (still : moved.Still after) {more : List (Frame Task)}
    (advances : t.Advances moved more) (leaves : ∀ frame ∈ frames, after.Leaves frame) :
    t.Advances after (frames ++ more) where
  request := still.request.trans advances.request
  fresh := fun init => by
    obtain ⟨before, sources⟩ := advances.fresh (still.state.symm.trans init)
    exact ⟨before, still.sources.trans sources⟩
  lasting := fun terminated => still.state.trans (advances.lasting terminated)
  leaves := List.forall_mem_append.mpr ⟨leaves, fun frame among => still.leaves (advances.leaves frame among)⟩
  armed := by
    intro timer waits
    have reported : moved.TimedOut timer → after.TimedOut timer :=
      fun reported => ⟨reported.1, still.timedOut.trans reported.2⟩
    have source : timer ∈ moved.sources → timer ∈ after.sources := fun source => still.sources ▸ source
    rcases advances.armed timer (still.endTimer.symm.trans waits) with armed | ⟨same, first, second⟩
    · refine .inl ?_
      rcases armed with early | started | ⟨frame, among, arms⟩
      · exact .inl (reported early)
      · exact .inr (.inl (source started))
      · exact .inr (.inr ⟨frame, List.mem_append_right _ among, arms⟩)
    · exact .inr ⟨same, fun early => reported (first early), fun early => source (second early)⟩

end Still

/-- A part of the work after which the transaction is as it was, but for its dialog and its responses. -/
def Rereads (t : Transaction) (part : Part) : Prop :=
  OnReturn part fun (after, frames) => t.Still after ∧ ∀ frame ∈ frames, ∀ other : Transaction, other.Leaves frame

theorem queueMessage_still (message : Message) : OnReturn (t.queueMessage message) t.Still := by
  unfold queueMessage record
  refine Checked.onReturn_bind.mpr (Checked.onReturn_deref.mpr fun channel _ => ?_)
  rw [Checked.onReturn_pure]
  split <;> exact ⟨rfl, rfl, rfl, rfl, rfl⟩

theorem queueLastResponse_still : OnReturn t.queueLastResponse t.Still := by
  unfold queueLastResponse
  exact Checked.onReturn_bind.mpr (Checked.onReturn_deref.mpr fun resp _ => queueMessage_still (.response resp))

theorem outside_leaves {drops : List (Frame Task)} (outside : ∀ frame ∈ drops, frame = .outside) :
    ∀ frame ∈ drops, ∀ other : Transaction, other.Leaves frame := by
  intro frame among other
  rw [outside frame among]
  exact ⟨trivial, id⟩

theorem updateDialog_still (asUas : Bool) :
    OnReturn (t.updateDialog asUas) fun (after, frames) => t.Still after ∧ ∀ frame ∈ frames, frame = .outside := by
  unfold updateDialog
  split
  · exact ⟨Still.refl t, List.forall_mem_nil _⟩
  · next dialog _ =>
      apply Checked.onReturn_bind.mpr
      cases dialog.update 0 t.request t.lastResponse (t.state = .terminated) asUas with
      | error fault => trivial
      | ok result => exact ⟨⟨rfl, rfl, rfl, rfl, rfl⟩, dropped_outside⟩

theorem updateDialog_rereads (asUas : Bool) : t.Rereads (t.updateDialog asUas) :=
  (updateDialog_still asUas).mono fun _ ⟨still, outside⟩ => ⟨still, outside_leaves outside⟩

theorem reportResponse_leaves (inDialog : Bool) :
    ∀ frame ∈ t.reportResponse inDialog, ∀ other : Transaction, other.Leaves frame := by
  unfold reportResponse
  split <;> simp [Leaves, Suits, Foreign]

theorem notifyResponse_rereads (resp : Response) (found : Option Dialog) :
    t.Rereads (t.notifyResponse resp found) := by
  apply (notifyResponse_cases resp found).mono
  rintro ⟨_, frames⟩ ⟨⟨dialog, rfl⟩, drops, outside, rfl | ⟨inDialog, rfl⟩⟩
  · exact ⟨⟨rfl, rfl, rfl, rfl, rfl⟩, outside_leaves outside⟩
  · exact ⟨⟨rfl, rfl, rfl, rfl, rfl⟩,
      List.forall_mem_append.mpr ⟨outside_leaves outside, reportResponse_leaves inDialog⟩⟩

/-- A part of the work that advances the transaction. -/
def Progresses (t : Transaction) (part : Part) : Prop :=
  OnReturn part fun (after, frames) => t.Advances after frames

theorem rereads_rest (still : t.Still after) : t.Rereads (.ok (after, [])) := ⟨still, by simp⟩

theorem Rereads.progresses {part : Part} (rereads : t.Rereads part) : t.Progresses part :=
  OnReturn.mono rereads fun (after, _) ⟨still, leaves⟩ => still.advances fun frame among => leaves frame among after

/-- More work follows a part that rereads a transaction, which has moved to another state first. -/
theorem Rereads.carried {moved : Transaction} {part : Part} (rereads : moved.Rereads part) {more : List (Frame Task)}
    (advances : t.Advances moved more) :
    t.Progresses (do let (t, frames) ← part; return (t, frames ++ more)) := by
  apply Checked.onReturn_bind.mpr
  apply OnReturn.mono rereads
  intro (after, frames) ⟨still, before⟩
  exact still.carried advances fun frame among => before frame among after

/-- The transaction has moved to another state before it is reread. -/
theorem Rereads.moved {moved : Transaction} {part : Part} (rereads : moved.Rereads part)
    (advances : t.Advances moved []) : t.Progresses part :=
  OnReturn.mono rereads fun (after, frames) ⟨still, leaves⟩ =>
    List.append_nil frames ▸ still.carried advances fun frame among => leaves frame among after

/-- The timer of the next state is armed, or was that of the last one. -/
theorem Advances.moved {next : Transaction} (request : next.request = t.request) (begun : next.state ≠ .init)
    (unended : t.state ≠ .terminated) (leaves : ∀ frame ∈ frames, next.Leaves frame)
    (armed : ∀ timer, next.endTimer = some timer → next.Armed frames timer ∨ (t.endTimer = some timer ∧
      (t.TimedOut timer → next.TimedOut timer) ∧ (timer ∈ t.sources → timer ∈ next.sources))) :
    t.Advances next frames where
  request := request
  fresh := fun init => absurd init begun
  lasting := fun ended => absurd ended unended
  leaves := leaves
  armed := armed

section Client

variable {resp : Response} {found : Option Dialog}

theorem ictProceed_progresses {moved : Transaction} (ict : moved.kind = .ict) (request : moved.request = t.request)
    (proceeding : moved.state = .proceeding) (unended : t.state ≠ .terminated) :
    t.Progresses (moved.ictProceed resp found) := by
  have waiting : t.Advances moved [] := by
    refine .moved request (by rw [proceeding]; decide) unended (List.forall_mem_nil _) fun timer waits => ?_
    rw [endTimer, ict, proceeding] at waits
    cases waits
  unfold ictProceed
  split
  · have completed : t.Advances { moved with state := .completed, ack := true } [.task .startTimerD] := by
      refine .moved request (by simp) unended (by simp [Leaves, Suits, Foreign]) fun timer waits =>
        .inl (.inr (.inr ?_))
      rw [endTimer, ict] at waits
      exact ⟨_, List.mem_singleton_self _, Option.some.inj waits.symm⟩
    refine Checked.onReturn_bind.mpr ((queueMessage_still _).mono fun queued still => ?_)
    exact (notifyResponse_rereads resp found).carried
      (still.carried completed (List.forall_mem_nil _))
  · split
    · have accepted : t.Advances { moved.startTimer .m with state := .accepted } [] := by
        refine .moved request (by simp) unended (List.forall_mem_nil _) fun timer waits => .inl (.inr (.inl ?_))
        rw [endTimer, startTimer, ict] at waits
        obtain rfl := Option.some.inj waits
        exact List.mem_cons_self
      exact (notifyResponse_rereads resp found).moved accepted
    · split
      · exact (notifyResponse_rereads resp found).moved waiting
      · exact waiting

theorem ictOnResponse_progresses (ict : t.kind = .ict) : t.Progresses (t.ictOnResponse resp found) := by
  have idle : t.Progresses (.ok (t, [])) := (rereads_rest (Still.refl t)).progresses
  unfold ictOnResponse
  split
  · next calling => exact ictProceed_progresses ict rfl rfl (by rw [calling]; decide)
  · next proceeding => exact ictProceed_progresses ict rfl proceeding (by rw [proceeding]; decide)
  · split
    · exact (notifyResponse_rereads resp found).progresses
    · exact idle
  · split
    · exact Checked.onReturn_bind.mpr ((queueMessage_still _).mono fun _ still => (rereads_rest still).progresses)
    · exact idle
  · exact idle

theorem nictSetCompleted_progresses (nict : t.kind = .nict) (unended : t.state ≠ .terminated) :
    t.Progresses (t.nictSetCompleted resp found) := by
  unfold nictSetCompleted
  split
  · trivial
  · apply (notifyResponse_rereads resp found).carried
    refine .moved rfl (by simp) unended (by simp [Leaves, Suits, Foreign]) fun timer waits => .inl (.inr (.inr ?_))
    rw [endTimer, nict] at waits
    exact ⟨_, List.mem_singleton_self _, Option.some.inj waits.symm⟩

theorem nictOnResponse_progresses (nict : t.kind = .nict) : t.Progresses (t.nictOnResponse resp found) := by
  have idle : t.Progresses (.ok (t, [])) := (rereads_rest (Still.refl t)).progresses
  unfold nictOnResponse
  split
  · next trying =>
      split
      · have proceeding : t.Advances { t with state := .proceeding } [] := by
          refine .moved rfl (by simp) (by rw [trying]; decide) (List.forall_mem_nil _) fun timer waits => .inr ?_
          -- timer F ends both states
          rw [endTimer, nict] at waits
          exact ⟨by rw [endTimer, nict, trying]; exact waits, id, id⟩
        exact (notifyResponse_rereads resp found).moved proceeding
      · exact nictSetCompleted_progresses nict (by rw [trying]; decide)
  · next proceeding =>
      split
      · exact nictSetCompleted_progresses nict (by rw [proceeding]; decide)
      · exact idle
  · exact idle

theorem onResponse_progresses : t.Progresses (t.onResponse resp found) := by
  unfold onResponse
  split
  · next ict => exact ictOnResponse_progresses ict
  · next nict => exact nictOnResponse_progresses nict
  · exact (rereads_rest (Still.refl t)).progresses

end Client

section Server

theorem istSendNewResponse_advances (ist : t.kind = .ist) (resp : Response) :
    OnReturn (t.istSendNewResponse resp) fun (after, _) => t.Advances after [] := by
  have idle : t.Advances t [] := (Still.refl t).advances (List.forall_mem_nil _)
  unfold istSendNewResponse
  split
  · next proceeding =>
      refine Checked.onReturn_bind.mpr ((queueMessage_still _).mono fun queued still => ?_)
      have unended : t.state ≠ .terminated := by rw [proceeding]; decide
      have kind : queued.kind = .ist := still.kind.trans ist
      split
      · refine .moved still.request (by simp [startTimer]) unended (List.forall_mem_nil _) fun timer waits =>
          .inl (.inr (.inl ?_))
        rw [endTimer, startTimer, kind] at waits
        obtain rfl := Option.some.inj waits
        exact List.mem_cons_self
      · split
        · refine Checked.onReturn_bind.mpr (Checked.onReturn_deref.mpr fun channel _ => ?_)
          rw [Checked.onReturn_pure]
          have completed : ∀ started : Transaction, started.kind = .ist → started.request = t.request →
              started.state = .completed → t.Advances (started.startTimer .h) [] := by
            intro started kind request state
            refine .moved request (by simp [startTimer, state]) unended (List.forall_mem_nil _) fun timer waits =>
              .inl (.inr (.inl ?_))
            rw [endTimer, startTimer, kind, state] at waits
            obtain rfl := Option.some.inj waits
            exact List.mem_cons_self
          apply completed
          · split <;> exact kind
          · split <;> exact still.request
          · split <;> rfl
        · exact still.advances (List.forall_mem_nil _)
  · exact idle
  · exact idle

theorem nistProceed_advances (nist : t.kind = .nist) (unended : t.state ≠ .terminated)
    (resp : Response) : OnReturn (t.nistProceed resp) fun (after, _) => t.Advances after [] := by
  unfold nistProceed
  apply Checked.onReturn_bind.mpr
  apply (queueMessage_still _).mono
  intro queued still
  refine still.carried ?_ (List.forall_mem_nil _)
  split
  · refine .moved rfl (by simp) unended (List.forall_mem_nil _) fun timer waits => .inl (.inr (.inl ?_))
    rw [endTimer, startTimer, nist] at waits
    obtain rfl := Option.some.inj waits
    exact List.mem_cons_self
  · exact (Still.refl t).advances (List.forall_mem_nil _)

theorem nistSendNewResponse_advances (nist : t.kind = .nist) (resp : Response) :
    OnReturn (t.nistSendNewResponse resp) fun (after, _) => t.Advances after [] := by
  have idle : t.Advances t [] := (Still.refl t).advances (List.forall_mem_nil _)
  unfold nistSendNewResponse
  split
  · next trying =>
      split
      · apply Checked.onReturn_bind.mpr
        apply (queueMessage_still _).mono
        intro queued still
        refine still.carried ?_ (List.forall_mem_nil _)
        refine .moved rfl (by simp) (by rw [trying]; decide) (List.forall_mem_nil _) fun timer waits => ?_
        rw [endTimer, nist] at waits
        cases waits
      · exact nistProceed_advances nist (by rw [trying]; decide) resp
  · next proceeding => exact nistProceed_advances nist (by rw [proceeding]; decide) resp
  · exact idle
  · exact idle

theorem sendNewResponse_advances (resp : Response) :
    OnReturn (t.sendNewResponse resp) fun (after, _) => t.Advances after [] := by
  unfold sendNewResponse
  split
  · next ist => exact istSendNewResponse_advances ist resp
  · next nist => exact nistSendNewResponse_advances nist resp
  · exact (Still.refl t).advances (List.forall_mem_nil _)

/-- The channel, the dialog and the last response may have changed before. -/
theorem Advances.since {before : Transaction} (still : t.Still before) (advances : before.Advances after frames) :
    t.Advances after frames where
  request := advances.request.trans still.request
  fresh := fun init => by
    obtain ⟨fresh, sources⟩ := advances.fresh init
    exact ⟨still.state.symm.trans fresh, sources.trans still.sources⟩
  lasting := fun ended => advances.lasting (still.state.trans ended)
  leaves := advances.leaves
  armed := by
    intro timer waits
    refine (advances.armed timer waits).imp_right fun ⟨same, reported, source⟩ => ⟨?_, ?_, ?_⟩
    · exact still.endTimer.symm.trans same
    · exact fun early => reported ⟨early.1, still.timedOut.trans early.2⟩
    · exact fun early => source (still.sources ▸ early)

theorem sendOnChannel_progresses (resp : Response) : t.Progresses (t.sendOnChannel resp) := by
  unfold sendOnChannel
  apply Checked.onReturn_bind.mpr
  cases t.complete resp with
  | error fault => trivial
  | ok resp =>
      apply Checked.onReturn_bind.mpr
      apply (sendNewResponse_advances resp).mono
      intro (sent, ret) advances
      have advances : t.Advances sent [] := advances
      refine (updateDialog_rereads true).moved ?_
      split
      · have answered : sent.Still { sent with lastResponse := some resp } := ⟨rfl, rfl, rfl, rfl, rfl⟩
        exact answered.carried advances (List.forall_mem_nil _)
      · exact advances

theorem sendResponse_progresses (resp : Response) (channel : Option Server.PeerChannel) :
    t.Progresses (t.sendResponse resp channel) := by
  have connected (channel : Option Server.PeerChannel) : t.Still { t with channel := channel } :=
    ⟨rfl, rfl, rfl, rfl, rfl⟩
  unfold sendResponse
  split
  · exact sendOnChannel_progresses resp
  · exact (rereads_rest (connected none)).progresses
  · exact (sendOnChannel_progresses resp).mono fun _ advances => .since (connected _) advances

theorem processAck_advances (ist : t.kind = .ist) :
    OnReturn t.processAck fun (after, frames, reported) =>
      t.Advances after frames ∧ (reported = true → after = t) := by
  have idle : t.Advances t [] := (Still.refl t).advances (List.forall_mem_nil _)
  unfold processAck
  split
  · next completed =>
      refine Checked.onReturn_bind.mpr (Checked.onReturn_deref.mpr fun channel _ => ?_)
      have unended : t.state ≠ .terminated := by rw [completed]; decide
      have request : (t.stopTimer .g).request = t.request := by unfold stopTimer; split <;> rfl
      have kind : (t.stopTimer .g).kind = .ist := by unfold stopTimer; split <;> exact ist
      split
      · refine ⟨.moved request (by simp) unended (by simp [Leaves, Suits, Foreign]) fun timer _ =>
          .inl (.inr (.inr ?_)), by simp⟩
        exact ⟨_, List.mem_singleton_self _, trivial⟩
      · refine ⟨.moved request (by simp [startTimer]) unended (List.forall_mem_nil _) fun timer waits =>
          .inl (.inr (.inl ?_)), by simp⟩
        rw [endTimer, startTimer, kind] at waits
        obtain rfl := Option.some.inj waits
        exact List.mem_cons_self
  · exact ⟨idle, fun _ => rfl⟩
  · exact ⟨idle, fun _ => rfl⟩

theorem reportAck_rereads (req : Request) : t.Rereads (t.reportAck req) := by
  unfold reportAck
  split
  · exact rereads_rest (Still.refl t)
  · next dialog _ =>
      apply Checked.onReturn_bind.mpr
      cases dialog.handleAck req with
      | error fault => trivial
      | ok result =>
          refine ⟨⟨rfl, rfl, rfl, rfl, rfl⟩, ?_⟩
          split <;> simp [Leaves, Suits, Foreign]

theorem onRequest_progresses (req : Request) : t.Progresses (t.onRequest req) := by
  have idle : t.Progresses (.ok (t, [])) := (rereads_rest (Still.refl t)).progresses
  unfold onRequest
  split
  · split
    · next ist =>
        apply Checked.onReturn_bind.mpr
        apply (processAck_advances ist).mono
        intro (after, frames, reported) ⟨advances, same⟩
        cases reported with
        | true =>
            obtain rfl := same rfl
            exact (reportAck_rereads req).progresses
        | false => exact advances
    · exact idle
  · split
    · exact (Still.refl t).advances (by simp [Leaves, Suits, Foreign])
    · unfold onRequestRetransmission
      split
      · exact Checked.onReturn_bind.mpr (queueLastResponse_still.mono fun _ still => (rereads_rest still).progresses)
      · exact Checked.onReturn_bind.mpr (queueLastResponse_still.mono fun _ still => (rereads_rest still).progresses)
      · exact idle

end Server

/-- What is left of the transaction when it is terminated. -/
theorem terminate_ends :
    OnReturn t.terminate fun (after, frames) => t.Advances after frames ∧ after.state = .terminated := by
  unfold terminate
  split
  · next ended => exact ⟨(Still.refl t).advances (List.forall_mem_nil _), ended⟩
  · apply Checked.onReturn_bind.mpr
    have informed : { t with state := .terminated }.Rereads { t with state := .terminated }.informDialog := by
      unfold informDialog
      split
      · exact updateDialog_rereads _
      · exact rereads_rest (Still.refl _)
    apply OnReturn.mono informed
    intro (after, frames) ⟨still, leaves⟩
    refine ⟨⟨still.request, ?_, fun _ => still.state, ?_, ?_⟩, still.state⟩
    · intro init
      cases still.state.symm.trans init
    · refine List.forall_mem_append.mpr ⟨fun frame among => leaves frame among after, ?_⟩
      simp [Leaves, Suits, Foreign, still.state]
    · intro timer waits
      rw [Transaction.endTimer, still.state] at waits
      split at waits <;> simp_all

theorem startTimer_advances (begun : t.state ≠ .init) (timer : Timer) : t.Advances (t.startTimer timer) [] where
  request := rfl
  fresh := fun init => absurd init begun
  lasting := id
  leaves := List.forall_mem_nil _
  armed := fun _ waits => .inr ⟨waits, id, List.mem_cons_of_mem _⟩

/-- The states in which a timer ends a transaction. -/
def ends : Timer → List TransactionState
  | .a | .e | .g => []
  | .b => [.calling]
  | .f => [.trying, .proceeding]
  | .m | .l => [.accepted]
  | .d | .h | .k | .j => [.completed]
  | .i => [.confirmed]

theorem mem_ends {timer : Timer} (waits : t.endTimer = some timer) : t.state ∈ ends timer := by
  unfold endTimer at waits
  split at waits
  all_goals simp_all only [Option.some.injEq, reduceCtorEq]
  all_goals
    subst waits
    simp [ends]

/-- What is left of a transaction by a timer that fires. A REGISTER that times out is reported to its channel only. -/
inductive Fired (t : Transaction) (timer : Timer) (suspect : Bool) : Transaction → List (Frame Task) → Prop where
  | again {after : Transaction} (still : t.Still after) (unneeded : t.endTimer ≠ some timer) :
      Fired t timer suspect after []
  | late (unneeded : t.endTimer ≠ some timer) : Fired t timer suspect t [.task (.stopSource timer)]
  | reported (register : t.request.method = "REGISTER") (limits : timer = .b ∨ timer = .f) :
      Fired t timer suspect { t with timedOut := t.timedOut || suspect } [.task (.stopSource timer)]
  | ends (told : List (Frame Task)) (reports : ∀ frame ∈ told, t.Leaves frame) :
      Fired t timer suspect t (told ++ [.task .terminate, .task (.stopSource timer)])

theorem onTimer_fired (timer : Timer) (suspect : Bool) :
    OnReturn (t.onTimer timer suspect) fun (after, frames) => t.Fired timer suspect after frames := by
  have again (retry : Checked Transaction) (still : OnReturn retry t.Still) (unneeded : t.endTimer ≠ some timer) :
      OnReturn (do let t ← retry; return (t, [])) fun (after, frames) => t.Fired timer suspect after frames :=
    Checked.onReturn_bind.mpr (still.mono fun _ still => .again still unneeded)
  have late (other : t.state ∉ ends timer) :
      OnReturn (stop timer (.ok (t, []))) fun (after, frames) => t.Fired timer suspect after frames :=
    .late fun waits => other (mem_ends waits)
  have terminating :
      OnReturn (stop timer (.ok (t, [.task .terminate]))) fun (after, frames) => t.Fired timer suspect after frames :=
    .ends [] (List.forall_mem_nil _)
  have timeout (limits : timer = .b ∨ timer = .f) :
      OnReturn (stop timer (t.notifyTimeout suspect)) fun (after, frames) => t.Fired timer suspect after frames := by
    unfold notifyTimeout
    split
    · next register => exact .reported register limits
    · exact .ends [.task (.invokeListeners .processTimeout)] (by simp [Leaves, Suits, Foreign])
  unfold onTimer
  split
  · have unneeded : t.endTimer ≠ some .a := fun waits => by simpa [ends] using mem_ends waits
    split
    · exact again _ (queueMessage_still _) unneeded
    · exact .again (Still.refl t) unneeded
  · split
    · exact timeout (.inl rfl)
    · next other => exact late (by simpa [ends] using other)
  · split
    · exact terminating
    · next other => exact late (by simpa [ends] using other)
  · split
    · exact terminating
    · next other => exact late (by simpa [ends] using other)
  · split
    · exact again _ (queueMessage_still _) fun waits => by simpa [ends] using mem_ends waits
    · exact late (by simp [ends])
  · split
    · exact timeout (.inr rfl)
    · next other => exact late (by simpa [ends] using other)
  · split
    · exact again _ queueLastResponse_still fun waits => by simpa [ends] using mem_ends waits
    · exact late (by simp [ends])
  · split
    · exact terminating
    · next other => exact late (by simpa [ends] using other)
  all_goals exact terminating

/-- What a task makes of a transaction. -/
inductive Outcome (t : Transaction) (task : Task) : Transaction → List (Frame Task) → Prop where
  | advances {after : Transaction} {frames : List (Frame Task)} (advances : t.Advances after frames)
      (own : ∀ timer, after.endTimer = some timer → Arms timer (.task task) → after.Armed frames timer)
      (ends : task = .terminate → after.state = .terminated) : Outcome t task after frames
  | asks {after : Transaction} (fresh : t.state = .init) (still : t.Still after) (drops : List (Frame Task))
      (outside : ∀ frame ∈ drops, frame = .outside) (outlet : Outlet) (channel : Server.PeerChannel) :
      Outcome t task after (drops ++ [.task (.send outlet channel)])
  | sends {after : Transaction} {frames : List (Frame Task)} (asked : Asks (.task task))
      (request : after.request = t.request) (begun : after.state ≠ .init)
      (leaves : ∀ frame ∈ frames, after.Leaves frame)
      (armed : ∀ timer, after.endTimer = some timer → timer ∈ after.sources) : Outcome t task after frames
  | forgets {after : Transaction} {frames : List (Frame Task)} (forgotten : Forgets (.task task))
      (request : after.request = t.request) (state : after.state = t.state)
      (leaves : ∀ frame ∈ frames, after.Leaves frame) : Outcome t task after frames
  | stops (timer : Timer) (stopping : task = .stopSource timer) :
      Outcome t task { t with sources := t.sources.filter fun other => other ≠ timer } []
  | fires {after : Transaction} {frames : List (Frame Task)} (timer : Timer) (suspect : Bool)
      (begun : task = .begin (.timer timer suspect)) (source : timer ∈ t.sources)
      (fired : t.Fired timer suspect after frames) : Outcome t task after frames

/-- A request that is sent has its timer. -/
theorem sendRequest_armed :
    OnReturn t.sendRequest fun (after, frames) => frames = [] ∧ (t.Still after ∨ (after.request = t.request ∧
      after.state ≠ .init ∧ ∀ timer, after.endTimer = some timer → timer ∈ after.sources)) := by
  unfold sendRequest
  split
  · next ict =>
      unfold ictSendRequest
      refine Checked.onReturn_bind.mpr (Checked.onReturn_deref.mpr fun channel _ => ?_)
      apply Checked.onReturn_bind.mpr
      apply (queueMessage_still _).mono
      intro sent still
      have kind : sent.kind = .ict := by rw [still.kind]; split <;> exact ict
      have state : sent.state = .calling := by rw [still.state]; split <;> rfl
      have request : sent.request = t.request := by rw [still.request]; split <;> rfl
      refine ⟨rfl, .inr ⟨request, by rw [state]; decide, fun timer waits => ?_⟩⟩
      rw [endTimer, kind, state] at waits
      obtain rfl := Option.some.inj waits
      rw [still.sources]
      exact List.mem_cons_self
  · next nict =>
      unfold nictSendRequest
      refine Checked.onReturn_bind.mpr (Checked.onReturn_deref.mpr fun channel _ => ?_)
      apply Checked.onReturn_bind.mpr
      apply (queueMessage_still _).mono
      intro sent still
      have kind : sent.kind = .nict := by rw [still.kind]; split <;> exact nict
      have state : sent.state = .trying := by rw [still.state]; split <;> rfl
      have request : sent.request = t.request := by rw [still.request]; split <;> rfl
      refine ⟨rfl, .inr ⟨request, by rw [state]; decide, fun timer waits => ?_⟩⟩
      rw [endTimer, kind, state] at waits
      obtain rfl := Option.some.inj waits
      rw [still.sources]
      split <;> simp [startTimer]
  · exact ⟨rfl, .inl (Still.refl t)⟩

theorem send_outcome (outlet : Outlet) (channel : Server.PeerChannel) :
    OnReturn (t.send outlet channel) fun (after, frames) => t.Outcome (.send outlet channel) after frames := by
  have still (known : Nat) (channel : Option Server.PeerChannel) :
      t.Still { t with known := known, channel := channel } :=
    ⟨rfl, rfl, rfl, rfl, rfl⟩
  unfold send
  split
  · apply sendRequest_armed.mono
    rintro ⟨after, frames⟩ ⟨rfl, same | ⟨request, begun, armed⟩⟩
    · exact .advances (((still _ _).trans same).advances (List.forall_mem_nil _)) nofun nofun
    · exact .sends trivial request begun (List.forall_mem_nil _) armed
  · exact .advances ((still _ _).advances (by simp [Leaves, Suits, Foreign])) nofun nofun
  · exact .advances ((still _ _).advances (by simp [Leaves, Suits, Foreign])) nofun nofun

theorem enter_outcome (call : Call) :
    OnReturn (t.enter call) fun (after, frames) => t.Outcome (.enter call) after frames := by
  have step {part : Part} (progresses : t.Progresses part) :
      OnReturn part fun (after, frames) => t.Outcome (.enter call) after frames :=
    OnReturn.mono progresses fun (after, frames) advances => .advances advances nofun nofun
  have idle : t.Progresses (.ok (t, [])) := (rereads_rest (Still.refl t)).progresses
  cases call with
  | terminate => exact step ((Still.refl t).advances (by simp [Leaves, Suits, Foreign]))
  | sendRequest outlet channel busy =>
      have entered : t.enter (.sendRequest outlet channel busy) =
          if t.kind.isClient then t.sendRequestTo outlet channel busy else .ok (t, []) := rfl
      rw [entered]
      split
      · unfold sendRequestTo
        split
        · exact step idle
        · next usable =>
            split
            · exact step idle
            · have fresh : t.state = .init := by
                by_contra other
                exact usable (.inl other)
              apply Checked.onReturn_bind.mpr
              apply (updateDialog_still false).mono
              intro (after, drops) ⟨still, outside⟩
              exact .asks fresh still drops outside outlet channel
      · exact step idle
  | sendResponse resp channel =>
      have entered : t.enter (.sendResponse resp channel) =
          if t.kind.isClient then .ok (t, []) else t.sendResponse resp channel := rfl
      rw [entered]
      split
      · exact step idle
      · exact step (sendResponse_progresses resp channel)
  | channelReady =>
      have entered : t.enter .channelReady =
          if t.kind.isClient ∧ t.channel.isSome then t.onChannelReady else .ok (t, []) := rfl
      rw [entered]
      split
      · unfold onChannelReady
        split
        · next fresh =>
            apply step
            apply sendRequest_armed.mono
            rintro ⟨after, frames⟩ ⟨rfl, same | ⟨request, begun, armed⟩⟩
            · exact same.advances (List.forall_mem_nil _)
            · exact .moved request begun (by rw [fresh]; decide) (List.forall_mem_nil _) fun timer waits =>
                .inl (.inr (.inl (armed timer waits)))
        · exact step idle
      · exact step idle
  | channelEnded =>
      have entered : t.enter .channelEnded =
          if t.kind.isClient ∧ t.channel.isSome then t.onChannelEnded else .ok (t, []) := rfl
      rw [entered]
      split
      · apply step
        apply (Still.refl t).advances
        split <;> simp [Leaves, Suits, Foreign]
      · exact step idle
  | setDialog dialog =>
      have still : t.Still { t with dialog := dialog } := ⟨rfl, rfl, rfl, rfl, rfl⟩
      exact step (rereads_rest still).progresses
  | setListeners listeners =>
      have still : t.Still { t with listeners := listeners } := ⟨rfl, rfl, rfl, rfl, rfl⟩
      exact step (rereads_rest still).progresses

theorem begin_outcome (event : Event) :
    OnReturn (t.begin event) fun (after, frames) => t.Outcome (.begin event) after frames := by
  have step {part : Part} (progresses : t.Progresses part) :
      OnReturn part fun (after, frames) => t.Outcome (.begin event) after frames :=
    OnReturn.mono progresses fun (after, frames) advances => .advances advances nofun nofun
  have idle : t.Progresses (.ok (t, [])) := (rereads_rest (Still.refl t)).progresses
  cases event with
  | timer timer suspect =>
      have begun : t.begin (.timer timer suspect) =
          if timer ∈ t.sources then t.onTimer timer suspect else .ok (t, []) := rfl
      rw [begun]
      split
      · next source => exact (onTimer_fired timer suspect).mono fun _ fired => .fires timer suspect rfl source fired
      · exact step idle
  | response resp found =>
      have begun : t.begin (.response resp found) =
          if t.kind.isClient ∧ 0 < t.known then t.onResponse resp found else .ok (t, []) := rfl
      rw [begun]
      split
      · exact step onResponse_progresses
      · exact step idle
  | request req =>
      have begun : t.begin (.request req) =
          if !t.kind.isClient ∧ 0 < t.known then t.onRequest req else .ok (t, []) := rfl
      rw [begun]
      split
      · exact step (onRequest_progresses req)
      · exact step idle

theorem endTimer_terminated (ended : t.state = .terminated) : t.endTimer = none := by
  rw [endTimer, ended]
  cases t.kind <;> rfl

theorem invoke_rereads (callback : Callback) (listeners : List Listener) : t.Rereads (t.invoke callback listeners) := by
  unfold invoke record
  split
  · exact rereads_rest (Still.refl t)
  · refine ⟨?_, by simp [Leaves, Suits, Foreign]⟩
    split <;> exact ⟨rfl, rfl, rfl, rfl, rfl⟩

theorem finishCompleted_outcome (begun : t.state ≠ .init) :
    OnReturn t.finishCompleted fun (after, frames) => t.Outcome .finishCompleted after frames := by
  unfold finishCompleted
  refine Checked.onReturn_bind.mpr (Checked.onReturn_deref.mpr fun channel _ => ?_)
  split
  · exact .advances ((Still.refl t).advances (by simp [Leaves, Suits, Foreign]))
      (fun timer _ _ => .inr (.inr ⟨_, List.mem_singleton_self _, trivial⟩)) nofun
  · refine .advances (startTimer_advances begun .k) (fun timer _ arms => ?_) nofun
    obtain rfl := arms
    exact .inr (.inl List.mem_cons_self)

theorem perform_outcome (task : Task) (suits : t.Suits (.task task)) :
    OnReturn (t.perform task) fun (after, frames) => t.Outcome task after frames := by
  have step {task : Task} {after : Transaction} {frames : List (Frame Task)} (still : t.Still after)
      (leaves : ∀ frame ∈ frames, after.Leaves frame) (unarmed : ∀ timer, ¬ Arms timer (.task task))
      (other : task ≠ .terminate) : t.Outcome task after frames :=
    .advances (still.advances leaves) (fun timer _ arms => absurd arms (unarmed timer)) fun same => absurd same other
  cases task with
  | enter call => exact enter_outcome call
  | begin event => exact begin_outcome event
  | terminate =>
      apply terminate_ends.mono
      intro (after, frames) ⟨advances, ended⟩
      refine .advances advances (fun timer waits => ?_) fun _ => ended
      rw [endTimer_terminated ended] at waits
      cases waits
  | onTerminate => exact .forgets trivial rfl rfl (List.forall_mem_nil _)
  | setTransactionTerminated => exact .forgets trivial rfl rfl (by simp [Leaves, Suits, Foreign])
  | removeTransaction =>
      have still : t.Still { t with known := t.known - 1 } := ⟨rfl, rfl, rfl, rfl, rfl⟩
      exact step still (List.forall_mem_nil _) (by simp [Arms]) nofun
  | invokeListeners callback =>
      exact step (Still.refl t) (by simp [Leaves, Suits, Foreign]) (by simp [Arms]) nofun
  | invoke callback listeners =>
      exact OnReturn.mono (invoke_rereads callback listeners) fun (after, _) ⟨still, leaves⟩ =>
        step still (fun frame among => leaves frame among after) (by simp [Arms]) nofun
  | send outlet channel => exact send_outcome outlet channel
  | startTimerD =>
      refine .advances (startTimer_advances suits .d) (fun timer _ arms => ?_) nofun
      obtain rfl := arms
      exact .inr (.inl List.mem_cons_self)
  | finishCompleted =>
      exact finishCompleted_outcome suits
  | reportTimeout =>
      refine step (Still.refl t) ?_ (by simp [Arms]) nofun
      split <;> simp [Leaves, Suits, Foreign]
  | stopSource timer => exact .stops timer rfl

end Transaction

end Callbacks

end BelleSip
