import BelleSip.Transaction.EndTimers

/-
This file proves that a transaction which only a timer can end has that timer, whatever the callbacks have done, and
that the timer ends it.
-/

namespace BelleSip

open Foundation
open Foundation.Checked (OnReturn)
open Foundation.Reentrance (Frame Config Input Program)

namespace Callbacks

namespace Transaction

variable {t after : Transaction} {task : Task} {frames rest : List (Frame Task)}

/-- The transaction has the timer that ends it, and the stack is such that no work that is left takes it away. -/
structure Covers (t : Transaction) (stack : List (Frame Task)) : Prop where
  armed : ∀ timer, t.endTimer = some timer → t.TimedOut timer ∨
    (timer ∈ t.sources ∧ .task (.stopSource timer) ∉ stack) ∨ ∃ frame ∈ stack, Arms timer frame
  fresh : t.state = .init → t.sources = []
  suits : ∀ frame ∈ stack, t.Suits frame
  /-- The request is not sent after the timers were to be forgotten. -/
  apart : stack.Pairwise fun first second => Asks first → ¬ Forgets second
  /-- A timer that fires has ended the transaction, or is about to, or is not needed. -/
  stopping : ∀ timer, .task (.stopSource timer) ∈ stack → t.state ≠ .init ∧ (∀ frame ∈ stack, ¬ Asks frame) ∧
    (t.state = .terminated ∨ .task .terminate ∈ stack ∨ stack = [.task (.stopSource timer)])
  begun : ∀ event, .task (.begin event) ∈ stack → stack = [.task (.begin event)]

namespace Covers

/-- A started timer is not taken away by the timer that has fired. -/
theorem kept (covers : t.Covers (.task task :: rest)) (advances : t.Advances after frames)
    (ends : task = .terminate → after.state = .terminated) {timer : Timer} (waits : after.endTimer = some timer)
    (source : timer ∈ after.sources) : (timer ∈ after.sources ∧ .task (.stopSource timer) ∉ frames ++ rest) ∨
      ∃ frame ∈ frames ++ rest, Arms timer frame := by
  by_cases stopped : .task (.stopSource timer) ∈ rest
  · refine .inr ?_
    have open' : after.state ≠ .terminated := by
      intro ended
      rw [endTimer_terminated ended] at waits
      cases waits
    obtain ⟨-, -, ended | terminating | alone⟩ := covers.stopping timer (List.mem_cons_of_mem _ stopped)
    · exact absurd (advances.lasting ended) open'
    · rcases List.mem_cons.mp terminating with own | behind
      · cases own
        exact absurd (ends rfl) open'
      · exact ⟨_, List.mem_append_right _ behind, trivial⟩
    · cases alone
      cases stopped
  · refine .inl ⟨source, fun among => ?_⟩
    rcases List.mem_append.mp among with before | behind
    · exact (advances.leaves _ before).2 trivial
    · exact stopped behind

theorem advances (covers : t.Covers (.task task :: rest)) (advances : t.Advances after frames)
    (own : ∀ timer, after.endTimer = some timer → Arms timer (.task task) → after.Armed frames timer)
    (ends : task = .terminate → after.state = .terminated) : after.Covers (frames ++ rest) where
  armed := by
    intro timer waits
    have kept (source : timer ∈ after.sources) := covers.kept advances ends waits source
    have now (armed : after.Armed frames timer) : after.TimedOut timer ∨
        (timer ∈ after.sources ∧ .task (.stopSource timer) ∉ frames ++ rest) ∨
          ∃ frame ∈ frames ++ rest, Arms timer frame := by
      rcases armed with reported | source | ⟨frame, among, arms⟩
      · exact .inl reported
      · exact .inr (kept source)
      · exact .inr (.inr ⟨frame, List.mem_append_left _ among, arms⟩)
    rcases advances.armed timer waits with armed | ⟨before, reported, source⟩
    · exact now armed
    · rcases covers.armed timer before with early | ⟨early, -⟩ | ⟨frame, among, arms⟩
      · exact .inl (reported early)
      · exact .inr (kept (source early))
      · rcases List.mem_cons.mp among with rfl | behind
        · exact now (own timer waits arms)
        · exact .inr (.inr ⟨frame, List.mem_append_right _ behind, arms⟩)
  fresh := fun init => by
    obtain ⟨before, sources⟩ := advances.fresh init
    exact sources.trans (covers.fresh before)
  suits := by
    refine List.forall_mem_append.mpr ⟨fun frame among => (advances.leaves frame among).1, fun frame behind => ?_⟩
    have suits := covers.suits frame (List.mem_cons_of_mem _ behind)
    unfold Suits at suits ⊢
    split
    · exact advances.lasting suits
    · exact advances.lasting suits
    · exact fun init => suits (advances.fresh init).1
    · exact fun init => suits (advances.fresh init).1
    · trivial
  apart := by
    refine List.pairwise_append.mpr ⟨?_, (List.pairwise_cons.mp covers.apart).2, ?_⟩
    · refine List.pairwise_of_forall_mem_list fun first among second _ asks => ?_
      exact absurd asks (advances.leaves first among).unasked
    · exact fun first among second _ asks => absurd asks (advances.leaves first among).unasked
  stopping := by
    intro timer among
    have behind : .task (.stopSource timer) ∈ rest := by
      rcases List.mem_append.mp among with before | behind
      · exact absurd trivial (advances.leaves _ before).2
      · exact behind
    obtain ⟨begun, unasked, cases⟩ := covers.stopping timer (List.mem_cons_of_mem _ behind)
    refine ⟨fun init => begun (advances.fresh init).1, ?_, ?_⟩
    · exact List.forall_mem_append.mpr ⟨fun frame before => (advances.leaves frame before).unasked,
        fun frame behind => unasked frame (List.mem_cons_of_mem _ behind)⟩
    · rcases cases with ended | terminating | alone
      · exact .inl (advances.lasting ended)
      · rcases List.mem_cons.mp terminating with own | later
        · cases own
          exact .inl (ends rfl)
        · exact .inr (.inl (List.mem_append_right _ later))
      · cases alone
        cases behind
  begun := by
    intro event among
    rcases List.mem_append.mp among with before | behind
    · exact absurd trivial (advances.leaves _ before).2
    · cases covers.begun event (List.mem_cons_of_mem _ behind)
      cases behind

/-- The request is to be sent, by a transaction that has done nothing. -/
theorem asks (covers : t.Covers (.task task :: rest)) (fresh : t.state = .init) (still : t.Still after)
    {drops : List (Frame Task)} (outside : ∀ frame ∈ drops, frame = .outside) (outlet : Outlet)
    (channel : Server.PeerChannel) : after.Covers (drops ++ [.task (.send outlet channel)] ++ rest) := by
  have state : after.state = .init := still.state.trans fresh
  have among {frame : Frame Task} (here : frame ∈ drops ++ [.task (.send outlet channel)] ++ rest) :
      frame = .outside ∨ frame = .task (.send outlet channel) ∨ frame ∈ rest := by
    rcases List.mem_append.mp here with before | behind
    · rcases List.mem_append.mp before with drop | send
      · exact .inl (outside frame drop)
      · exact .inr (.inl (List.mem_singleton.mp send))
    · exact .inr (.inr behind)
  have unforgotten : ∀ frame ∈ rest, ¬ Forgets frame := by
    intro frame behind forgets
    have suits := covers.suits frame (List.mem_cons_of_mem _ behind)
    unfold Forgets at forgets
    unfold Suits at suits
    split at forgets
    · cases fresh.symm.trans suits
    · cases fresh.symm.trans suits
    · exact forgets
  refine ⟨?_, fun _ => still.sources.trans (covers.fresh fresh), ?_, ?_, ?_, ?_⟩
  · intro timer waits
    rw [endTimer, state] at waits
    cases kind : after.kind <;> rw [kind] at waits <;> cases waits
  · intro frame here
    rcases among here with rfl | rfl | behind
    · trivial
    · trivial
    · have suits := covers.suits frame (List.mem_cons_of_mem _ behind)
      unfold Suits at suits ⊢
      rw [still.state]
      exact suits
  · refine List.pairwise_append.mpr ⟨?_, (List.pairwise_cons.mp covers.apart).2, ?_⟩
    · refine List.pairwise_of_forall_mem_list fun first _ second there _ forgets => ?_
      rcases List.mem_append.mp there with drop | send
      · rw [outside second drop] at forgets
        exact forgets
      · rw [List.mem_singleton.mp send] at forgets
        exact forgets
    · exact fun first _ second behind _ => unforgotten second behind
  · intro timer here
    rcases among here with other | other | behind
    · cases other
    · cases other
    · exact absurd fresh (covers.stopping timer (List.mem_cons_of_mem _ behind)).1
  · intro event here
    rcases among here with other | other | behind
    · cases other
    · cases other
    · cases covers.begun event (List.mem_cons_of_mem _ behind)
      cases behind

/-- The request is sent, and nothing behind it stops its timer. -/
theorem sends (covers : t.Covers (.task task :: rest)) (asked : Asks (.task task)) (begun : after.state ≠ .init)
    (leaves : ∀ frame ∈ frames, after.Leaves frame)
    (armed : ∀ timer, after.endTimer = some timer → timer ∈ after.sources) : after.Covers (frames ++ rest) := by
  have unstopped (timer : Timer) : .task (.stopSource timer) ∉ frames ++ rest := by
    intro among
    rcases List.mem_append.mp among with before | behind
    · exact (leaves _ before).2 trivial
    · exact (covers.stopping timer (List.mem_cons_of_mem _ behind)).2.1 _ List.mem_cons_self asked
  have pairs := List.pairwise_cons.mp covers.apart
  refine ⟨fun timer waits => .inr (.inl ⟨armed timer waits, unstopped timer⟩), fun init => absurd init begun, ?_, ?_,
    fun timer among => absurd among (unstopped timer), ?_⟩
  · refine List.forall_mem_append.mpr ⟨fun frame among => (leaves frame among).1, fun frame among => ?_⟩
    have remembers := pairs.1 frame among asked
    unfold Forgets at remembers
    unfold Suits
    split
    · exact absurd trivial remembers
    · exact absurd trivial remembers
    · exact begun
    · exact begun
    · trivial
  · refine List.pairwise_append.mpr ⟨?_, pairs.2, ?_⟩
    · refine List.pairwise_of_forall_mem_list fun first among second _ asks => ?_
      exact absurd asks (leaves first among).unasked
    · exact fun first among second _ asks => absurd asks (leaves first among).unasked
  · intro event among
    rcases List.mem_append.mp among with before | behind
    · exact absurd trivial (leaves _ before).2
    · cases covers.begun event (List.mem_cons_of_mem _ behind)
      cases behind

/-- The timers of a transaction that has terminated are forgotten. -/
theorem forgets (covers : t.Covers (.task task :: rest)) (forgotten : Forgets (.task task))
    (request : after.request = t.request) (state : after.state = t.state)
    (leaves : ∀ frame ∈ frames, after.Leaves frame) :
    after.Covers (frames ++ rest) := by
  have ended : t.state = .terminated := by
    have suits := covers.suits _ List.mem_cons_self
    unfold Forgets at forgotten
    unfold Suits at suits
    split at forgotten
    · next same => cases same; exact suits
    · next same => cases same; exact suits
    · exact forgotten.elim
  have unneeded (timer : Timer) : after.endTimer ≠ some timer := by
    rw [endTimer_terminated (state.trans ended)]
    nofun
  refine covers.advances ⟨request, fun init => ?_, state.trans, leaves, fun timer waits => ?_⟩
    (fun timer waits => absurd waits (unneeded timer)) fun _ => state.trans ended
  · cases ended.symm.trans (state.symm.trans init)
  · exact absurd waits (unneeded timer)

/-- The timer is removed whose callback is done. -/
theorem stops {timer : Timer} (covers : t.Covers (.task (.stopSource timer) :: rest)) :
    { t with sources := t.sources.filter fun other => other ≠ timer }.Covers rest where
  armed := by
    intro other waits
    rcases covers.armed other waits with reported | ⟨source, unstopped⟩ | ⟨frame, among, arms⟩
    · exact .inl reported
    · have different : other ≠ timer := by
        rintro rfl
        exact unstopped List.mem_cons_self
      exact .inr (.inl ⟨List.mem_filter.mpr ⟨source, decide_eq_true different⟩,
        fun behind => unstopped (List.mem_cons_of_mem _ behind)⟩)
    · rcases List.mem_cons.mp among with rfl | behind
      · exact arms.elim
      · exact .inr (.inr ⟨frame, behind, arms⟩)
  fresh := fun init => absurd init (covers.stopping timer List.mem_cons_self).1
  suits := fun frame behind => covers.suits frame (List.mem_cons_of_mem _ behind)
  apart := (List.pairwise_cons.mp covers.apart).2
  stopping := by
    intro other behind
    obtain ⟨begun, unasked, cases⟩ := covers.stopping other (List.mem_cons_of_mem _ behind)
    refine ⟨begun, fun frame among => unasked frame (List.mem_cons_of_mem _ among), ?_⟩
    rcases cases with ended | terminating | alone
    · exact .inl ended
    · exact .inr (.inl ((List.mem_cons.mp terminating).resolve_left nofun))
    · cases alone
      cases behind
  begun := by
    intro event behind
    cases covers.begun event (List.mem_cons_of_mem _ behind)

/-- A timer fires while nothing else is left to do. -/
theorem fires {timer : Timer} {suspect : Bool} (covers : t.Covers [.task (.begin (.timer timer suspect))])
    (source : timer ∈ t.sources) (fired : t.Fired timer suspect after frames)
    (suspected : t.request.method = "REGISTER" → suspect = true) : after.Covers frames := by
  have begun : t.state ≠ .init := by
    intro init
    rw [covers.fresh init] at source
    cases source
  have armed (other : Timer) (waits : t.endTimer = some other) : t.TimedOut other ∨ other ∈ t.sources := by
    rcases covers.armed other waits with reported | ⟨source, -⟩ | ⟨frame, among, arms⟩
    · exact .inl reported
    · exact .inr source
    · rw [List.mem_singleton.mp among] at arms
      exact arms.elim
  cases fired with
  | again still unneeded =>
      have advances : t.Advances after [] := still.advances (List.forall_mem_nil _)
      exact covers.advances advances (fun timer _ arms => arms.elim) nofun
  | late unneeded =>
      refine ⟨fun other waits => ?_, fun init => absurd init begun, by simp [Suits], by simp, ?_, by simp⟩
      · rcases armed other waits with reported | source
        · exact .inl reported
        · refine .inr (.inl ⟨source, fun among => ?_⟩)
          cases List.mem_singleton.mp among
          exact unneeded waits
      · intro other among
        cases List.mem_singleton.mp among
        exact ⟨begun, by simp [Asks], .inr (.inr rfl)⟩
  | reported register limits =>
      refine ⟨fun other waits => ?_, fun init => absurd init begun, by simp [Suits], by simp, ?_, by simp⟩
      · by_cases same : other = timer
        · subst same
          exact .inl ⟨limits, by simp [suspected register]⟩
        · rcases armed other waits with reported | source
          · exact .inl ⟨reported.1, by simp [reported.2]⟩
          · refine .inr (.inl ⟨source, fun among => ?_⟩)
            cases List.mem_singleton.mp among
            exact same rfl
      · intro other among
        cases List.mem_singleton.mp among
        exact ⟨begun, by simp [Asks], .inr (.inr rfl)⟩
  | ends told reports =>
      have terminating : Frame.task Task.terminate ∈ told ++ [.task .terminate, .task (.stopSource timer)] :=
        List.mem_append_right _ List.mem_cons_self
      have among {frame : Frame Task} (here : frame ∈ told ++ [.task .terminate, .task (.stopSource timer)]) :
          t.Leaves frame ∨ frame = .task .terminate ∨ frame = .task (.stopSource timer) := by
        rcases List.mem_append.mp here with before | behind
        · exact .inl (reports frame before)
        · exact .inr (by simpa using behind)
      have unasked : ∀ frame ∈ told ++ [.task .terminate, .task (.stopSource timer)], ¬ Asks frame := by
        intro frame here
        rcases among here with leaves | rfl | rfl
        · exact leaves.unasked
        · exact id
        · exact id
      refine ⟨fun other _ => .inr (.inr ⟨_, terminating, trivial⟩), fun init => absurd init begun, ?_, ?_,
        fun _ _ => ⟨begun, unasked, .inr (.inl terminating)⟩, ?_⟩
      · intro frame here
        rcases among here with leaves | rfl | rfl
        · exact leaves.1
        · trivial
        · trivial
      · exact List.pairwise_of_forall_mem_list fun first here second _ asks => absurd asks (unasked first here)
      · intro event here
        rcases among here with leaves | other | other
        · exact absurd trivial leaves.2
        · cases other
        · cases other

theorem next (covers : t.Covers (.task task :: rest))
    (suspected : ∀ timer suspect, task = .begin (.timer timer suspect) → t.request.method = "REGISTER" →
      suspect = true) : OnReturn (t.perform task) fun (after, frames) => after.Covers (frames ++ rest) := by
  apply (perform_outcome task (covers.suits _ List.mem_cons_self)).mono
  intro (after, frames) outcome
  have outcome : t.Outcome task after frames := outcome
  cases outcome with
  | advances advances own ends => exact covers.advances advances own ends
  | asks fresh still drops outside outlet channel => exact covers.asks fresh still outside outlet channel
  | sends asked request begun leaves armed => exact covers.sends asked begun leaves armed
  | forgets forgotten request state leaves => exact covers.forgets forgotten request state leaves
  | stops timer stopping =>
      subst stopping
      exact covers.stops
  | fires timer suspect begun source fired =>
      subst begun
      cases covers.begun _ List.mem_cons_self
      have fires := covers.fires source fired (suspected timer suspect rfl)
      rw [← List.append_nil frames] at fires
      exact fires

end Covers

/-- The transaction has terminated, or the work that is left terminates it. -/
structure Concludes (t : Transaction) (stack : List (Frame Task)) : Prop where
  begun : t.state ≠ .init
  unasked : ∀ frame ∈ stack, ¬ Asks frame
  ends : t.state = .terminated ∨ .task .terminate ∈ stack

theorem Fired.state {timer : Timer} {suspect : Bool} (fired : t.Fired timer suspect after frames) :
    after.state = t.state := by
  cases fired with
  | again still unneeded => exact still.state
  | late unneeded => rfl
  | reported register limits => rfl
  | ends told reports => rfl

theorem Fired.unasked {timer : Timer} {suspect : Bool} (fired : t.Fired timer suspect after frames) :
    ∀ frame ∈ frames, ¬ Asks frame := by
  cases fired with
  | again still unneeded => exact List.forall_mem_nil _
  | late unneeded => simp [Asks]
  | reported register limits => simp [Asks]
  | ends told reports =>
      refine List.forall_mem_append.mpr ⟨fun frame among => (reports frame among).unasked, ?_⟩
      simp [Asks]

/-- The timer of the state ends the transaction, unless it is reported to the channel. -/
theorem Fired.concludes {timer : Timer} {suspect : Bool} (fired : t.Fired timer suspect after frames)
    (begun : t.state ≠ .init) (waits : t.endTimer = some timer)
    (other : t.request.method = "REGISTER" → timer ≠ .b ∧ timer ≠ .f) : after.Concludes frames where
  begun := fun init => begun (fired.state.symm.trans init)
  unasked := fired.unasked
  ends := by
    cases fired with
    | again still unneeded => exact absurd waits unneeded
    | late unneeded => exact absurd waits unneeded
    | reported register limits => exact absurd limits (not_or.mpr (other register))
    | ends told reports => exact .inr (List.mem_append_right _ List.mem_cons_self)

/-- A transaction that is ending is not begun again. -/
theorem Concludes.next (ending : t.Concludes (.task task :: rest)) (suits : t.Suits (.task task)) :
    OnReturn (t.perform task) fun (after, frames) => after.Concludes (frames ++ rest) := by
  have behind : ∀ frame ∈ rest, ¬ Asks frame := fun frame among => ending.unasked frame (List.mem_cons_of_mem _ among)
  apply (perform_outcome task suits).mono
  intro (after, frames) outcome
  have outcome : t.Outcome task after frames := outcome
  have same (state : after.state = t.state) (unasked : ∀ frame ∈ frames, ¬ Asks frame) (other : task ≠ .terminate) :
      after.Concludes (frames ++ rest) := by
    refine ⟨fun init => ending.begun (state.symm.trans init), List.forall_mem_append.mpr ⟨unasked, behind⟩, ?_⟩
    rcases ending.ends with ended | terminating
    · exact .inl (state.trans ended)
    · refine .inr (List.mem_append_right _ ((List.mem_cons.mp terminating).resolve_left fun own => ?_))
      cases own
      exact other rfl
  cases outcome with
  | advances advances own ends =>
      refine ⟨fun init => ending.begun (advances.fresh init).1, ?_, ?_⟩
      · exact List.forall_mem_append.mpr ⟨fun frame among => (advances.leaves frame among).unasked, behind⟩
      · rcases ending.ends with ended | terminating
        · exact .inl (advances.lasting ended)
        · rcases List.mem_cons.mp terminating with own | later
          · cases own
            exact .inl (ends rfl)
          · exact .inr (List.mem_append_right _ later)
  | asks fresh still drops outside outlet channel => exact absurd fresh ending.begun
  | sends asked request begun leaves armed => exact absurd asked (ending.unasked _ List.mem_cons_self)
  | forgets forgotten request state leaves =>
      refine same state (fun frame among => (leaves frame among).unasked) ?_
      rintro rfl
      exact forgotten
  | stops timer stopping =>
      subst stopping
      exact same rfl (List.forall_mem_nil _) nofun
  | fires timer suspect begun source fired =>
      subst begun
      exact same fired.state fired.unasked nofun

/-- What the code does to a request never changes its method. -/
theorem perform_request (suits : t.Suits (.task task)) :
    OnReturn (t.perform task) fun (after, _) => after.request = t.request := by
  apply (perform_outcome task suits).mono
  intro (after, frames) outcome
  have outcome : t.Outcome task after frames := outcome
  cases outcome with
  | advances advances own ends => exact advances.request
  | asks fresh still drops outside outlet channel => exact still.request
  | sends asked request begun leaves armed => exact request
  | forgets forgotten request state leaves => exact request
  | stops timer stopping => rfl
  | fires timer suspect begun source fired =>
      cases fired with
      | again still unneeded => exact still.request
      | late unneeded => rfl
      | reported register limits => rfl
      | ends told reports => rfl

/-- A response 100 leaves an INVITE server transaction as it is. -/
theorem sendTrying_still (ist : t.kind = .ist) (proceeding : t.state = .proceeding) {resp : Response}
    (trying : resp.statusCode = 100) (channel : Option Server.PeerChannel) :
    OnReturn (t.sendResponse resp channel) fun result => t.Still result.1 := by
  have sent (t : Transaction) (ist : t.kind = .ist) (proceeding : t.state = .proceeding) :
      OnReturn (t.sendOnChannel resp) fun result => t.Still result.1 := by
    have complete : t.complete resp = .ok resp := if_pos trying
    have queued : OnReturn (t.sendNewResponse resp) fun result => t.Still result.1 := by
      unfold sendNewResponse
      rw [ist]
      unfold istSendNewResponse
      rw [proceeding]
      apply Checked.onReturn_bind.mpr
      apply (queueMessage_still _).mono
      intro after still
      rw [if_neg (by omega), if_neg (by omega)]
      exact still
    unfold sendOnChannel
    rw [complete]
    apply Checked.onReturn_bind.mpr
    rw [Checked.onReturn_ok]
    apply Checked.onReturn_bind.mpr
    apply OnReturn.mono queued
    intro result still
    apply (updateDialog_still true).mono
    intro last same
    refine still.trans (Still.trans ?_ same.1)
    split <;> exact ⟨rfl, rfl, rfl, rfl, rfl⟩
  unfold sendResponse
  split
  · exact sent t ist proceeding
  · exact ⟨rfl, rfl, rfl, rfl, rfl⟩
  · next peer _ =>
      have connected : t.Still { t with channel := some peer } := ⟨rfl, rfl, rfl, rfl, rfl⟩
      exact OnReturn.mono (sent _ ist proceeding) fun _ still => connected.trans still

/-- The transaction is new: it has no timer, and waits for its request or for the application. -/
theorem new_covers (kind : Kind) (request : Request) (toTag : String) (channel : Option Server.PeerChannel) :
    OnReturn (new kind request toTag channel) fun t => t.Covers [] ∧ t.request = request := by
  have covers (t : Transaction) (unneeded : t.endTimer = none) (fresh : t.sources = []) : t.Covers [] := by
    refine ⟨fun timer waits => ?_, fun _ => fresh, by simp, List.Pairwise.nil, by simp, by simp⟩
    rw [unneeded] at waits
    cases waits
  cases kind with
  | ict => exact ⟨covers _ rfl rfl, rfl⟩
  | nict => exact ⟨covers _ rfl rfl, rfl⟩
  | nist => exact ⟨covers _ rfl rfl, rfl⟩
  | ist =>
      let fresh : Transaction := { kind := .ist, request := request, toTag := toTag, state := .proceeding }
      apply Checked.onReturn_bind.mpr
      have trying : OnReturn (fresh.sendResponse (Response.createFromRequest request 100) channel)
          fun result => fresh.Still result.1 := sendTrying_still rfl rfl rfl channel
      apply OnReturn.mono trying
      intro result still
      exact ⟨covers _ (still.endTimer) still.sources, still.request⟩

end Transaction

/-- A REGISTER times out when its channel is suspect. -/
def Suspected (t : Transaction) (task : Task) (_ : List (Frame Task)) : Prop :=
  match task with
  | .begin (.timer _ suspect) => t.request.method = "REGISTER" → suspect = true
  | _ => True

instance : (t : Transaction) → (task : Task) → (rest : List (Frame Task)) → Decidable (Suspected t task rest)
  | t, .begin (.timer _ suspect), _ => inferInstanceAs (Decidable (t.request.method = "REGISTER" → suspect = true))
  | _, .begin (.response _ _), _ | _, .begin (.request _), _ | _, .enter _, _ | _, .terminate, _ | _, .onTerminate, _
  | _, .setTransactionTerminated, _ | _, .removeTransaction, _ | _, .invokeListeners _, _ | _, .invoke _ _, _
  | _, .send _ _, _ | _, .startTimerD, _ | _, .finishCompleted, _ | _, .reportTimeout, _ | _, .stopSource _, _ =>
      isTrue trivial

namespace Transaction

variable {t : Transaction} {rest : List (Frame Task)}

/-- Outside code returns or makes a call. -/
theorem Covers.returned (covers : t.Covers (.outside :: rest)) : t.Covers rest where
  armed := by
    intro timer waits
    refine (covers.armed timer waits).imp_right (Or.imp ?_ ?_)
    · exact fun ⟨source, unstopped⟩ => ⟨source, fun among => unstopped (List.mem_cons_of_mem _ among)⟩
    · intro ⟨frame, among, arms⟩
      rcases List.mem_cons.mp among with rfl | behind
      · exact arms.elim
      · exact ⟨frame, behind, arms⟩
  fresh := covers.fresh
  suits := fun frame among => covers.suits frame (List.mem_cons_of_mem _ among)
  apart := (List.pairwise_cons.mp covers.apart).2
  stopping := by
    intro timer among
    obtain ⟨begun, unasked, cases⟩ := covers.stopping timer (List.mem_cons_of_mem _ among)
    refine ⟨begun, fun frame among => unasked frame (List.mem_cons_of_mem _ among), ?_⟩
    rcases cases with ended | terminating | alone
    · exact .inl ended
    · exact .inr (.inl ((List.mem_cons.mp terminating).resolve_left nofun))
    · cases alone
  begun := by
    intro event among
    cases covers.begun event (List.mem_cons_of_mem _ among)

theorem Covers.called (covers : t.Covers rest) (waits : ∀ frame ∈ rest.head?, frame = .outside) (call : Call) :
    t.Covers (.task (.enter call) :: rest) where
  armed := by
    intro timer waits
    refine (covers.armed timer waits).imp_right (Or.imp ?_ ?_)
    · exact fun ⟨source, unstopped⟩ => ⟨source, fun among => unstopped ((List.mem_cons.mp among).resolve_left nofun)⟩
    · exact fun ⟨frame, among, arms⟩ => ⟨frame, List.mem_cons_of_mem _ among, arms⟩
  fresh := covers.fresh
  suits := List.forall_mem_cons.mpr ⟨trivial, covers.suits⟩
  apart := List.pairwise_cons.mpr ⟨fun _ _ asks => asks.elim, covers.apart⟩
  stopping := by
    intro timer among
    obtain ⟨begun, unasked, cases⟩ := covers.stopping timer ((List.mem_cons.mp among).resolve_left nofun)
    refine ⟨begun, List.forall_mem_cons.mpr ⟨id, unasked⟩, ?_⟩
    rcases cases with ended | terminating | alone
    · exact .inl ended
    · exact .inr (.inl (List.mem_cons_of_mem _ terminating))
    · rw [alone] at waits
      cases waits _ rfl
  begun := by
    intro event among
    have alone := covers.begun event ((List.mem_cons.mp among).resolve_left nofun)
    rw [alone] at waits
    cases waits _ rfl

theorem Covers.began (covers : t.Covers []) (event : Event) : t.Covers [.task (.begin event)] where
  armed := by
    intro timer waits
    refine (covers.armed timer waits).imp_right (Or.imp ?_ ?_)
    · exact fun ⟨source, _⟩ => ⟨source, by simp⟩
    · intro ⟨frame, among, _⟩
      cases among
  fresh := covers.fresh
  suits := by simp [Suits]
  apart := by simp
  stopping := by simp
  begun := by
    intro other among
    exact (List.mem_singleton.mp among) ▸ rfl

end Transaction

section Keeps

variable (request : Request)

/-- The transaction of the request has the timer that ends it. -/
def Holds (t : Transaction) (stack : List (Frame Task)) : Prop := t.Covers stack ∧ t.request = request

theorem holds_keeps : program.Keeps Suspected (Holds request) where
  done := by
    intro t task rest ⟨covers, same⟩ suspected
    have suits := covers.suits _ List.mem_cons_self
    have covered := covers.next fun timer suspect (begins : task = .begin (.timer timer suspect)) => by
      subst begins
      exact suspected
    exact (OnReturn.and covered (Transaction.perform_request suits)).mono fun _ ⟨covers, kept⟩ =>
      ⟨covers, kept.trans same⟩
  returned := fun _ _ ⟨covers, same⟩ => ⟨covers.returned, same⟩
  called := fun _ call _ ⟨covers, same⟩ => ⟨covers.called (by simp) call, same⟩
  entered := fun _ call ⟨covers, same⟩ => ⟨covers.called (by simp) call, same⟩
  began := fun _ event ⟨covers, same⟩ => ⟨covers.began event, same⟩

/-- The transaction is ending, or the first thing that is done makes it end. -/
def Expires (t : Transaction) (stack : List (Frame Task)) : Prop :=
  Holds request t stack ∧ (t.Concludes stack ∨ ∃ task, stack = [.task task] ∧
    OnReturn (t.perform task) fun (after, frames) => after.Concludes frames)

theorem expires_keeps : program.Keeps Suspected (Expires request) where
  done := by
    intro t task rest ⟨holds, expires⟩ suspected
    have suits := holds.1.suits _ List.mem_cons_self
    have held := (holds_keeps request).done t task rest holds suspected
    rcases expires with ending | ⟨first, alone, ends⟩
    · exact (OnReturn.and held (ending.next suits)).mono fun _ ⟨holds, ending⟩ => ⟨holds, .inl ending⟩
    · cases alone
      apply (OnReturn.and held ends).mono
      intro (after, frames) ⟨holds, ending⟩
      have ending : after.Concludes frames := ending
      refine ⟨holds, .inl ?_⟩
      rw [← List.append_nil frames] at ending
      exact ending
  returned := by
    intro t rest ⟨holds, expires⟩
    refine ⟨(holds_keeps request).returned t rest holds, .inl ?_⟩
    rcases expires with ending | ⟨first, alone, ends⟩
    · refine ⟨ending.begun, fun frame among => ending.unasked frame (List.mem_cons_of_mem _ among), ?_⟩
      rcases ending.ends with ended | terminating
      · exact .inl ended
      · exact .inr ((List.mem_cons.mp terminating).resolve_left nofun)
    · cases alone
  called := by
    intro t call rest ⟨holds, expires⟩
    refine ⟨(holds_keeps request).called t call rest holds, .inl ?_⟩
    rcases expires with ending | ⟨first, alone, ends⟩
    · exact ⟨ending.begun, List.forall_mem_cons.mpr ⟨id, ending.unasked⟩,
        ending.ends.imp_right (List.mem_cons_of_mem _)⟩
    · cases alone
  entered := by
    intro t call ⟨holds, expires⟩
    refine ⟨(holds_keeps request).entered t call holds, .inl ?_⟩
    rcases expires with ending | ⟨first, alone, ends⟩
    · exact ⟨ending.begun, List.forall_mem_singleton.mpr id, .inl (ending.ends.resolve_right List.not_mem_nil)⟩
    · cases alone
  began := by
    intro t event ⟨holds, expires⟩
    refine ⟨(holds_keeps request).began t event holds, .inl ?_⟩
    rcases expires with ending | ⟨first, alone, ends⟩
    · exact ⟨ending.begun, List.forall_mem_singleton.mpr id, .inl (ending.ends.resolve_right List.not_mem_nil)⟩
    · cases alone

end Keeps

/-- The condition holds of a request that is not a REGISTER. -/
theorem suspected_of_other {request : Request} (other : request.method ≠ "REGISTER") {config : Config Transaction Task}
    (holds : Holds request config.state config.stack) (inputs : List (Input Call Event)) :
    Machine.Along program.step (Program.Guarded Suspected) config inputs := by
  induction inputs generalizing config with
  | nil => trivial
  | cons input rest ih =>
      have guarded : Program.Guarded Suspected config input := by
        unfold Program.Guarded
        split
        · split
          · unfold Suspected
            split
            · rw [holds.2]
              exact fun register => absurd register other
            · trivial
          · trivial
        · trivial
      exact ⟨guarded, ih ((holds_keeps request).step _ _ holds guarded)⟩

/-- A transaction that is ending has terminated whenever nothing is left to do. -/
theorem expires_terminated {request : Request} {config : Config Transaction Task}
    (expires : Expires request config.state config.stack) {more : List (Input Call Event)}
    (along : Machine.Along program.step (Program.Guarded Suspected) config more)
    (rests : (Machine.run program.step config more).stack = []) :
    (Machine.run program.step config more).state.state = .terminated := by
  have ended := (expires_keeps request).run expires along
  rw [rests] at ended
  rcases ended.2 with ending | ⟨task, alone, -⟩
  · exact ending.ends.resolve_right List.not_mem_nil
  · cases alone

/-- The end of its channel ends a client transaction that has been sent. -/
theorem expires_channelEnded {request : Request} {t : Transaction} (held : Holds request t [])
    (begun : t.state ≠ .init) (client : t.kind.isClient = true) (connected : t.channel.isSome = true) :
    Expires request t [.task (.enter .channelEnded)] := by
  refine ⟨⟨held.1.called (by simp) .channelEnded, held.2⟩, .inr ⟨_, rfl, ?_⟩⟩
  have entered : t.perform (.enter .channelEnded) = t.onChannelEnded := if_pos ⟨client, connected⟩
  rw [entered]
  refine ⟨begun, ?_, .inr (List.mem_append_right _ (by simp))⟩
  split <;> simp [Transaction.Asks]

/-- So does the timer that it waits for. -/
theorem expires_timer {request : Request} {t : Transaction} (held : Holds request t []) (begun : t.state ≠ .init)
    {timer : Timer} (waits : t.endTimer = some timer) (source : timer ∈ t.sources) (suspect : Bool)
    (other : request.method = "REGISTER" → timer ≠ .b ∧ timer ≠ .f) :
    Expires request t [.task (.begin (.timer timer suspect))] := by
  refine ⟨⟨held.1.began (.timer timer suspect), held.2⟩, .inr ⟨_, rfl, ?_⟩⟩
  have fires : t.perform (.begin (.timer timer suspect)) = t.onTimer timer suspect := if_pos source
  rw [fires]
  exact (Transaction.onTimer_fired timer suspect).mono fun _ fired =>
    fired.concludes begun waits (by rw [held.2]; exact other)

/-- Whenever nothing is left to do, a transaction that a timer has to end has this timer, unless its timeout has been
reported to the channel. When the timer fires, or when the channel of a client transaction ends, the transaction has
terminated once nothing is left to do again, whatever the callbacks do; only the timers B and F of a REGISTER report to
the channel in place of this. -/
theorem ends_by_timer (kind : Kind) (request : Request) (toTag : String) (channel : Option Server.PeerChannel)
    {t : Transaction} (created : Transaction.new kind request toTag channel = .ok t) (inputs : List (Input Call Event))
    (along : Machine.Along program.step (Program.Guarded Suspected) ⟨t, []⟩ inputs) :
    let config := Machine.run program.step ⟨t, []⟩ inputs
    config.stack = [] → ∀ timer, config.state.endTimer = some timer →
      (config.state.TimedOut timer ∨ timer ∈ config.state.sources) ∧
      ∀ input more,
        (input = .call .channelEnded ∧ config.state.kind.isClient = true ∧ config.state.channel.isSome = true ∨
          timer ∈ config.state.sources ∧ (∃ suspect, input = .event (.timer timer suspect)) ∧
            (request.method = "REGISTER" → timer ≠ .b ∧ timer ≠ .f)) →
        (request.method = "REGISTER" →
          Machine.Along program.step (Program.Guarded Suspected) config (input :: more)) →
        let ended := Machine.run program.step config (input :: more)
        ended.stack = [] → ended.state.state = .terminated := by
  intro config rests timer waits
  obtain ⟨covers, same⟩ := (Transaction.new_covers kind request toTag channel).elim created
  have holds := (holds_keeps request).run ⟨covers, same⟩ along
  have held : Holds request config.state config.stack := holds
  rw [rests] at held
  have begun : config.state.state ≠ .init := by
    intro init
    have ends := Transaction.mem_ends waits
    rw [init] at ends
    cases timer <;> simp [Transaction.ends] at ends
  constructor
  · rcases held.1.armed timer waits with reported | ⟨source, -⟩ | ⟨frame, among, -⟩
    · exact .inl reported
    · exact .inr source
    · cases among
  · intro input more first condition ended restsAgain
    have whole : config = ⟨config.state, []⟩ := by
      rw [← rests]
    have suspected : Machine.Along program.step (Program.Guarded Suspected) config (input :: more) := by
      by_cases register : request.method = "REGISTER"
      · exact condition register
      · exact suspected_of_other register holds _
    suffices expires : Expires request (program.step config input).state (program.step config input).stack from
      expires_terminated expires suspected.2 restsAgain
    rcases first with ⟨rfl, client, connected⟩ | ⟨source, ⟨suspect, rfl⟩, other⟩
    · have next : program.step config (.call .channelEnded) = ⟨config.state, [.task (.enter .channelEnded)]⟩ := by
        rw [whole]
        rfl
      rw [next]
      exact expires_channelEnded held begun client connected
    · have next : program.step config (.event (.timer timer suspect)) =
          ⟨config.state, [.task (.begin (.timer timer suspect))]⟩ := by
        rw [whole]
        rfl
      rw [next]
      exact expires_timer held begun waits source suspect other

/-- A request is sent over an unreliable channel. -/
def unanswered (method : String) : Config Transaction Task :=
  Machine.run program.step ⟨{ kind := .nict, request := { method := method } }, []⟩
    [.call (.sendRequest .ready ⟨0, false⟩ false), .tick, .tick]

theorem ends_by_timer_options :
    ((unanswered "OPTIONS").state.TimedOut .f ∨ .f ∈ (unanswered "OPTIONS").state.sources) ∧
    (let ended := Machine.run program.step (unanswered "OPTIONS")
      [.event (.timer .f false), .tick, .tick, .tick, .tick, .tick, .tick, .tick, .tick, .tick]
    ended.stack = [] ∧ ended.state.state = .terminated) ∧
    (let ended := Machine.run program.step (unanswered "REGISTER")
      [.call .channelEnded, .tick, .tick, .tick, .tick, .tick, .tick, .tick, .tick, .tick]
    ended.stack = [] ∧ ended.state.state = .terminated) := by
  have options := ends_by_timer .nict { method := "OPTIONS" } "" none rfl
    [.call (.sendRequest .ready ⟨0, false⟩ false), .tick, .tick] (by decide +kernel) rfl .f rfl
  have register := ends_by_timer .nict { method := "REGISTER" } "" none rfl
    [.call (.sendRequest .ready ⟨0, false⟩ false), .tick, .tick] (by decide +kernel) rfl .f rfl
  exact ⟨options.1, ⟨by decide +kernel, options.2 _ _ (.inr ⟨by decide +kernel, ⟨false, rfl⟩, by decide⟩) (by decide)
      (by decide +kernel)⟩,
    ⟨by decide +kernel, register.2 _ _ (.inl ⟨rfl, rfl, rfl⟩) (by decide +kernel) (by decide +kernel)⟩⟩

/-- A REGISTER whose channel is not suspect keeps no timer that ends it. -/
theorem register_unended :
    let left := Machine.run program.step (unanswered "REGISTER") [.event (.timer .f false), .tick, .tick]
    left.stack = [] ∧ left.state.state = .trying ∧ left.state.sources = [.e] ∧ left.state.timedOut = false := by
  decide +kernel

end Callbacks

end BelleSip
