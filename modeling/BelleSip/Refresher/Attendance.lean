import BelleSip.Foundation.Machine
import BelleSip.Refresher.Delay

/-
This file proves when a started refresher keeps a timer, a transaction or the attention of the application.
-/

namespace BelleSip

open Foundation

namespace Refresher

variable {refresher : Refresher}

/-- At most one source of the main loop belongs to the refresher, and the refresher knows it. -/
def OneTimer (refresher : Refresher) : Prop :=
  refresher.sources = [] ∨
    ∃ source, refresher.sources = [source] ∧ refresher.timer = some source.id ∧ source.id < refresher.nextSource

/-- What every guarded event keeps, whether there has been an I/O error or not. -/
structure Steady (refresher : Refresher) : Prop where
  timer : refresher.OneTimer
  left : ∀ state ∈ refresher.left, state.isTransient = false
  target : refresher.state = .started → 0 < refresher.targetExpires
  stopped : refresher.state = .stopped → refresher.transaction.isTransient = false ∧ refresher.sources = []
  listener : refresher.listener = true

/-- What every guarded event keeps: after an I/O error of the provider a retry is awaited. -/
structure Sound (refresher : Refresher) : Prop extends Steady refresher where
  error : refresher.onIoError = true →
    refresher.transaction = .terminated ∧ refresher.timerPurpose = .retry ∧
      (refresher.sources ≠ [] ∨ refresher.state = .stopped)

/-- After an event a timer is armed, or the transaction is transient, or the application has been told, or the
refresher is stopped. -/
def Attended (before after : Refresher) : Prop :=
  after.sources ≠ [] ∨ after.transaction.isTransient = true ∨ before.notified.length < after.notified.length ∨
    after.state = .stopped

instance (before after : Refresher) : Decidable (before.Attended after) := inferInstanceAs (Decidable (_ ∨ _))

theorem cancelRetry_eq (timer : refresher.OneTimer) :
    refresher.cancelRetry = { refresher with timer := none, sources := [] } := by
  rcases timer with empty | ⟨source, one, points⟩
  · cases pointer : refresher.timer with
    | none =>
        have same : refresher = { refresher with timer := none, sources := [] } := by rw [← pointer, ← empty]
        rw [cancelRetry, pointer]
        exact same
    | some id => simp [cancelRetry, pointer, empty]
  · simp [cancelRetry, one, points]

theorem scheduleTimerAt_eq (timer : refresher.OneTimer) (delay : Int) (purpose : TimerPurpose) :
    refresher.scheduleTimerAt delay purpose = { refresher with
      timerPurpose := purpose
      timer := some refresher.nextSource
      sources := [{ id := refresher.nextSource, delay := delay }]
      nextSource := refresher.nextSource + 1 } := by
  have kept : OneTimer { refresher with timerPurpose := purpose } := timer
  rw [scheduleTimerAt, cancelRetry_eq kept]
  rfl

theorem not_stopped (started : refresher.state = .started) : refresher.state ≠ .stopped := by
  rw [started]
  decide

/-- A timer is armed, for a retry when there has been an I/O error. -/
theorem Steady.schedule (steady : refresher.Steady) (started : refresher.state = .started) (delay : Int)
    (purpose : TimerPurpose)
    (error : refresher.onIoError = true → refresher.transaction = .terminated ∧ purpose = .retry) :
    (refresher.scheduleTimerAt delay purpose).Sound := by
  rw [scheduleTimerAt_eq steady.timer]
  exact {
    timer := .inr ⟨_, rfl, rfl, Nat.lt_succ_self refresher.nextSource⟩
    left := steady.left
    target := steady.target
    stopped := fun stopped => absurd stopped (not_stopped started)
    listener := steady.listener
    error := fun failed => ⟨(error failed).1, (error failed).2, .inl (by simp)⟩ }

theorem Steady.retryLater (steady : refresher.Steady) (started : refresher.state = .started)
    (error : refresher.onIoError = true → refresher.transaction = .terminated) : refresher.retryLater.Sound := by
  have counted : Steady { refresher with numberOfRetry := refresher.numberOfRetry + 1 } := { steady with }
  exact counted.schedule started refresher.retryAfter .retry fun failed => ⟨error failed, rfl⟩

theorem Sound.notify (sound : refresher.Sound) (statusCode : Nat) : (refresher.notify statusCode).Sound := by
  rw [Refresher.notify, if_pos sound.listener]
  exact { sound with }

theorem Sound.notify_eq (sound : refresher.Sound) (statusCode : Nat) :
    refresher.notify statusCode = { refresher with notified := refresher.notified ++ [statusCode] } := by
  rw [Refresher.notify, if_pos sound.listener]

/-- The application has been told of an event. -/
def Told (before after : Refresher) : Prop := before.notified.length < after.notified.length

theorem Told.attended {before after : Refresher} (told : before.Told after) : before.Attended after :=
  .inr (.inr (.inl told))

theorem Sound.told (sound : refresher.Sound) {before : Refresher} (same : refresher.notified = before.notified)
    (statusCode : Nat) : before.Told (refresher.notify statusCode) := by
  rw [Told, sound.notify_eq, same, List.length_append, List.length_singleton]
  omega

/-- A refresh is refused before a request is made for it. -/
def Refused (around : Surroundings) (authMandatory : Bool) : Prop :=
  around.dialog.permits = false ∨ (authMandatory = true ∧ around.unfilledAuthInfo = true)

theorem refreshInternal_eq {expires : Int} (positive : 0 < expires) (authMandatory : Bool) (around : Surroundings) :
    (Refused around authMandatory ∧
      refresher.refreshInternal expires authMandatory around = ({ refresher with targetExpires := expires }, false)) ∨
    (¬Refused around authMandatory ∧
      refresher.refreshInternal expires authMandatory around = ({ refresher with
        targetExpires := expires
        onIoError := false
        request := { refresher with targetExpires := expires }.nextRequest around.dialog
        transaction := (sendRequestTo around.outlet).1
        left :=
          if (sendRequestTo around.outlet).2 then refresher.left ++ [leave refresher.transaction]
          else refresher.left }, (sendRequestTo around.outlet).2)) := by
  have nonzero : expires ≠ 0 := by omega
  have nonneg : 0 ≤ expires := by omega
  by_cases refused : Refused around authMandatory
  · left
    refine ⟨refused, ?_⟩
    simp only [refreshInternal, if_pos nonneg]
    rw [if_pos (by simpa [Refused] using refused)]
  · right
    refine ⟨refused, ?_⟩
    simp only [refreshInternal, if_pos nonneg]
    rw [if_neg (by simpa [Refused] using refused)]
    simp [nonzero]

theorem refreshInternal_sent {expires : Int} (positive : 0 < expires) {authMandatory : Bool} {around : Surroundings}
    (permitted : ¬Refused around authMandatory) :
    (refresher.refreshInternal expires authMandatory around).2 = (sendRequestTo around.outlet).2 := by
  rcases refreshInternal_eq positive authMandatory around with ⟨refused, _⟩ | ⟨_, refreshed⟩
  · exact absurd refused permitted
  · rw [refreshed]

/-- A request that is sent leaves the transaction behind. -/
theorem refreshInternal_left {expires : Int} (positive : 0 < expires) {authMandatory : Bool} {around : Surroundings}
    (permitted : ¬Refused around authMandatory) (sent : (sendRequestTo around.outlet).2 = true) :
    (refresher.refreshInternal expires authMandatory around).1.left =
      refresher.left ++ [leave refresher.transaction] := by
  rcases refreshInternal_eq positive authMandatory around with ⟨refused, _⟩ | ⟨_, refreshed⟩
  · exact absurd refused permitted
  · rw [refreshed]
    exact if_pos sent

/-- A request that is sent makes its transaction transient. -/
theorem sendRequestTo_transient {outlet : Outlet} (sent : (sendRequestTo outlet).2 = true) :
    (sendRequestTo outlet).1.isTransient = true := by
  cases outlet <;> first | rfl | cases sent

/-- Only a transaction with a provisional response is still transient when it is left. -/
theorem leave_settled {state : TransactionState} (other : state ≠ .proceeding) :
    (leave state).isTransient = false := by
  cases state <;> first | exact absurd rfl other | decide

/-- A refresh keeps what is kept; what it sends is transient, and what it refuses is left as it was. -/
theorem Steady.refreshInternal (steady : refresher.Steady) (started : refresher.state = .started) {expires : Int}
    (positive : 0 < expires) (authMandatory : Bool) (around : Surroundings)
    (apart : ¬Refused around authMandatory → (sendRequestTo around.outlet).2 = true →
      refresher.transaction ≠ .proceeding) :
    (refresher.refreshInternal expires authMandatory around).1.Steady ∧
      (refresher.refreshInternal expires authMandatory around).1.notified = refresher.notified ∧
      ((refresher.refreshInternal expires authMandatory around).2 = true →
        (refresher.refreshInternal expires authMandatory around).1.transaction.isTransient = true) ∧
      ((refresher.refreshInternal expires authMandatory around).1.onIoError = true → refresher.onIoError = true ∧
        (refresher.refreshInternal expires authMandatory around).1.transaction = refresher.transaction ∧
        (refresher.refreshInternal expires authMandatory around).2 = false) ∧
      (refresher.refreshInternal expires authMandatory around).1.sources = refresher.sources ∧
      (refresher.refreshInternal expires authMandatory around).1.nextSource = refresher.nextSource ∧
      (refresher.refreshInternal expires authMandatory around).1.state = .started := by
  rcases refreshInternal_eq positive authMandatory around with ⟨_, refreshed⟩ | ⟨permitted, refreshed⟩
  · rw [refreshed]
    refine ⟨{ steady with target := fun _ => positive }, rfl, ?_, fun failed => ⟨failed, rfl, rfl⟩, rfl, rfl, started⟩
    intro sent
    cases sent
  · rw [refreshed]
    refine ⟨{
      timer := steady.timer
      left := ?_
      target := fun _ => positive
      stopped := fun stopped => absurd stopped (not_stopped started)
      listener := steady.listener }, rfl, sendRequestTo_transient, fun failed => absurd failed (by simp), rfl, rfl,
          started⟩
    intro state among
    simp only at among
    split at among
    next sent =>
      rcases List.mem_append.mp among with before | now
      · exact steady.left state before
      · rw [List.mem_singleton.mp now]
        exact leave_settled (apart permitted sent)
    next => exact steady.left state among

theorem Steady.cancelRetry (steady : refresher.Steady) : Steady { refresher.cancelRetry with authFailures := 0 } := by
  rw [cancelRetry_eq steady.timer]
  exact {
    timer := .inl rfl
    left := steady.left
    target := steady.target
    stopped := fun stopped => ⟨(steady.stopped stopped).1, rfl⟩
    listener := steady.listener }

/-- A request can be sent, so that its transaction is transient; a request whose URIs are refused leaves its transaction
in its initial state. -/
def CanSend (around : Surroundings) : Prop := around.dialog.permits = true ∧ around.outlet ≠ .noChannel

instance (around : Surroundings) : Decidable (CanSend around) := inferInstanceAs (Decidable (_ ∧ _))

/-- A refresh without an authentication that can be sent leaves its transaction in a transient state. -/
theorem refresh_transient {expires : Int} (positive : 0 < expires) {around : Surroundings} (canSend : CanSend around) :
    (refresher.refresh expires around).1.transaction.isTransient = true := by
  rw [refresh]
  rcases refreshInternal_eq positive false around with ⟨refused, _⟩ | ⟨_, refreshed⟩
  · rcases refused with forbidden | ⟨mandatory, _⟩
    · rw [canSend.1] at forbidden
      cases forbidden
    · cases mandatory
  · rw [refreshed]
    cases outlet : around.outlet with
    | noChannel => exact absurd outlet canSend.2
    | badUris => rfl
    | connecting => rfl
    | ready => rfl

/-- The refresher sends its request again in the response, without asking whether it can be sent. -/
def Resubmits (refresher : Refresher) (answer : RefreshAnswer) : Prop :=
  refresher.state = .started ∧
    ((200 ≤ answer.statusCode ∧ answer.statusCode < 300 ∧ answer.contactAccurate = false ∧
        0 < refresher.request.asked refresher.targetExpires) ∨
      (answer.statusCode = 423 ∧ ∃ minExpires ∈ answer.minExpires, 0 < minExpires))

instance (refresher : Refresher) (answer : RefreshAnswer) : Decidable (refresher.Resubmits answer) :=
  inferInstanceAs (Decidable (_ ∧ (_ ∨ _)))

theorem takeExpires_same (refresher : Refresher) (matchingContact expires : Option Int) :
    ∃ target obtained, refresher.takeExpires matchingContact expires =
      { refresher with targetExpires := target, obtainedExpires := obtained } := by
  rw [takeExpires]
  split
  · exact ⟨_, _, rfl⟩
  · exact ⟨refresher.targetExpires, -1, rfl⟩

/-- The expiries that a response to a refresher grants change nothing else of it. -/
theorem granting_reset (refresher : Refresher) (response : ResponseExpires) :
    ∃ obtained, { refresher with authFailures := 0, numberOfRetry := 0 }.granting response = { refresher with
      authFailures := 0
      numberOfRetry := 0
      targetExpires := refresher.request.asked refresher.targetExpires
      obtainedExpires := obtained } := by
  obtain ⟨target, obtained, updated⟩ := takeExpires_same { refresher with authFailures := 0, numberOfRetry := 0 }
    (if refresher.request.method = .register then response.matchingContact else none) response.expires
  have asked := granting_target { refresher with authFailures := 0, numberOfRetry := 0 } response
  rw [granting, updated] at asked
  refine ⟨obtained, ?_⟩
  rw [granting, updated]
  dsimp only at asked ⊢
  rw [asked]

/-- A refresher without an expiry may be stopped. -/
theorem Sound.stop (sound : refresher.Sound) (target obtained : Int) :
    ({ refresher with targetExpires := target, obtainedExpires := obtained }.stopInternal true).Sound := by
  have timer : OneTimer { refresher with targetExpires := target, obtainedExpires := obtained } := sound.timer
  rw [stopInternal, cancelRetry_eq timer]
  exact {
    timer := .inl rfl
    left := sound.left
    target := fun started => by cases started
    stopped := by
      intro _
      refine ⟨?_, rfl⟩
      simp only [Bool.true_and]
      split
      next => rfl
      next settled => exact Bool.eq_false_iff.mpr settled
    error := by
      intro failed
      obtain ⟨ended, retries, _⟩ := sound.error failed
      refine ⟨?_, retries, .inr rfl⟩
      simp [ended, TransactionState.isTransient]
    listener := sound.listener }

theorem Steady.scheduleTimer (steady : refresher.Steady) (started : refresher.state = .started)
    (calm : refresher.onIoError = false) : refresher.scheduleTimer.Sound := by
  apply steady.schedule started
  intro failed
  rw [calm] at failed
  cases failed

theorem scheduleTimerAt_notified (delay : Int) (purpose : TimerPurpose) :
    (refresher.scheduleTimerAt delay purpose).notified = refresher.notified := by
  simp only [scheduleTimerAt, cancelRetry]
  split <;> rfl

theorem stopInternal_notified (cancelPendingTransaction : Bool) :
    (refresher.stopInternal cancelPendingTransaction).notified = refresher.notified := by
  simp only [stopInternal, cancelRetry]
  split <;> rfl

/-- A refresher without an I/O error keeps everything. -/
theorem Steady.sound (steady : refresher.Steady) (calm : refresher.onIoError = false) : refresher.Sound := { steady with
  error := fun failed => by
    rw [calm] at failed
    cases failed }

theorem cancelRetry_calm (calm : refresher.onIoError = false) : refresher.cancelRetry.onIoError = false := by
  rw [cancelRetry]
  split <;> exact calm

/-- A request that is sent again in a response. -/
theorem Sound.resubmit (sound : refresher.Sound) (started : refresher.state = .started)
    (calm : refresher.onIoError = false) (ended : refresher.transaction = .completed) {expires : Int}
    (positive : 0 < expires) {around : Surroundings} (canSend : CanSend around) {before : Refresher} :
    (refresher.refresh expires around).1.Sound ∧ before.Attended (refresher.refresh expires around).1 := by
  have cancelled := cancelRetry_eq sound.timer
  have apart : refresher.cancelRetry.transaction ≠ .proceeding := by
    rw [cancelled, ended]
    decide
  have still : refresher.cancelRetry.state = .started := by
    rw [cancelled]
    exact started
  obtain ⟨kept, _, _, failed, _⟩ :=
    sound.toSteady.cancelRetry.refreshInternal still positive false around fun _ _ => apart
  refine ⟨kept.sound (Bool.eq_false_iff.mpr fun error => ?_), .inr (.inl (refresh_transient positive canSend))⟩
  have again := (failed error).1
  simp only [cancelRetry_calm calm] at again
  cases again

/-- A success is attended when a request that is sent again can be sent. -/
theorem Sound.processSuccess (sound : refresher.Sound) (calm : refresher.onIoError = false)
    (ended : refresher.transaction = .completed) {answer : RefreshAnswer} {around : Surroundings}
    (success : 200 ≤ answer.statusCode ∧ answer.statusCode < 300)
    (sendable : refresher.Resubmits answer → CanSend around) (obtained : Int) :
    (Refresher.processSuccess { refresher with
        authFailures := 0
        numberOfRetry := 0
        targetExpires := refresher.request.asked refresher.targetExpires
        obtainedExpires := obtained } answer around).Sound ∧
      refresher.Attended (Refresher.processSuccess { refresher with
        authFailures := 0
        numberOfRetry := 0
        targetExpires := refresher.request.asked refresher.targetExpires
        obtainedExpires := obtained } answer around) := by
  have reset : Sound { refresher with authFailures := 0, numberOfRetry := 0 } := { sound with }
  generalize target : refresher.request.asked refresher.targetExpires = expires
  simp only [Refresher.processSuccess]
  split
  next noTarget =>
    have stopped := reset.stop expires obtained
    have notStarted : (Refresher.stopInternal { refresher with
        authFailures := 0
        numberOfRetry := 0
        targetExpires := expires
        obtainedExpires := obtained } true).state ≠ .started := by
      intro started
      cases started
    rw [if_neg notStarted]
    exact ⟨stopped.notify _, (stopped.told (stopInternal_notified true) _).attended⟩
  next someTarget =>
    have kept : Sound { refresher with
        authFailures := 0
        numberOfRetry := 0
        targetExpires := expires
        obtainedExpires := obtained } := { reset with target := fun _ => by simpa using someTarget }
    split
    next started =>
      split
      next accurate =>
        have scheduled := kept.scheduleTimer started calm
        exact ⟨scheduled.notify _, (scheduled.told (scheduleTimerAt_notified _ _) _).attended⟩
      next inaccurate =>
        have canSend : CanSend around := by
          apply sendable
          refine ⟨started, .inl ⟨success.1, success.2, by simpa using inaccurate, ?_⟩⟩
          rw [target]
          simpa using someTarget
        exact kept.resubmit started calm ended (by simpa using someTarget) canSend
    next => exact ⟨kept.notify _, (kept.told rfl _).attended⟩

theorem retryLater_notified : refresher.retryLater.notified = refresher.notified := scheduleTimerAt_notified _ _

/-- A refresh in a response that is told to the application when it fails. -/
theorem Sound.redirect (sound : refresher.Sound) (started : refresher.state = .started)
    (calm : refresher.onIoError = false) (ended : refresher.transaction = .completed) {before : Refresher}
    (same : refresher.notified = before.notified) (around : Surroundings) (statusCode : Nat)
    {after : Refresher}
    (is : after = if (refresher.refreshInternal refresher.targetExpires true around).2 = true then
        (refresher.refreshInternal refresher.targetExpires true around).1
      else (refresher.refreshInternal refresher.targetExpires true around).1.notify statusCode) :
    after.Sound ∧ before.Attended after := by
  have apart : refresher.transaction ≠ .proceeding := by
    rw [ended]
    decide
  obtain ⟨kept, unnotified, transient, failed, _⟩ :=
    sound.refreshInternal started (sound.target started) true around fun _ _ => apart
  have stillCalm : (refresher.refreshInternal refresher.targetExpires true around).1.onIoError = false := by
    rw [Bool.eq_false_iff]
    intro error
    have again := (failed error).1
    rw [calm] at again
    cases again
  have keptSound := kept.sound stillCalm
  rw [is]
  split
  next sent => exact ⟨keptSound, .inr (.inl (transient sent))⟩
  next => exact ⟨keptSound.notify _, (keptSound.told (unnotified.trans same) _).attended⟩

/-- Any other response is attended when a request that is sent again can be sent. -/
theorem Sound.processFailure (sound : refresher.Sound) (started : refresher.state = .started)
    (calm : refresher.onIoError = false) {answer : RefreshAnswer} {around : Surroundings}
    (ended : refresher.transaction = .completed ∨ answer.statusCode < 200)
    (sendable : refresher.Resubmits answer → CanSend around) :
    (refresher.processFailure answer around).Sound ∧ refresher.Attended (refresher.processFailure answer around) := by
  have told : (refresher.notify answer.statusCode).Sound ∧ refresher.Attended (refresher.notify answer.statusCode) :=
    ⟨sound.notify _, (sound.told rfl _).attended⟩
  have positive := sound.target started
  have noError : refresher.onIoError = true → refresher.transaction = .terminated := by
    intro failed
    rw [calm] at failed
    cases failed
  simp only [Refresher.processFailure]
  split
  next redirected =>
    split
    · exact sound.redirect started calm (ended.resolve_right (by omega)) rfl around answer.statusCode rfl
    · exact told
  next =>
    split
    next challenged =>
      have failed : Sound { refresher with authFailures := refresher.authFailures + 1 } := { sound with }
      split
      next again =>
        rw [retryIfTarget, if_pos positive]
        have later : Sound { Refresher.retryLater { refresher with authFailures := refresher.authFailures + 1 } with
            authFailures := 0 } := { failed.retryLater started noError with }
        exact ⟨later.notify _, (later.told retryLater_notified _).attended⟩
      next => exact failed.redirect started calm (ended.resolve_right (by omega)) rfl around answer.statusCode rfl
    next =>
      split
      next tooBrief =>
        split
        next minExpires isMin =>
          split
          next resubmits =>
            have retargeted : Sound { refresher with targetExpires := minExpires } :=
              { sound with target := fun _ => resubmits.1 }
            have canSend := sendable ⟨started, .inr ⟨tooBrief, minExpires, isMin, resubmits.1⟩⟩
            exact retargeted.resubmit started calm (ended.resolve_right (by omega)) resubmits.1 canSend
          next => exact told
        next => exact told
      next =>
        split
        next => exact told
        next =>
          rw [retryIfTarget, if_pos positive]
          have later := sound.retryLater started noError
          exact ⟨later.notify _, (later.told retryLater_notified _).attended⟩

/-- An event meets the condition: a registration that succeeds has a contact, a request that is sent again in a response
can be sent, and no timer sends a request while the transaction has a provisional response only. -/
def Guarded (refresher : Refresher) : RefreshEvent → Prop
  | .response answer around =>
      refresher.handles (.response answer around) = true →
        (200 ≤ answer.statusCode ∧ answer.statusCode < 300 → refresher.request.Contacted) ∧
          (refresher.Resubmits answer → CanSend around)
  | .timerExpires source around =>
      source ∈ refresher.sources → refresher.transaction = .proceeding →
        (refresher.timerPurpose = .normalRefresh ∧ refresher.manual = true) ∨ around.dialog.permits = false ∨
          (sendRequestTo around.outlet).2 = false
  | _ => True

instance (refresher : Refresher) (event : RefreshEvent) : Decidable (refresher.Guarded event) :=
  match event with
  | .response _ _ => inferInstanceAs (Decidable (_ → _ ∧ _))
  | .timerExpires _ _ => inferInstanceAs (Decidable (_ → _ → _))
  | .timeout | .transactionError _ | .providerError _ | .foreign | .channelReady | .terminated =>
      inferInstanceAs (Decidable True)

/-- What an event leaves, and whether it is attended when the refresher handles it. -/
def Stepped (before : Refresher) (event : RefreshEvent) (after : Refresher) : Prop :=
  after.Sound ∧ (before.handles event = true → before.Attended after)

theorem Sound.started_of_transient (sound : refresher.Sound) (transient : refresher.transaction.isTransient = true) :
    refresher.state = .started := by
  cases state : refresher.state with
  | started => rfl
  | stopped =>
      have settled := (sound.stopped state).1
      rw [transient] at settled
      cases settled

theorem Sound.calm_of_transient (sound : refresher.Sound) (transient : refresher.transaction.isTransient = true) :
    refresher.onIoError = false := by
  cases failed : refresher.onIoError with
  | false => rfl
  | true =>
      rw [(sound.error failed).1] at transient
      cases transient

theorem Sound.response (sound : refresher.Sound) {answer : RefreshAnswer} {around : Surroundings}
    (guarded : refresher.Guarded (.response answer around)) :
    Checked.Returns (refresher.react (.response answer around)) (refresher.Stepped (.response answer around)) := by
  rw [react]
  split
  next handled =>
    have transient : refresher.transaction.isTransient = true := by
      simp only [handles, Bool.or_eq_true, Bool.and_eq_true, decide_eq_true_eq] at handled
      rcases handled with trying | ⟨proceeding, _⟩
      · rw [trying]
        rfl
      · rw [proceeding]
        rfl
    have started := sound.started_of_transient transient
    have calm := sound.calm_of_transient transient
    have moved : ∀ state : TransactionState, Sound { refresher with transaction := state } := fun state => { sound with
      stopped := fun stopped => absurd stopped (not_stopped started)
      error := fun failed => by
        rw [calm] at failed
        cases failed }
    have sendable : ∀ state : TransactionState,
        Resubmits { refresher with transaction := state } answer → CanSend around :=
      fun _ resubmits => (guarded handled).2 resubmits
    by_cases success : 200 ≤ answer.statusCode ∧ answer.statusCode < 300
    · have contacted : RefreshRequest.Contacted { refresher with transaction := .completed }.request :=
        (guarded handled).1 success
      obtain ⟨obtained, granted⟩ := granting_reset { refresher with transaction := .completed } answer.expires
      rw [if_neg (by omega), processResponseEvent_success success contacted, granted, Checked.returns_ok]
      obtain ⟨kept, attended⟩ := (moved .completed).processSuccess calm rfl success (sendable .completed) obtained
      exact ⟨kept, fun _ => attended⟩
    · rw [processResponseEvent, if_neg success, Checked.returns_ok]
      have ended : (if answer.statusCode < 200 then TransactionState.proceeding else .completed) = .completed ∨
          answer.statusCode < 200 := by
        split
        next provisional => exact .inr provisional
        next => exact .inl rfl
      have arrived := moved (if answer.statusCode < 200 then .proceeding else .completed)
      obtain ⟨kept, attended⟩ := arrived.processFailure started calm ended (sendable _)
      exact ⟨kept, fun _ => attended⟩
  next unhandled => exact Checked.returns_ok.mpr ⟨sound, fun handled => absurd handled unhandled⟩

theorem Sound.processTimeout (sound : refresher.Sound) :
    refresher.processTimeout.Sound ∧ refresher.Told refresher.processTimeout := by
  rw [Refresher.processTimeout]
  split
  next started =>
    have scheduled := sound.schedule started 2000 .retry fun failed => ⟨(sound.error failed).1, rfl⟩
    exact ⟨scheduled.notify _, scheduled.told (scheduleTimerAt_notified _ _) _⟩
  next => exact ⟨sound.notify _, sound.told rfl _⟩

/-- The transaction of the refresher is terminated after it has told the refresher. -/
theorem Sound.terminate (sound : refresher.Sound) : Sound { refresher with transaction := .terminated } := { sound with
  stopped := fun stopped => ⟨rfl, (sound.stopped stopped).2⟩
  error := fun failed => ⟨rfl, (sound.error failed).2⟩ }

theorem Sound.timeout (sound : refresher.Sound) :
    Checked.Returns (refresher.react .timeout) (refresher.Stepped .timeout) := by
  rw [react, Checked.returns_ok, Stepped]
  split
  next handled =>
    obtain ⟨kept, told⟩ := sound.processTimeout
    exact ⟨kept.terminate, fun _ => Told.attended told⟩
  next unhandled => exact ⟨sound, fun handled => absurd handled unhandled⟩

/-- An I/O error is told, and a retry is awaited. -/
theorem Sound.reportIoError (sound : refresher.Sound) (started : refresher.state = .started) :
    refresher.reportIoError.Sound ∧ refresher.Told refresher.reportIoError ∧
      refresher.reportIoError.timerPurpose = .retry ∧ refresher.reportIoError.sources ≠ [] ∧
      refresher.reportIoError.transaction = refresher.transaction := by
  have scheduled : ∀ (delay : Int) (retries : Nat),
      Sound { refresher.scheduleTimerAt delay .retry with numberOfRetry := retries } := fun delay retries =>
    { sound.schedule started delay .retry fun failed => ⟨(sound.error failed).1, rfl⟩ with }
  have later : refresher.retryLaterOnIoError.Sound ∧ refresher.retryLaterOnIoError.notified = refresher.notified ∧
      refresher.retryLaterOnIoError.timerPurpose = .retry ∧ refresher.retryLaterOnIoError.sources ≠ [] ∧
      refresher.retryLaterOnIoError.transaction = refresher.transaction := by
    rw [retryLaterOnIoError]
    split
    · refine ⟨scheduled 500 _, scheduleTimerAt_notified 500 .retry, ?_⟩
      rw [scheduleTimerAt_eq sound.timer]
      simp
    · refine ⟨sound.retryLater started fun failed => (sound.error failed).1, retryLater_notified, ?_⟩
      have timer : OneTimer { refresher with numberOfRetry := refresher.numberOfRetry + 1 } := sound.timer
      rw [Refresher.retryLater, scheduleTimerAt_eq timer]
      simp
  obtain ⟨kept, unnotified, retries, armed, same⟩ := later
  rw [Refresher.reportIoError, if_pos started]
  refine ⟨kept.notify 503, kept.told unnotified 503, ?_⟩
  rw [kept.notify_eq]
  exact ⟨retries, armed, same⟩

theorem Sound.transactionError (sound : refresher.Sound) (timedOut : Bool) :
    Checked.Returns (refresher.react (.transactionError timedOut))
      (refresher.Stepped (.transactionError timedOut)) := by
  have reported : (refresher.transaction.isTransient = true →
        refresher.processTransactionError.Sound ∧ refresher.Told refresher.processTransactionError) := by
    intro transient
    have started := sound.started_of_transient transient
    have positive := sound.target started
    have nonzero : refresher.targetExpires ≠ 0 := by omega
    obtain ⟨kept, told, _⟩ := sound.reportIoError started
    rw [processTransactionError, sound.calm_of_transient transient]
    simp only [started, nonzero, decide_false, Bool.false_and, Bool.false_eq_true, if_false,
      show (RefresherState.started = .stopped) = False by simp]
    exact ⟨kept, told⟩
  rw [react, Checked.returns_ok, Stepped]
  cases transient : refresher.transaction.isTransient with
  | true =>
      obtain ⟨kept, told⟩ := reported transient
      cases timedOut with
      | true =>
          obtain ⟨keptToo, toldToo⟩ := kept.processTimeout
          exact ⟨keptToo.terminate, fun _ => Told.attended (Nat.lt_trans told toldToo)⟩
      | false => exact ⟨kept.terminate, fun _ => Told.attended told⟩
  | false =>
      cases timedOut with
      | true =>
          obtain ⟨kept, told⟩ := sound.processTimeout
          exact ⟨kept.terminate, fun _ => Told.attended told⟩
      | false =>
          refine ⟨sound.terminate, fun handled => ?_⟩
          rw [handles, transient] at handled
          cases handled

theorem Sound.providerError (sound : refresher.Sound) (channelBroken : Bool) :
    Checked.Returns (refresher.react (.providerError channelBroken))
      (refresher.Stepped (.providerError channelBroken)) := by
  rw [react, Checked.returns_ok, Stepped, processProviderError]
  split
  next failed =>
    refine ⟨sound, fun _ => ?_⟩
    rcases (sound.error failed).2.2 with armed | stopped
    · exact .inl armed
    · exact .inr (.inr (.inr stopped))
  next calm =>
    split
    next involved =>
      obtain ⟨kept, told, retries, armed, same⟩ := sound.reportIoError involved.1
      refine ⟨{ kept with error := fun _ => ⟨same.trans involved.2.1, retries, .inl armed⟩ },
          fun _ => Told.attended told⟩
    next others =>
      refine ⟨sound, fun handled => ?_⟩
      simp only [handles, Bool.or_eq_true, Bool.and_eq_true, decide_eq_true_eq] at handled
      rcases handled with failed | ⟨⟨started, ended⟩, broken⟩
      · exact absurd failed calm
      · exact absurd ⟨started, ended, broken⟩ others

/-- The only source is the one that the timer names. -/
theorem Sound.only (sound : refresher.Sound) {source : TimeoutSource} (among : source ∈ refresher.sources) :
    refresher.sources = [source] ∧ source.id < refresher.nextSource ∧ refresher.state = .started := by
  rcases sound.timer with empty | ⟨only, one, _, earlier⟩
  · rw [empty] at among
    cases among
  · have same : source = only := by
      rw [one] at among
      exact List.mem_singleton.mp among
    subst same
    refine ⟨one, earlier, ?_⟩
    cases state : refresher.state with
    | started => rfl
    | stopped =>
        rw [(sound.stopped state).2] at one
        cases one

/-- Without an I/O error the source of a refresher may end. -/
theorem Sound.unsourced (sound : refresher.Sound) (calm : refresher.onIoError = false) :
    Sound { refresher with sources := [] } := { sound with
  timer := .inl rfl
  stopped := fun stopped => ⟨(sound.stopped stopped).1, rfl⟩
  error := fun failed => by
    rw [calm] at failed
    cases failed }

/-- A timer that sends a request leaves a transient transaction, or arms another timer. -/
theorem Sound.refreshOrRetry (sound : refresher.Sound) (started : refresher.state = .started)
    {around : Surroundings}
    (apart : ¬Refused around false → (sendRequestTo around.outlet).2 = true → refresher.transaction ≠ .proceeding)
    {after : Refresher}
    (is : after =
      if (refresher.refresh refresher.targetExpires around).2 = true then
        (refresher.refresh refresher.targetExpires around).1
      else (refresher.refresh refresher.targetExpires around).1.retryLater) :
    after.Sound ∧
      ((after.sources = [] ∧ after.transaction.isTransient = true ∧ after.onIoError = false) ∨
        ∃ delay, after.sources = [{ id := refresher.nextSource, delay := delay }]) := by
  have cancelled := cancelRetry_eq sound.timer
  have still : refresher.cancelRetry.state = .started := by
    rw [cancelled]
    exact started
  have same : refresher.cancelRetry.transaction = refresher.transaction := by rw [cancelled]
  obtain ⟨kept, _, transient, failed, unsourced, unnumbered, stillStarted⟩ :=
    sound.toSteady.cancelRetry.refreshInternal still (sound.target started) false around
      fun permitted sent => same ▸ apart permitted sent
  rw [is]
  split
  next sent =>
    have calm : (refresher.refresh refresher.targetExpires around).1.onIoError = false := by
      rw [Bool.eq_false_iff]
      intro error
      have refused := (failed error).2.2
      rw [refresh] at sent
      rw [sent] at refused
      cases refused
    refine ⟨kept.sound calm, .inl ⟨?_, transient sent, calm⟩⟩
    rw [refresh, unsourced, cancelled]
  next refused =>
    refine ⟨kept.retryLater stillStarted ?_, .inr ?_⟩
    · intro error
      obtain ⟨before, transaction, _⟩ := failed error
      rw [transaction]
      rw [cancelled] at before ⊢
      exact (sound.error before).1
    · have timer : OneTimer { (refresher.refresh refresher.targetExpires around).1 with
          numberOfRetry := (refresher.refresh refresher.targetExpires around).1.numberOfRetry + 1 } := kept.timer
      have number : (refresher.refresh refresher.targetExpires around).1.nextSource = refresher.nextSource := by
        rw [refresh, unnumbered, cancelled]
      rw [Refresher.retryLater, scheduleTimerAt_eq timer]
      simp only [number]
      exact ⟨_, rfl⟩

theorem Sound.timerExpires (sound : refresher.Sound) {source : TimeoutSource} {around : Surroundings}
    (guarded : refresher.Guarded (.timerExpires source around)) :
    Checked.Returns (refresher.react (.timerExpires source around))
      (refresher.Stepped (.timerExpires source around)) := by
  rw [react]
  split
  next handled =>
    have among : source ∈ refresher.sources := by simpa [handles] using handled
    obtain ⟨one, earlier, started⟩ := sound.only among
    rw [timerCb]
    split
    next byHand =>
      have calm : refresher.onIoError = false := by
        rw [Bool.eq_false_iff]
        intro failed
        have retries := (sound.error failed).2.1
        rw [byHand.1] at retries
        cases retries
      have told : refresher.Told (refresher.notify 0) := sound.told rfl 0
      have ended : (refresher.notify 0).sources.filter (fun other => other.id ≠ source.id) = [] := by
        rw [sound.notify_eq, one]
        simp
      have kept : (refresher.notify 0).onIoError = false := by
        rw [sound.notify_eq]
        exact calm
      simp only [ended, Checked.returns_ok]
      exact ⟨(sound.notify 0).unsourced kept, fun _ => Told.attended told⟩
    next notByHand =>
      have apart : ¬Refused around false → (sendRequestTo around.outlet).2 = true →
          refresher.transaction ≠ .proceeding := by
        intro permitted sent proceeding
        rcases guarded among proceeding with byHand | forbidden | unsent
        · exact notByHand byHand
        · exact permitted (.inl forbidden)
        · rw [sent] at unsent
          cases unsent
      dsimp only
      generalize called : (if (refresher.refresh refresher.targetExpires around).2 = true then
        (refresher.refresh refresher.targetExpires around).1
        else (refresher.refresh refresher.targetExpires around).1.retryLater) = after
      obtain ⟨kept, ⟨unsourced, transient, calm⟩ | ⟨delay, armed⟩⟩ := sound.refreshOrRetry started apart called.symm
      · simp only [unsourced, List.filter_nil, Checked.returns_ok]
        exact ⟨kept.unsourced calm, fun _ => .inr (.inl transient)⟩
      · have other : refresher.nextSource ≠ source.id := by omega
        have remaining : after.sources.filter (fun other => other.id ≠ source.id) = after.sources := by
          simp [armed, other]
        simp only [remaining, Checked.returns_ok]
        exact ⟨kept, fun _ => .inl (by simp [armed])⟩
  next unhandled => exact Checked.returns_ok.mpr ⟨sound, fun handled => absurd handled unhandled⟩

theorem Sound.channelReady (sound : refresher.Sound) :
    Checked.Returns (refresher.react .channelReady) (refresher.Stepped .channelReady) := by
  rw [react, Checked.returns_ok]
  refine ⟨?_, fun handled => by cases handled⟩
  split
  next initial =>
    have transient : refresher.transaction.isTransient = true := by
      rw [initial]
      rfl
    have started := sound.started_of_transient transient
    have calm := sound.calm_of_transient transient
    have moved : Steady { refresher with transaction := .trying } := { sound.toSteady with
      stopped := fun stopped => absurd stopped (not_stopped started) }
    exact moved.sound calm
  next => exact sound

theorem Sound.terminated (sound : refresher.Sound) :
    Checked.Returns (refresher.react .terminated) (refresher.Stepped .terminated) := by
  rw [react, Checked.returns_ok]
  refine ⟨?_, fun handled => by cases handled⟩
  split
  next => exact sound.terminate
  next => exact sound

/-- Every guarded event is attended and keeps what is kept. -/
theorem Sound.stepped (sound : refresher.Sound) {event : RefreshEvent} (guarded : refresher.Guarded event) :
    Checked.Returns (refresher.react event) (refresher.Stepped event) := by
  cases event with
  | response answer around => exact sound.response guarded
  | timeout => exact sound.timeout
  | transactionError timedOut => exact sound.transactionError timedOut
  | providerError channelBroken => exact sound.providerError channelBroken
  | timerExpires source around => exact sound.timerExpires guarded
  | foreign => exact Checked.returns_ok.mpr ⟨sound, fun handled => by cases handled⟩
  | channelReady => exact sound.channelReady
  | terminated => exact sound.terminated

/-- A refresher at the beginning of a run: it is started with an expiry to keep, and its application listens. -/
structure Begun (refresher : Refresher) : Prop where
  started : refresher.state = .started
  target : 0 < refresher.targetExpires
  listener : refresher.listener = true
  timer : refresher.OneTimer
  calm : refresher.onIoError = false
  left : ∀ state ∈ refresher.left, state.isTransient = false

theorem Begun.sound (begun : refresher.Begun) : refresher.Sound := {
  timer := begun.timer
  left := begun.left
  target := fun _ => begun.target
  stopped := fun stopped => absurd stopped (not_stopped begun.started)
  listener := begun.listener
  error := fun failed => by
    rw [begun.calm] at failed
    cases failed }

/-- A refresher that is started with an expiry to keep begins, whether or not its contact is accurate. -/
theorem start_begun (stopped : refresher.state = .stopped) (target : 0 < refresher.targetExpires)
    (timer : refresher.OneTimer) (calm : refresher.onIoError = false)
    (left : ∀ state ∈ refresher.left, state.isTransient = false) (settled : refresher.transaction.isTransient = false)
    (contactAccurate : Bool) (around : Surroundings) :
    (refresher.start contactAccurate around).setListener.Begun := by
  have notStarted : refresher.state ≠ .started := by
    rw [stopped]
    decide
  have started : OneTimer { refresher with state := .started } := timer
  rw [start, if_neg notStarted, if_pos target]
  cases contactAccurate with
  | true =>
      simp only [if_true, scheduleTimer]
      rw [scheduleTimerAt_eq started]
      exact {
        started := rfl
        target := target
        listener := rfl
        timer := .inr ⟨_, rfl, rfl, Nat.lt_succ_self refresher.nextSource⟩
        calm := calm
        left := left }
  | false =>
      simp only [Bool.false_eq_true, if_false, refresh]
      rw [cancelRetry_eq started]
      rcases refreshInternal_eq target false around with ⟨_, refreshed⟩ | ⟨_, refreshed⟩
      · rw [refreshed]
        exact { started := rfl, target := target, listener := rfl, timer := .inl rfl, calm := calm, left := left }
      · rw [refreshed]
        refine { started := rfl, target := target, listener := rfl, timer := .inl rfl, calm := rfl, left := ?_ }
        intro state among
        simp only [setListener] at among
        split at among
        next =>
          rcases List.mem_append.mp among with before | now
          · exact left state before
          · rw [List.mem_singleton.mp now]
            exact leave_settled fun proceeding => by
              rw [proceeding] at settled
              cases settled
        next => exact left state among

/-- A refresher that is created with an expiry to keep begins. -/
theorem create_begun {transaction : TransactionState} {request : RefreshRequest} {response : Option ResponseExpires}
    (target : 0 < request.asked 0) (contacted : response ≠ none → request.Contacted) (contactAccurate : Bool)
    (around : Surroundings) :
    Checked.Returns (create transaction request response contactAccurate around) fun created =>
      created.setListener.Begun := by
  obtain ⟨expires, obtained, positive, created⟩ : ∃ expires obtained, 0 < expires ∧
      Refresher.setExpiresFromTrans { transaction := transaction, request := request } response =
        .ok { transaction := transaction
              request := request
              targetExpires := expires
              obtainedExpires := obtained } := by
    cases response with
    | none =>
        obtain ⟨expires, obtained, taken⟩ :=
          takeExpires_same { transaction := transaction, request := request } none none
        have asked := granting_target { transaction := transaction, request := request } {}
        rw [granting, show (if request.method = .register then (none : Option Int) else none) = none by split <;> rfl,
          taken] at asked
        refine ⟨expires, obtained, lt_of_lt_of_eq target asked.symm, ?_⟩
        rw [setExpiresFromTrans, ← taken]
        split <;> rfl
    | some response =>
        obtain ⟨expires, obtained, taken⟩ := takeExpires_same { transaction := transaction, request := request }
          (if request.method = .register then response.matchingContact else none) response.expires
        have asked := granting_target { transaction := transaction, request := request } response
        rw [granting, taken] at asked
        refine ⟨expires, obtained, lt_of_lt_of_eq target asked.symm, ?_⟩
        rw [setExpiresFromTrans_contacted (contacted (Option.some_ne_none response)), granting, taken]
  rw [create, created, Checked.ok_bind, Checked.returns_pure]
  split
  next =>
    exact {
      started := rfl
      target := positive
      listener := rfl
      timer := .inl rfl
      calm := rfl
      left := fun _ among => by cases among }
  next settled =>
    exact start_begun rfl positive (.inl rfl) rfl (fun _ among => by cases among) (Bool.eq_false_iff.mpr settled)
      contactAccurate around

/-- What holds after an event that the refresher handles: the event is attended, there is one timer at most, and no
transaction is left for another while it is transient. -/
structure AttendedBy (before : Refresher) (event : RefreshEvent) (after : Refresher) : Prop where
  attended : before.handles event = true → before.Attended after
  oneTimer : after.sources.length ≤ 1
  noCollision : ∀ state ∈ after.left, state.isTransient = false

/-- The event does not stop the program, and this holds after it. -/
def Attending (before : Refresher) (event : RefreshEvent) : Prop :=
  Checked.Returns (before.react event) (before.AttendedBy event)

theorem OneTimer.length_le (timer : refresher.OneTimer) : refresher.sources.length ≤ 1 := by
  rcases timer with empty | ⟨source, one, _⟩
  · simp [empty]
  · simp [one]

/-- A refresh without an authentication that cannot be sent leaves nothing to wait for. -/
theorem refresh_unattended (timer : refresher.OneTimer) (started : refresher.state = .started)
    (settled : refresher.transaction.isTransient = false) {expires : Int} (positive : 0 < expires)
    {around : Surroundings} (cannotSend : ¬CanSend around) {before : Refresher}
    (same : refresher.notified = before.notified) : ¬before.Attended (refresher.refresh expires around).1 := by
  rw [refresh, cancelRetry_eq timer]
  rcases refreshInternal_eq positive false around with ⟨_, refreshed⟩ | ⟨permitted, refreshed⟩
  · rw [refreshed]
    simp [Attended, settled, started, same]
  · have noChannel : around.outlet = .noChannel := by
      by_contra outlet
      exact cannotSend ⟨by simpa [Refused] using permitted, outlet⟩
    rw [refreshed]
    simp [Attended, started, same, noChannel, sendRequestTo, TransactionState.isTransient]

theorem processSuccess_resubmits (started : refresher.state = .started) {answer : RefreshAnswer}
    (inaccurate : answer.contactAccurate = false) (positive : 0 < refresher.targetExpires) (around : Surroundings) :
    refresher.processSuccess answer around = (refresher.refresh refresher.targetExpires around).1 := by
  simp only [Refresher.processSuccess]
  rw [if_neg (Int.not_le.mpr positive), if_pos started, if_neg (by simp [inaccurate])]

/-- A response in which the request is sent again does nothing else. -/
theorem Sound.step_resubmits (sound : refresher.Sound) {answer : RefreshAnswer} {around : Surroundings}
    (handled : refresher.handles (.response answer around) = true) (resubmits : refresher.Resubmits answer)
    (contacted : 200 ≤ answer.statusCode ∧ answer.statusCode < 300 → refresher.request.Contacted) :
    ∃ (current : Refresher) (expires : Int), 0 < expires ∧ current.OneTimer ∧ current.state = .started ∧
      current.transaction = .completed ∧ current.notified = refresher.notified ∧
      refresher.react (.response answer around) = .ok (current.refresh expires around).1 := by
  obtain ⟨started, ⟨low, high, inaccurate, positive⟩ | ⟨tooBrief, minExpires, isMin, positive⟩⟩ := resubmits
  · have isContacted : RefreshRequest.Contacted { refresher with transaction := .completed }.request :=
      contacted ⟨low, high⟩
    obtain ⟨obtained, granted⟩ := granting_reset { refresher with transaction := .completed } answer.expires
    refine ⟨{ refresher with
      transaction := .completed
      authFailures := 0
      numberOfRetry := 0
      targetExpires := refresher.request.asked refresher.targetExpires
      obtainedExpires := obtained }, refresher.request.asked refresher.targetExpires, positive, sound.timer, started,
        rfl, rfl, ?_⟩
    rw [react, if_pos handled, if_neg (by omega), processResponseEvent_success ⟨low, high⟩ isContacted, granted]
    exact congrArg Except.ok (@processSuccess_resubmits { refresher with
      transaction := .completed
      authFailures := 0
      numberOfRetry := 0
      targetExpires := refresher.request.asked refresher.targetExpires
      obtainedExpires := obtained } started answer inaccurate positive around)
  · refine ⟨{ refresher with transaction := .completed, targetExpires := minExpires }, minExpires, positive,
      sound.timer, started, rfl, rfl, ?_⟩
    rw [Option.mem_def] at isMin
    rw [react, if_pos handled]
    simp [tooBrief, processResponseEvent, Refresher.processFailure, isMin, positive, started]

/-- A registration without a contact does not survive its success. -/
theorem contacted_of_returns {answer : RefreshAnswer} {around : Surroundings} {after : Refresher}
    (handled : refresher.handles (.response answer around) = true)
    (success : 200 ≤ answer.statusCode ∧ answer.statusCode < 300)
    (returned : refresher.react (.response answer around) = .ok after) : refresher.request.Contacted := by
  by_contra without
  have same : ¬RefreshRequest.Contacted { refresher with
      transaction := .completed, authFailures := 0, numberOfRetry := 0 }.request := without
  rw [react, if_pos handled, if_neg (by omega), processResponseEvent, if_pos success,
    setExpiresFromTrans_null same] at returned
  cases returned

/-- A request that is sent again in a response is attended only when it can be sent. -/
theorem Sound.canSend_of_attended (sound : refresher.Sound) {answer : RefreshAnswer} {around : Surroundings}
    {after : Refresher} (handled : refresher.handles (.response answer around) = true)
    (resubmits : refresher.Resubmits answer) (returned : refresher.react (.response answer around) = .ok after)
    (attended : refresher.Attended after) : CanSend around := by
  by_contra cannotSend
  obtain ⟨current, expires, positive, timer, started, completed, same, stepped⟩ :=
    sound.step_resubmits handled resubmits fun success => contacted_of_returns handled success returned
  have settled : current.transaction.isTransient = false := by
    rw [completed]
    rfl
  cases stepped.symm.trans returned
  exact refresh_unattended timer started settled positive cannotSend same attended

/-- A timer that sends a request while the transaction has a provisional response leaves the transaction so. -/
theorem Sound.guarded_of_noCollision (sound : refresher.Sound) {source : TimeoutSource} {around : Surroundings}
    {after : Refresher} (returned : refresher.react (.timerExpires source around) = .ok after)
    (noCollision : ∀ state ∈ after.left, state.isTransient = false) :
    refresher.Guarded (.timerExpires source around) := by
  intro among proceeding
  by_contra unguarded
  simp only [not_or, Bool.not_eq_false] at unguarded
  obtain ⟨notByHand, permitted, sent⟩ := unguarded
  have started := (sound.only among).2.2
  have cancelled := cancelRetry_eq sound.timer
  have unrefused : ¬Refused around false := by simp [Refused, permitted]
  have left : (refresher.refresh refresher.targetExpires around).1.left = refresher.left ++ [.proceeding] := by
    rw [refresh, refreshInternal_left (sound.target started) unrefused sent, cancelled, proceeding]
    rfl
  have reached : (refresher.refresh refresher.targetExpires around).2 = true := by
    rw [refresh, refreshInternal_sent (sound.target started) unrefused, sent]
  have kept : TransactionState.proceeding ∈ after.left := by
    rw [react, if_pos (by simpa [handles] using among)] at returned
    cases returned
    simp [timerCb, if_neg notByHand, reached, left]
  exact absurd (noCollision _ kept) (by decide)

/-- An event is attended, and keeps what is kept, exactly when it meets the condition. -/
theorem Sound.attending_iff (sound : refresher.Sound) {event : RefreshEvent} :
    refresher.Attending event ↔ refresher.Guarded event := by
  constructor
  · rintro ⟨after, returned, attending⟩
    cases event with
    | response answer around =>
        intro handled
        refine ⟨fun success => contacted_of_returns handled success returned, ?_⟩
        intro resubmits
        exact sound.canSend_of_attended handled resubmits returned (attending.attended handled)
    | timerExpires source around => exact sound.guarded_of_noCollision returned attending.noCollision
    | timeout | transactionError | providerError | foreign | channelReady | terminated => trivial
  · intro guarded
    obtain ⟨after, returned, kept, attended⟩ := sound.stepped guarded
    exact ⟨after, returned, { attended := attended, oneTimer := kept.timer.length_le, noCollision := kept.left }⟩

/-- The program has not stopped, and the guard holds at the event. -/
def Running (guard : Refresher → RefreshEvent → Prop) : Checked Refresher → RefreshEvent → Prop
  | .ok refresher, event => guard refresher event
  | .error _, _ => False

instance (guard : Refresher → RefreshEvent → Prop) [∀ refresher event, Decidable (guard refresher event)] :
    ∀ (state : Checked Refresher) (event : RefreshEvent), Decidable (Running guard state event)
  | .ok refresher, event => inferInstanceAs (Decidable (guard refresher event))
  | .error _, _ => inferInstanceAs (Decidable False)

/-- A started refresher attends to every event of a run exactly when each of them meets the condition. -/
theorem Begun.run_attending_iff (begun : refresher.Begun) (events : List RefreshEvent) :
    Machine.Along step (Running Attending) (.ok refresher) events ↔
      Machine.Along step (Running Guarded) (.ok refresher) events := by
  have same : ∀ (state : Checked Refresher) (event : RefreshEvent), Checked.Returns state Sound →
      (Running Attending state event ↔ Running Guarded state event) := by
    rintro _ event ⟨before, rfl, sound⟩
    exact sound.attending_iff
  have preserved : ∀ (state : Checked Refresher) (event : RefreshEvent), Checked.Returns state Sound →
      Running Guarded state event → Checked.Returns (step state event) Sound := by
    rintro _ event ⟨before, rfl, sound⟩ guarded
    exact (sound.stepped guarded).mono fun _ stepped => stepped.1
  have initial : Checked.Returns (.ok refresher) Sound := Checked.returns_ok.mpr begun.sound
  constructor
  · intro attending
    have kept : ∀ (state : Checked Refresher) (event : RefreshEvent), Checked.Returns state Sound →
        Running Attending state event → Checked.Returns (step state event) Sound :=
      fun state event sound attends => preserved state event sound ((same state event sound).mp attends)
    exact attending.entails kept (fun state event sound attends => (same state event sound).mp attends) initial
  · intro guarded
    exact guarded.entails preserved (fun state event sound guard => (same state event sound).mpr guard) initial

/-- A registration of one contact whose request has just been sent. -/
def registration : Refresher where
  listener := true
  transaction := .trying
  request := { method := .register, expires := some 600, contactExpires := some (-1) }
  targetExpires := 600
  obtainedExpires := 600
  state := .started

theorem registration_begun : registration.Begun := by
  obtain ⟨created, returned, begun⟩ := @create_begun .trying registration.request none (by decide) (by simp) true
    { outlet := .ready }
  cases returned
  exact begun

/-- A registration that is granted, refreshed, refused for now, retried, and challenged without a credential. -/
theorem run_attending_registration : Machine.Along step (Running Attending) (.ok registration)
    [.response { statusCode := 200, expires := { matchingContact := some 600 } } { outlet := .ready },
      .timerExpires { id := 0, delay := 540000 } { outlet := .ready },
      .response { statusCode := 503 } { outlet := .ready },
      .timerExpires { id := 1, delay := 60000 } { outlet := .ready },
      .response { statusCode := 401 } { unfilledAuthInfo := true, outlet := .ready }] :=
  (Begun.run_attending_iff registration_begun _).mpr (by decide)

/-- A registration that is too brief is not attended when its channel is gone. -/
theorem not_attending_noChannel : registration.Begun ∧
    ¬Machine.Along step (Running Attending) (.ok registration)
      [.response { statusCode := 423, minExpires := some 1800 } { outlet := .noChannel }] := by
  refine ⟨registration_begun, ?_⟩
  rintro ⟨⟨after, returned, attending⟩, -⟩
  cases returned
  have attended := attending.attended (by decide)
  revert attended
  decide

end Refresher

end BelleSip
