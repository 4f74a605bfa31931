import BelleSip.Foundation.Machine
import BelleSip.Transaction.Retransmissions

/-
This file proves the dates of the INVITE transaction, and those of all client transactions over whole runs.
-/

namespace BelleSip.Client

open Foundation MainLoop

/-- The nominal date of the retransmission of an INVITE that follows those made in the given states. -/
def inviteDate (timing : Timing) (start : Int) (states : List TransactionState) : Int :=
  start + ((2 ^ (states.length + 1) - 1) * timing.T1 : Nat)

/-- An INVITE transaction that has no response. -/
structure Calling (timing : Timing) (start : Int) (t : Transaction) : Prop where
  sent : t.sentAt = start
  works : t.channelError = false
  phase : t.state = .calling
  bounded : 2 ^ t.retransmissions.length * timing.T1 ≤ timing.T1 * 64
  timers : ∃ revents, Rested revents ∧
    t.sources = [(.a, waiting (2 ^ t.retransmissions.length * timing.T1)
        (inviteDate timing start (t.retransmissions.map Prod.snd)) revents),
      (.b, waiting (timing.T1 * 64) (start + (timing.T1 * 64 : Nat)) 0)]

namespace Calling

variable {timing : Timing} {start : Int} {t : Transaction}

theorem not_quiet (calling : Calling timing start t) : ¬t.Quiet := by
  rintro (error | completed | terminated)
  · cases calling.works.symm.trans error
  · cases calling.phase.symm.trans completed
  · cases calling.phase.symm.trans terminated

/-- The iteration finds no timer due. -/
theorem idle (calling : Calling timing start t) {cur : Int} (running : ¬start + (timing.T1 * 64 : Nat) ≤ cur)
    (early : ¬inviteDate timing start (t.retransmissions.map Prod.snd) ≤ cur) : t.iterate timing cur = t := by
  obtain ⟨revents, rested, sources⟩ := calling.timers
  rw [Transaction.iterate_eq sources]
  simp only [if_neg running, if_neg early, ← sources]
  rfl

/-- The timeout of a calling transaction ends it. -/
theorem expires (timing : Timing) (expired : Transaction) (method : expired.method = "INVITE")
    (phase : expired.state = .calling) {source : Source} (there : expired.sources.lookup .b = some source) (cur : Int) :
    expired.Rests (expired.notify timing cur .b) := by
  have called : expired.callback timing .b source cur = (expired.terminate, .stop) := by
    show expired.ictOnTimerB cur = _
    unfold Transaction.ictOnTimerB Transaction.notifyTimeout
    rw [phase]
    dsimp only
    rw [if_neg (by rw [method]; decide)]
  rw [Transaction.notify, there]
  dsimp only
  rw [called]
  exact expired.terminate_rests

/-- The iteration finds only the timeout of the transaction. -/
theorem timeout (calling : Calling timing start t) (method : t.method = "INVITE") {cur : Int}
    (expired : start + (timing.T1 * 64 : Nat) ≤ cur)
    (early : ¬inviteDate timing start (t.retransmissions.map Prod.snd) ≤ cur) : t.Rests (t.iterate timing cur) := by
  obtain ⟨revents, rested, sources⟩ := calling.timers
  generalize inviteDate timing start (t.retransmissions.map Prod.snd) = date at sources early
  let found : Transaction := { t with
    sources := [(.a, waiting (2 ^ t.retransmissions.length * timing.T1) date revents),
      (.b, Loop.expire (waiting (timing.T1 * 64) (start + (timing.T1 * 64 : Nat)) 0))] }
  have there : found.sources.lookup .b = some (Loop.expire (waiting (timing.T1 * 64) _ 0)) := rfl
  rw [Transaction.iterate_eq sources]
  simp only [if_neg early, if_pos expired, List.nil_append, List.foldl_cons, List.foldl_nil]
  have rests := expires timing found method calling.phase there cur
  exact ⟨rests.1, rests.2⟩

/-- A transaction that has sent its request again. -/
def resent (timing : Timing) (start cur : Int) (t : Transaction) : Transaction :=
  { t with
    sources := [(.a, waiting (2 ^ (t.retransmissions.length + 1) * timing.T1)
        (inviteDate timing start ((t.retransmissions ++ [(cur, t.state)]).map Prod.snd)) eventTimeout),
      (.b, if start + (timing.T1 * 64 : Nat) ≤ cur then
          Loop.expire (waiting (timing.T1 * 64) (start + (timing.T1 * 64 : Nat)) 0)
        else waiting (timing.T1 * 64) (start + (timing.T1 * 64 : Nat)) 0)]
    retransmissions := t.retransmissions ++ [(cur, t.state)] }

/-- Each date is twice the timeout of the timer behind the one before. -/
theorem inviteDate_append (timing : Timing) (start : Int) (states : List TransactionState) (state : TransactionState) :
    inviteDate timing start (states ++ [state]) =
      inviteDate timing start states + (2 ^ (states.length + 1) * timing.T1 : Nat) := by
  have positive : 1 ≤ 2 ^ (states.length + 1) := Nat.one_le_two_pow
  unfold inviteDate
  rw [List.length_append, List.length_singleton, Nat.pow_succ _ (states.length + 1)]
  generalize 2 ^ (states.length + 1) = power at positive
  obtain ⟨less, rfl⟩ := Nat.exists_eq_add_of_le positive
  rw [show (1 + less) * 2 - 1 = less + (1 + less) by omega, show 1 + less - 1 = less by omega, Nat.add_mul less]
  omega

/-- The timeout of the timer is representable, as long as the request is sent again in time. -/
theorem bounded_again {cur : Int} (soon : cur ≤ start + (timing.T1 * 64 : Nat))
    (passed : inviteDate timing start (t.retransmissions.map Prod.snd) ≤ cur) :
    2 ^ (t.retransmissions.length + 1) * timing.T1 ≤ timing.T1 * 64 := by
  have reached : (2 ^ (t.retransmissions.length + 1) - 1) * timing.T1 ≤ timing.T1 * 64 := by
    rw [inviteDate, List.length_map] at passed
    omega
  rcases Nat.eq_zero_or_pos timing.T1 with zero | positive
  · rw [zero, Nat.mul_zero, Nat.zero_mul]
  · rw [Nat.mul_comm] at reached ⊢
    have power := Nat.le_of_mul_le_mul_left reached positive
    have below : 2 ^ (t.retransmissions.length + 1) < 2 ^ 7 := by omega
    have exponent := (Nat.pow_lt_pow_iff_right (by decide)).mp below
    have limit : 2 ^ (t.retransmissions.length + 1) ≤ 2 ^ 6 := Nat.pow_le_pow_right (by decide) (by omega)
    exact Nat.mul_le_mul_left timing.T1 limit

/-- The request is sent again when its date has passed; the timeout of the transaction is looked at behind that. -/
theorem resend (calling : Calling timing start t) {cur : Int} (soon : cur ≤ start + (timing.T1 * 64 : Nat))
    (passed : inviteDate timing start (t.retransmissions.map Prod.snd) ≤ cur) :
    t.iterate timing cur =
      if start + (timing.T1 * 64 : Nat) ≤ cur then (resent timing start cur t).notify timing cur .b
      else resent timing start cur t := by
  have limit := bounded_again soon passed
  have timeout := timing.inviteTimeout
  obtain ⟨revents, rested, sources⟩ := calling.timers
  have next := inviteDate_append timing start (t.retransmissions.map Prod.snd) t.state
  rw [List.length_map] at next
  unfold resent
  rw [List.map_append, List.map_singleton, next]
  generalize inviteDate timing start (t.retransmissions.map Prod.snd) = date at sources passed
  let expiring : Transaction := { t with
    sources := [(.a, Loop.expire (waiting (2 ^ t.retransmissions.length * timing.T1) date revents)),
      (.b, if start + (timing.T1 * 64 : Nat) ≤ cur then
          Loop.expire (waiting (timing.T1 * 64) (start + (timing.T1 * 64 : Nat)) 0)
        else waiting (timing.T1 * 64) (start + (timing.T1 * 64 : Nat)) 0)] }
  have called : expiring.callback timing .a
      (Loop.expire (waiting (2 ^ t.retransmissions.length * timing.T1) date revents)) cur =
        ((expiring.modifyTimer .a
            (·.setTimeout (UInt32.ofNat (2 ^ (t.retransmissions.length + 1) * timing.T1)) cur)).retransmit cur,
          .continued) := by
    have small := calling.bounded
    show expiring.ictOnTimerA (Loop.expire _) cur = _
    unfold Transaction.ictOnTimerA
    rw [show expiring.state = .calling from calling.phase]
    dsimp only
    rw [getTimeout_expired (by omega), doubled, Nat.pow_succ, Nat.mul_comm _ 2, Nat.mul_assoc]
  have there : expiring.sources.lookup .a =
      some (Loop.expire (waiting (2 ^ t.retransmissions.length * timing.T1) date revents)) := rfl
  have notified := Transaction.notify_resends there calling.works called
  have restarted := restart_setTimeout (2 ^ t.retransmissions.length * timing.T1) date
    (show 2 ^ (t.retransmissions.length + 1) * timing.T1 < 2 ^ 31 by omega) rested cur
  simp only [expiring, Transaction.modifyTimer, List.map_cons, List.map_nil, reduceCtorEq, if_false, if_true,
    restarted] at notified
  rw [Transaction.iterate_eq sources]
  simp only [if_pos passed, List.singleton_append, List.foldl_cons]
  rw [notified]
  by_cases expired : start + (timing.T1 * 64 : Nat) ≤ cur
  · simp only [if_pos expired, List.foldl_cons, List.foldl_nil]
  · simp only [if_neg expired, List.foldl_nil]

/-- An orderly iteration that finds the date passed is not behind the timeout. -/
theorem soon (calling : Calling timing start t) {cur : Int} (orderly : orderly timing t (.iterate cur) = true)
    (passed : inviteDate timing start (t.retransmissions.map Prod.snd) ≤ cur) :
    cur ≤ start + (timing.T1 * 64 : Nat) := by
  obtain ⟨revents, rested, sources⟩ := calling.timers
  unfold Client.orderly at orderly
  dsimp only at orderly
  rw [sources, List.all_cons] at orderly
  have first := (Bool.and_eq_true_iff.mp orderly).1
  dsimp only at first
  rw [isDue_waiting, decide_eq_true passed, calling.sent] at first
  simpa using first

/-- A transaction that has sent its request again waits for the following date. -/
theorem again (calling : Calling timing start t) {cur : Int} (running : ¬start + (timing.T1 * 64 : Nat) ≤ cur)
    (passed : inviteDate timing start (t.retransmissions.map Prod.snd) ≤ cur) :
    Calling timing start (resent timing start cur t) := by
  have limit := bounded_again (by omega) passed
  have grown : (resent timing start cur t).retransmissions.length = t.retransmissions.length + 1 :=
    List.length_append
  refine ⟨calling.sent, calling.works, calling.phase, ?_, eventTimeout, .inr rfl, ?_⟩
  · rw [grown]
    exact limit
  · rw [grown]
    unfold resent
    rw [if_neg running]

end Calling

/-- What an INVITE transaction without a response keeps from the sending of its request on. -/
structure Ict (timing : Timing) (start : Int) (t : Transaction) : Prop where
  method : t.method = "INVITE"
  dated : Dated (inviteDate timing start) (start + (timing.T1 * 64 : Nat)) t.retransmissions
  phase : Calling timing start t ∨ t.Quiet

namespace Ict

variable {timing : Timing} {start : Int} {t : Transaction}

/-- A step that sends nothing and leaves the transaction quiet. -/
theorem rested (ict : Ict timing start t) {after : Transaction} (method : after.method = t.method)
    (rests : t.Rests after) : Ict timing start after :=
  ⟨method.trans ict.method, rests.2.symm ▸ ict.dated, .inr rests.1⟩

theorem iterated (ict : Ict timing start t) {cur : Int} (orderly : orderly timing t (.iterate cur) = true) :
    Ict timing start (t.iterate timing cur) := by
  have method := t.iterate_method timing cur
  rcases ict.phase with calling | quiet
  · by_cases passed : inviteDate timing start (t.retransmissions.map Prod.snd) ≤ cur
    · have soon := calling.soon orderly passed
      have dated := ict.dated.append passed soon t.state
      rw [calling.resend soon passed]
      by_cases expired : start + (timing.T1 * 64 : Nat) ≤ cur
      · have there : (Calling.resent timing start cur t).sources.lookup .b = some _ := rfl
        have rests := Calling.expires timing (Calling.resent timing start cur t) ict.method calling.phase there cur
        have same := (Calling.resent timing start cur t).notify_method timing cur .b
        rw [if_pos expired]
        exact ⟨same.trans ict.method, rests.2.symm ▸ dated, .inr rests.1⟩
      · rw [if_neg expired]
        exact ⟨ict.method, dated, .inl (calling.again expired passed)⟩
    · by_cases expired : start + (timing.T1 * 64 : Nat) ≤ cur
      · exact ict.rested method (calling.timeout ict.method expired passed)
      · rw [calling.idle expired passed]
        exact ict
  · exact ict.rested method (Transaction.iterate_rests timing quiet cur)

theorem step (ict : Ict timing start t) (event : Event) (orderly : orderly timing t event = true)
    (silent : ∀ code now, event ≠ .response code now) : Ict timing start (Client.step timing t event) := by
  cases event with
  | iterate cur => exact ict.iterated orderly
  | response code now => exact absurd rfl (silent code now)
  | received now =>
      refine ⟨ict.method, ict.dated, ict.phase.imp ?_ id⟩
      exact fun calling => ⟨calling.sent, calling.works, calling.phase, calling.bounded, calling.timers⟩
  | channelEnded => exact ict.rested t.terminate_method t.terminate_rests

/-- An iteration sends the request again exactly when its nominal date has passed. -/
theorem punctual (ict : Ict timing start t) {cur : Int} (orderly : orderly timing t (.iterate cur) = true) :
    (t.iterate timing cur).retransmissions =
      if ¬t.Quiet ∧ inviteDate timing start (t.retransmissions.map Prod.snd) ≤ cur then
        t.retransmissions ++ [(cur, t.state)]
      else t.retransmissions := by
  rcases ict.phase with calling | quiet
  · by_cases passed : inviteDate timing start (t.retransmissions.map Prod.snd) ≤ cur
    · rw [if_pos ⟨calling.not_quiet, passed⟩, calling.resend (calling.soon orderly passed) passed]
      by_cases expired : start + (timing.T1 * 64 : Nat) ≤ cur
      · have there : (Calling.resent timing start cur t).sources.lookup .b = some _ := rfl
        have rests := Calling.expires timing (Calling.resent timing start cur t) ict.method calling.phase there cur
        rw [if_pos expired]
        exact rests.2
      · rw [if_neg expired]
        rfl
    · rw [if_neg fun resends => passed resends.2]
      by_cases expired : start + (timing.T1 * 64 : Nat) ≤ cur
      · exact (calling.timeout ict.method expired passed).2
      · rw [calling.idle expired passed]
  · rw [if_neg fun resends => resends.1 quiet]
    exact (Transaction.iterate_rests timing quiet cur).2

theorem sent (timing : Timing) (method : t.method = "INVITE") (sources : t.sources = [])
    (first : t.retransmissions = []) (unreliable : t.reliable = false) (works : t.channelError = false) (now : Int) :
    Ict timing now (t.sendRequest timing now) := by
  have timeout := timing.inviteTimeout
  have request : t.sendRequest timing now = { t with
      state := .calling
      sentAt := now
      sources := [(.a, waiting timing.T1 (now + timing.T1) 0),
        (.b, waiting (timing.T1 * 64) (now + (timing.T1 * 64 : Nat)) 0)] } := by
    rw [Transaction.sendRequest, if_pos method]
    dsimp only [Transaction.ictSendRequest, Transaction.startTimer]
    rw [if_neg (by rw [unreliable]; exact Bool.false_ne_true), sources, start_timeoutSource (by omega),
      start_timeoutSource (by omega)]
    rfl
  rw [request]
  refine ⟨method, ?_, .inl ⟨rfl, works, rfl, ?_, 0, .inl rfl, ?_⟩⟩
  · exact first ▸ Dated.nil
  · rw [first, List.length_nil]
    omega
  · dsimp only
    rw [first, List.map_nil, inviteDate, List.length_nil, List.length_nil]
    simp only [Nat.zero_add, Nat.pow_zero, Nat.pow_one, Nat.reduceSub, Nat.one_mul]

end Ict

/-- The nominal date of the retransmission that follows those made in the given states. -/
def scheduled (timing : Timing) (start : Int) (method : String) : List TransactionState → Int :=
  if method = "INVITE" then inviteDate timing start else nominalDate timing start

theorem scheduled_invite {timing : Timing} {start : Int} {method : String} (invite : method = "INVITE") :
    scheduled timing start method = inviteDate timing start := if_pos invite

theorem scheduled_other {timing : Timing} {start : Int} {method : String} (other : method ≠ "INVITE") :
    scheduled timing start method = nominalDate timing start := if_neg other

/-- The request is sent again in the iterations that find its nominal date passed, a request other than an INVITE only
before the timeout. -/
def Punctual (timing : Timing) (start : Int) (t : Transaction) (event : Event) : Prop :=
  match event with
  | .iterate cur => (t.iterate timing cur).retransmissions =
      if ¬t.Quiet ∧ (t.method = "INVITE" ∨ cur < start + (timing.T1 * 64 : Nat)) ∧
          scheduled timing start t.method (t.retransmissions.map Prod.snd) ≤ cur then
        t.retransmissions ++ [(cur, t.state)]
      else t.retransmissions
  | event => (step timing t event).retransmissions = t.retransmissions

theorem Ict.punctual_step {timing : Timing} {start : Int} {t : Transaction} (ict : Ict timing start t) (event : Event)
    (orderly : orderly timing t event = true) (silent : ∀ code now, event ≠ .response code now) :
    Punctual timing start t event := by
  cases event with
  | iterate cur =>
      have resends := ict.punctual orderly
      rw [Punctual, scheduled_invite ict.method]
      simpa only [ict.method, true_or, true_and] using resends
  | response code now => exact absurd rfl (silent code now)
  | received now => rfl
  | channelEnded => exact t.terminate_rests.2

theorem Nict.punctual_step {timing : Timing} {start : Int} {t : Transaction} (nict : Nict timing start t)
    (event : Event) (orderly : orderly timing t event = true) : Punctual timing start t event := by
  cases event with
  | iterate cur =>
      have resends := nict.punctual orderly
      rw [Punctual, scheduled_other nict.method]
      simpa only [nict.method, false_or] using resends
  | response code now =>
      exact Nict.onResponse_retransmissions (t := { t with lastRecvTime := now }) nict.method code now
  | received now => rfl
  | channelEnded => exact t.terminate_rests.2

/-- In an orderly run, each retransmission of the request is made in the first iteration that finds its nominal date
passed, and none is made behind the timeout. -/
theorem retransmits_on_schedule (timing : Timing) (t : Transaction) (now : Int) (events : List Event)
    (sources : t.sources = []) (first : t.retransmissions = []) (unreliable : t.reliable = false)
    (works : t.channelError = false) (silent : t.method = "INVITE" → ∀ code at', .response code at' ∉ events)
    (along : Machine.Along (step timing) (fun t event => orderly timing t event = true) (t.sendRequest timing now)
      events) :
    Dated (scheduled timing now t.method) (now + (timing.T1 * 64 : Nat))
        (Machine.run (step timing) (t.sendRequest timing now) events).retransmissions ∧
      Machine.Along (step timing) (Punctual timing now) (t.sendRequest timing now) events := by
  by_cases method : t.method = "INVITE"
  · have initial := Ict.sent timing method sources first unreliable works now
    have unanswered : ∀ event ∈ events, ∀ code at', event ≠ .response code at' :=
      fun event among code at' same => silent method code at' (same ▸ among)
    have guarded := along.among unanswered
    have preserved : ∀ (t : Transaction) event, Ict timing now t →
        orderly timing t event = true ∧ (∀ code at', event ≠ .response code at') →
          Ict timing now (step timing t event) :=
      fun t event ict guard => ict.step event guard.1 guard.2
    have final := Machine.run_invariant preserved initial guarded
    rw [scheduled_invite method]
    have punctual := guarded.entails preserved
        (fun _ event ict guard => ict.punctual_step event guard.1 guard.2) initial
    exact ⟨final.dated, punctual⟩
  · have initial := Nict.sent timing method sources first unreliable works now
    have preserved : ∀ (t : Transaction) event, Nict timing now t → orderly timing t event = true →
        Nict timing now (step timing t event) := fun t event nict guard => nict.step event guard
    have final := Machine.run_invariant preserved initial along
    rw [scheduled_other method]
    have punctual := along.entails preserved (fun _ event nict guard => nict.punctual_step event guard) initial
    exact ⟨final.dated, punctual⟩

/-- The values of the timers where the application configures none. -/
def defaultTiming : Timing := { ordered := by decide, inviteTimeout := by decide, interval := by decide }

theorem retransmits_on_schedule_message :
    Dated (scheduled defaultTiming 0 "MESSAGE") ((0 : Int) + (500 * 64 : Nat))
        (Machine.run (step defaultTiming) (Transaction.sendRequest { method := "MESSAGE" } defaultTiming 0)
          [.iterate 700, .iterate 1400, .response 100 1500, .iterate 3600, .iterate 7400]).retransmissions ∧
      Machine.Along (step defaultTiming) (Punctual defaultTiming 0)
        (Transaction.sendRequest { method := "MESSAGE" } defaultTiming 0)
        [.iterate 700, .iterate 1400, .response 100 1500, .iterate 3600, .iterate 7400] :=
  retransmits_on_schedule defaultTiming { method := "MESSAGE" } 0 _ rfl rfl rfl rfl
    (fun same => absurd same (by decide)) (by decide)

/-- The main loop turns to `timer_A` before `timer_B`, so a late iteration sends the INVITE again behind its timeout.
The timeout of a REGISTER is ignored while the channel has received something in the last minute, and `timer_F` is not
started again. -/
theorem sends_behind_timeout :
    (Machine.run (step defaultTiming) (Transaction.sendRequest { method := "INVITE" } defaultTiming 0)
        [.iterate 40000]).retransmissions = [(40000, .calling)] ∧
      ¬Dated (scheduled defaultTiming 0 "INVITE") ((0 : Int) + (500 * 64 : Nat))
        (Machine.run (step defaultTiming) (Transaction.sendRequest { method := "INVITE" } defaultTiming 0)
          [.iterate 40000]).retransmissions ∧
      ¬Dated (scheduled defaultTiming 0 "REGISTER") ((0 : Int) + (500 * 64 : Nat))
        (Machine.run (step defaultTiming) (Transaction.sendRequest { method := "REGISTER" } defaultTiming 0)
          [.received 10000, .iterate 32000, .iterate 32001]).retransmissions := by
  have invite : (Machine.run (step defaultTiming) (Transaction.sendRequest { method := "INVITE" } defaultTiming 0)
      [.iterate 40000]).retransmissions = [(40000, .calling)] := by decide
  have register : (Machine.run (step defaultTiming) (Transaction.sendRequest { method := "REGISTER" } defaultTiming 0)
      [.received 10000, .iterate 32000, .iterate 32001]).retransmissions = [(32000, .trying), (32001, .trying)] := by
    decide
  refine ⟨invite, fun dated => ?_, fun dated => ?_⟩
  · rw [invite] at dated
    exact absurd (dated [] 40000 .calling [] rfl).2 (by decide)
  · rw [register] at dated
    exact absurd (dated [(32000, .trying)] 32001 .trying [] rfl).2 (by decide)

end BelleSip.Client
