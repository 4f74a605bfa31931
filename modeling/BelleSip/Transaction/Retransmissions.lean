import BelleSip.Transaction.Client

/-
This file proves at which dates the client transactions send their requests again.
-/

namespace BelleSip.Client

open Foundation MainLoop

/-- A timeout on the main loop that expires at the date. -/
def waiting (timeout : Nat) (date : Int) (revents : Nat) : Source := { timeout, expireMs := date, revents }

/-- The source has not been notified, or it has been as a timeout. -/
def Rested (revents : Nat) : Prop := revents = 0 ∨ revents = eventTimeout

theorem toInt_ofNat {n : Nat} (fits : n < 2 ^ 31) : (UInt32.ofNat n).toBitVec.toInt = n := by
  rw [BitVec.toInt_eq_toNat_cond]
  have small : (UInt32.ofNat n).toBitVec.toNat = n := UInt32.toNat_ofNat_of_lt' (Nat.lt_trans fits (by decide))
  rw [small, if_pos (by omega)]

theorem start_timeoutSource {n : Nat} (fits : n < 2 ^ 31) (now : Int) :
    (timeoutSource (UInt32.ofNat n)).start now = waiting n (now + n) 0 := by
  have value := toInt_ofNat fits
  unfold Source.start timeoutSource waiting
  dsimp only
  rw [value, if_pos (Int.natCast_nonneg n)]

theorem isDue_waiting (cur : Int) (n : Nat) (date : Int) (revents : Nat) :
    Loop.isDue cur (waiting n date revents) = decide (date ≤ cur) := by
  rw [Bool.eq_iff_iff, decide_eq_true_iff]
  simp only [Loop.isDue, waiting, ne_eq, not_true_eq_false, decide_false, Bool.false_and, Bool.false_or,
    Int.natCast_nonneg, decide_true, Bool.true_and]
  exact decide_eq_true_iff

theorem getTimeout_expired {n : Nat} (fits : n < 2 ^ 31) (date : Int) (revents : Nat) :
    (Loop.expire (waiting n date revents)).getTimeout = UInt32.ofNat n := by
  show UInt32.ofNat ((n : Int) % 2 ^ 32).toNat = UInt32.ofNat n
  rw [Int.emod_eq_of_lt (Int.natCast_nonneg n) (by omega), Int.toNat_natCast]

/-- The timeout that is set in the callback counts from the date that has passed. -/
theorem restart_setTimeout (n : Nat) (date : Int) {m revents : Nat} (fits : m < 2 ^ 31) (rested : Rested revents)
    (cur : Int) :
    Loop.restart .continued cur ((Loop.expire (waiting n date revents)).setTimeout (UInt32.ofNat m) cur) =
      waiting m (date + m) eventTimeout := by
  have value := toInt_ofNat fits
  rcases rested with rfl | rfl
  · simp [Loop.restart, Loop.expire, Source.setTimeout, waiting, value]
  · simp [Loop.restart, Loop.expire, Source.setTimeout, waiting, value, eventTimeout]

theorem doubled (n : Nat) : 2 * UInt32.ofNat n = UInt32.ofNat (2 * n) := by
  rw [UInt32.ofNat_mul]
  rfl

theorem smaller {n m : Nat} (first : n < 2 ^ 32) (second : m < 2 ^ 32) :
    (if UInt32.ofNat n < UInt32.ofNat m then UInt32.ofNat n else UInt32.ofNat m) = UInt32.ofNat (min n m) := by
  have compared : UInt32.ofNat n < UInt32.ofNat m ↔ n < m := by
    rw [UInt32.lt_iff_toNat_lt, UInt32.toNat_ofNat_of_lt' first, UInt32.toNat_ofNat_of_lt' second]
  by_cases less : n < m
  · rw [if_pos (compared.mpr less), Nat.min_eq_left (Nat.le_of_lt less)]
  · rw [if_neg (mt compared.mp less), Nat.min_eq_right (Nat.not_lt.mp less)]

namespace Transaction

variable {timing : Timing} {t : Transaction}

/-- The transaction sends its request no more: it has a final response, it has ended, or its channel is dead. -/
def Quiet (t : Transaction) : Prop := t.channelError = true ∨ t.state = .completed ∨ t.state = .terminated

instance : Decidable t.Quiet := inferInstanceAs (Decidable (_ ∨ _ ∨ _))

/-- A quiet transaction stays quiet. -/
def Rests (before after : Transaction) : Prop := after.Quiet ∧ after.retransmissions = before.retransmissions

theorem terminate_rests (t : Transaction) : t.Rests t.terminate := by
  unfold terminate
  split
  · next ended => exact ⟨.inr (.inr ended), rfl⟩
  · exact ⟨.inr (.inr rfl), rfl⟩

theorem notifyTimeout_rests (quiet : t.Quiet) (now : Int) : t.Rests (t.notifyTimeout now) := by
  unfold notifyTimeout
  split
  · split
    · exact ⟨.inl rfl, rfl⟩
    · exact ⟨quiet, rfl⟩
  · exact terminate_rests t

theorem callback_rests (timing : Timing) (quiet : t.Quiet) (timer : Timer) (source : Source) (now : Int) :
    t.Rests (t.callback timing timer source now).1 := by
  have dead : ∀ state : TransactionState, state ≠ .completed → state ≠ .terminated → t.state = state →
      t.channelError = true := by
    intro state uncompleted alive same
    rcases quiet with error | completed | terminated
    · exact error
    · exact absurd (same.symm.trans completed) uncompleted
    · exact absurd (same.symm.trans terminated) alive
  have resent : t.channelError = true → ∀ (name : Timer) (change : Source → Source),
      t.Rests ((t.modifyTimer name change).retransmit now) := by
    intro error name change
    have still : (t.modifyTimer name change).channelError = true := error
    rw [retransmit, if_pos still]
    exact ⟨.inl error, rfl⟩
  cases timer with
  | a =>
      show t.Rests (t.ictOnTimerA source now).1
      unfold ictOnTimerA
      split
      · next calling => exact resent (dead .calling nofun nofun calling) _ _
      · exact ⟨quiet, rfl⟩
  | b =>
      show t.Rests (t.ictOnTimerB now).1
      unfold ictOnTimerB
      split
      · exact notifyTimeout_rests quiet now
      · exact ⟨quiet, rfl⟩
  | d =>
      show t.Rests (t.ictOnTimerD).1
      unfold ictOnTimerD
      dsimp only
      split
      · exact terminate_rests t
      · exact ⟨quiet, rfl⟩
  | m =>
      show t.Rests (t.ictOnTimerM).1
      unfold ictOnTimerM
      dsimp only
      split
      · exact terminate_rests t
      · exact ⟨quiet, rfl⟩
  | e =>
      show t.Rests (t.nictOnTimerE timing source now).1
      unfold nictOnTimerE
      split
      · next trying => exact resent (dead .trying nofun nofun trying) _ _
      · next proceeding => exact resent (dead .proceeding nofun nofun proceeding) _ _
      · exact ⟨quiet, rfl⟩
  | f =>
      show t.Rests (t.nictOnTimerF now).1
      unfold nictOnTimerF
      split
      · exact notifyTimeout_rests quiet now
      · exact notifyTimeout_rests quiet now
      · exact ⟨quiet, rfl⟩
  | k => exact terminate_rests t

theorem notify_rests (timing : Timing) (quiet : t.Quiet) (cur : Int) (timer : Timer) :
    t.Rests (t.notify timing cur timer) := by
  unfold notify
  split
  · exact ⟨quiet, rfl⟩
  · next source _ =>
      have rests := callback_rests timing quiet timer source cur
      dsimp only
      split
      · exact rests
      · exact rests

theorem notifyAll_rests (timing : Timing) (quiet : t.Quiet) (cur : Int) (timers : List Timer) :
    t.Rests (timers.foldl (fun t timer => t.notify timing cur timer) t) := by
  induction timers generalizing t with
  | nil => exact ⟨quiet, rfl⟩
  | cons timer rest ih =>
      have first := notify_rests timing quiet cur timer
      have others := ih first.1
      exact ⟨others.1, others.2.trans first.2⟩

/-- No iteration of the main loop makes a quiet transaction send its request. -/
theorem iterate_rests (timing : Timing) (quiet : t.Quiet) (cur : Int) : t.Rests (t.iterate timing cur) :=
  notifyAll_rests (t := t.examine cur) timing quiet cur (t.due cur)

theorem nictSetCompleted_rests (timing : Timing) (t : Transaction) (now : Int) :
    t.Rests (t.nictSetCompleted timing now) := by
  unfold nictSetCompleted
  split
  · exact terminate_rests { t with state := .completed }
  · exact ⟨.inr (.inl rfl), rfl⟩

theorem nictOnResponse_rests (quiet : t.Quiet) (code : Nat) (now : Int) :
    t.Rests (t.nictOnResponse timing code now) := by
  unfold nictOnResponse
  split
  · next trying =>
      split
      · refine ⟨.inl ?_, rfl⟩
        rcases quiet with error | completed | terminated
        · exact error
        · cases trying.symm.trans completed
        · cases trying.symm.trans terminated
      · exact nictSetCompleted_rests timing t now
  · split
    · exact nictSetCompleted_rests timing t now
    · exact ⟨quiet, rfl⟩
  · exact ⟨quiet, rfl⟩

/-- Two timers of a transaction, in an iteration. -/
theorem iterate_eq {first second : Timer} {early late : Nat} {deadline date : Int} {revents others : Nat}
    (sources : t.sources = [(first, waiting early deadline others), (second, waiting late date revents)]) (cur : Int) :
    t.iterate timing cur =
      ((if deadline ≤ cur then [first] else []) ++ (if date ≤ cur then [second] else [])).foldl
        (fun t timer => t.notify timing cur timer)
        { t with sources := [
            (first, if deadline ≤ cur then Loop.expire (waiting early deadline others)
              else waiting early deadline others),
            (second, if date ≤ cur then Loop.expire (waiting late date revents) else waiting late date revents)] } := by
  rw [iterate, due, examine, sources]
  by_cases expired : deadline ≤ cur
  · by_cases passed : date ≤ cur
    · simp [isDue_waiting, expired, passed]
    · simp [isDue_waiting, expired, passed]
  · by_cases passed : date ≤ cur
    · simp [isDue_waiting, expired, passed]
    · simp [isDue_waiting, expired, passed]

/-- A timer whose callback sets its timeout and sends the request again stays on the loop. -/
theorem notify_resends {timer : Timer} {source : Source} {cur : Int} {n : Nat}
    (there : t.sources.lookup timer = some source) (works : t.channelError = false)
    (called : t.callback timing timer source cur =
      ((t.modifyTimer timer (·.setTimeout (UInt32.ofNat n) cur)).retransmit cur, .continued)) :
    t.notify timing cur timer =
      { t.modifyTimer timer fun source => Loop.restart .continued cur (source.setTimeout (UInt32.ofNat n) cur) with
        retransmissions := t.retransmissions ++ [(cur, t.state)] } := by
  have alive : ¬(t.modifyTimer timer (·.setTimeout (UInt32.ofNat n) cur)).channelError = true := by
    show ¬t.channelError = true
    rw [works]
    exact Bool.false_ne_true
  rw [notify, there]
  dsimp only
  rw [called, retransmit, if_neg alive]
  dsimp only
  rw [if_neg (show ¬Result.continued = .stop from nofun)]
  dsimp only [modifyTimer]
  rw [List.map_map]
  congr 1
  refine List.map_congr_left fun entry _ => ?_
  by_cases named : entry.1 = timer
  · simp [named]
  · simp [named]

end Transaction

/-! The dates of the non-INVITE transaction. -/

/-- The interval behind the retransmission with the number `k`, which is made in the given state. -/
def interval (timing : Timing) (k : Nat) (state : TransactionState) : Nat :=
  if state = .trying then min (2 ^ k * timing.T1) timing.T2 else timing.T2

/-- The nominal date of the retransmission that follows those made in the given states. -/
def nominalDate (timing : Timing) (start : Int) (states : List TransactionState) : Int :=
  start + timing.T1 + ((states.zipIdx 1).map fun (state, k) => (interval timing k state : Int)).sum

theorem nominalDate_append (timing : Timing) (start : Int) (states : List TransactionState) (state : TransactionState) :
    nominalDate timing start (states ++ [state]) =
      nominalDate timing start states + interval timing (states.length + 1) state := by
  rw [nominalDate, nominalDate, List.zipIdx_append, List.map_append, List.sum_append, ← Int.add_assoc, Nat.add_comm]
  simp

/-- Each retransmission is made at its date or later, and none behind the deadline. -/
def Dated (date : List TransactionState → Int) (deadline : Int) (retransmissions : List (Int × TransactionState)) :
    Prop :=
  ∀ front time state rest, retransmissions = front ++ (time, state) :: rest →
    date (front.map Prod.snd) ≤ time ∧ time ≤ deadline

theorem Dated.nil {date : List TransactionState → Int} {deadline : Int} : Dated date deadline [] := by
  intro front time state rest whole
  cases List.append_ne_nil_of_right_ne_nil front (List.cons_ne_nil (time, state) rest) whole.symm

theorem Dated.append {date : List TransactionState → Int} {deadline : Int}
    {retransmissions : List (Int × TransactionState)} (dated : Dated date deadline retransmissions) {time : Int}
    (due : date (retransmissions.map Prod.snd) ≤ time) (soon : time ≤ deadline) (state : TransactionState) :
    Dated date deadline (retransmissions ++ [(time, state)]) := by
  intro front other its rest whole
  rcases List.eq_nil_or_concat rest with rfl | ⟨before, last, rfl⟩
  · obtain ⟨rfl, same⟩ := List.append_inj' whole rfl
    cases List.singleton_inj.mp same
    exact ⟨due, soon⟩
  · rw [List.concat_eq_append, ← List.cons_append, ← List.append_assoc] at whole
    exact dated front other its before (List.append_inj' whole rfl).1

/-- An iteration that finds the timer of the transaction due comes in time: it does not find `timer_A` due behind the
timeout of `timer_B`, and it finds no `timer_F` of a REGISTER due while the channel has received something in the last
minute. -/
def orderly (timing : Timing) (t : Transaction) : Event → Bool
  | .iterate cur => t.sources.all fun (timer, source) => !Loop.isDue cur source ||
      match timer with
      | .a => cur ≤ t.sentAt + (timing.T1 * 64 : Nat)
      | .f => t.method ≠ "REGISTER" || 60 * 1000 ≤ cur - t.lastRecvTime
      | _ => true
  | _ => true

/-- A non-INVITE transaction that waits for a final response. -/
structure Trying (timing : Timing) (start : Int) (t : Transaction) : Prop where
  works : t.channelError = false
  phase : t.state = .trying ∨ t.state = .proceeding
  tried : t.state = .trying → ∀ state ∈ t.retransmissions.map Prod.snd, state = .trying
  timers : ∃ timeout revents, Rested revents ∧ timeout ≤ timing.T2 ∧
    (t.state = .trying → timeout = min (2 ^ t.retransmissions.length * timing.T1) timing.T2) ∧
      t.sources = [(.f, waiting (timing.T1 * 64) (start + (timing.T1 * 64 : Nat)) 0),
        (.e, waiting timeout (nominalDate timing start (t.retransmissions.map Prod.snd)) revents)]

namespace Trying

variable {timing : Timing} {start : Int} {t : Transaction}

theorem not_quiet (trying : Trying timing start t) : ¬t.Quiet := by
  rintro (error | completed | terminated)
  · cases trying.works.symm.trans error
  · rcases trying.phase with phase | phase
    · cases phase.symm.trans completed
    · cases phase.symm.trans completed
  · rcases trying.phase with phase | phase
    · cases phase.symm.trans terminated
    · cases phase.symm.trans terminated

/-- The iteration ends the wait of the transaction. -/
theorem timeout (trying : Trying timing start t) {cur : Int} (expired : start + (timing.T1 * 64 : Nat) ≤ cur)
    (orderly : orderly timing t (.iterate cur) = true) : t.Rests (t.iterate timing cur) := by
  obtain ⟨timeout, revents, rested, small, exact, sources⟩ := trying.timers
  have responds : t.method ≠ "REGISTER" ∨ 60 * 1000 ≤ cur - t.lastRecvTime := by
    unfold Client.orderly at orderly
    dsimp only at orderly
    rw [sources, List.all_cons] at orderly
    have first := (Bool.and_eq_true_iff.mp orderly).1
    dsimp only at first
    rw [isDue_waiting, decide_eq_true expired] at first
    simpa using first
  have notified : ∀ source rest, t.Rests ({ t with sources := (.f, source) :: rest }.notify timing cur .f) := by
    intro source rest
    let expiring : Transaction := { t with sources := (.f, source) :: rest }
    have ended : t.Rests (expiring.notifyTimeout cur) := by
      unfold Transaction.notifyTimeout
      split
      · next register =>
          rw [if_pos (responds.resolve_left (· register))]
          exact ⟨.inl rfl, rfl⟩
      · have rests := expiring.terminate_rests
        exact ⟨rests.1, rests.2⟩
    have called : expiring.callback timing .f source cur = (expiring.notifyTimeout cur, .stop) := by
      show expiring.nictOnTimerF cur = _
      unfold Transaction.nictOnTimerF
      rcases trying.phase with phase | phase
      · rw [show expiring.state = _ from phase]
      · rw [show expiring.state = _ from phase]
    have there : expiring.sources.lookup .f = some source := rfl
    show t.Rests (expiring.notify timing cur .f)
    rw [Transaction.notify, there]
    dsimp only
    rw [called]
    exact ended
  generalize nominalDate timing start (t.retransmissions.map Prod.snd) = date at sources
  rw [Transaction.iterate_eq sources]
  simp only [if_pos expired, List.singleton_append, List.foldl_cons]
  have first := notified (Loop.expire (waiting (timing.T1 * 64) (start + (timing.T1 * 64 : Nat)) 0))
    [(.e, if date ≤ cur then Loop.expire (waiting timeout date revents) else waiting timeout date revents)]
  have others := Transaction.notifyAll_rests timing first.1 cur (if date ≤ cur then [.e] else [])
  exact ⟨others.1, others.2.trans first.2⟩

/-- The iteration finds no timer due. -/
theorem idle (trying : Trying timing start t) {cur : Int} (running : ¬start + (timing.T1 * 64 : Nat) ≤ cur)
    (early : ¬nominalDate timing start (t.retransmissions.map Prod.snd) ≤ cur) : t.iterate timing cur = t := by
  obtain ⟨timeout, revents, rested, small, exact, sources⟩ := trying.timers
  rw [Transaction.iterate_eq sources]
  simp only [if_neg running, if_neg early, ← sources]
  rfl

/-- The request is sent again when its date has passed, and the following date counts from that date. -/
theorem resend (trying : Trying timing start t) {cur : Int} (running : ¬start + (timing.T1 * 64 : Nat) ≤ cur)
    (passed : nominalDate timing start (t.retransmissions.map Prod.snd) ≤ cur) :
    t.iterate timing cur = { t with
      sources := [(.f, waiting (timing.T1 * 64) (start + (timing.T1 * 64 : Nat)) 0),
        (.e, waiting (interval timing (t.retransmissions.length + 1) t.state)
          (nominalDate timing start ((t.retransmissions ++ [(cur, t.state)]).map Prod.snd)) eventTimeout)]
      retransmissions := t.retransmissions ++ [(cur, t.state)] } := by
  obtain ⟨timeout, revents, rested, small, exact, sources⟩ := trying.timers
  have next : nominalDate timing start ((t.retransmissions ++ [(cur, t.state)]).map Prod.snd) =
      nominalDate timing start (t.retransmissions.map Prod.snd) +
        interval timing (t.retransmissions.length + 1) t.state := by
    rw [List.map_append, List.map_singleton, nominalDate_append, List.length_map]
  have fits : interval timing (t.retransmissions.length + 1) t.state < 2 ^ 31 := by
    have bounded := timing.interval
    unfold interval
    split
    · exact Nat.lt_of_le_of_lt (Nat.min_le_right ..) bounded
    · exact bounded
  rw [next]
  generalize nominalDate timing start (t.retransmissions.map Prod.snd) = date at sources passed
  let expiring : Transaction := { t with
    sources := [(.f, waiting (timing.T1 * 64) (start + (timing.T1 * 64 : Nat)) 0),
      (.e, Loop.expire (waiting timeout date revents))] }
  have called : expiring.callback timing .e (Loop.expire (waiting timeout date revents)) cur =
      ((expiring.modifyTimer .e (·.setTimeout
        (UInt32.ofNat (interval timing (t.retransmissions.length + 1) t.state)) cur)).retransmit cur, .continued) := by
    have bounded := timing.interval
    show expiring.nictOnTimerE timing (Loop.expire (waiting timeout date revents)) cur = _
    unfold Transaction.nictOnTimerE interval
    rw [show expiring.state = t.state from rfl]
    rcases trying.phase with phase | phase
    · rw [phase]
      dsimp only
      have twice : min (2 * timeout) timing.T2 = min (2 ^ (t.retransmissions.length + 1) * timing.T1) timing.T2 := by
        rw [exact phase, Nat.pow_succ, Nat.mul_comm _ 2, Nat.mul_assoc]
        omega
      rw [getTimeout_expired (by omega), doubled, smaller (by omega) (by omega), twice, if_pos rfl]
    · rw [phase]
      rw [if_neg (by decide)]
  have there : expiring.sources.lookup .e = some (Loop.expire (waiting timeout date revents)) := rfl
  rw [Transaction.iterate_eq sources]
  simp only [if_neg running, if_pos passed, List.nil_append, List.foldl_cons, List.foldl_nil]
  refine (Transaction.notify_resends there trying.works called).trans ?_
  have restarted := restart_setTimeout timeout date fits rested cur
  simp only [expiring, Transaction.modifyTimer, List.map_cons, List.map_nil, reduceCtorEq, if_false, if_true, restarted]

/-- A transaction that has sent its request again waits for the following date. -/
theorem again (trying : Trying timing start t) {cur : Int} (running : ¬start + (timing.T1 * 64 : Nat) ≤ cur)
    (passed : nominalDate timing start (t.retransmissions.map Prod.snd) ≤ cur) :
    Trying timing start (t.iterate timing cur) := by
  rw [trying.resend running passed]
  refine ⟨trying.works, trying.phase, ?_, interval timing (t.retransmissions.length + 1) t.state, eventTimeout,
    .inr rfl, ?_, ?_, rfl⟩
  · intro first state among
    rw [List.map_append, List.mem_append] at among
    rcases among with before | last
    · exact trying.tried first state before
    · rw [List.mem_singleton.mp last]
      exact first
  · unfold interval
    split
    · exact Nat.min_le_right ..
    · exact Nat.le_refl _
  · intro first
    have first : t.state = .trying := first
    rw [interval, if_pos first, List.length_append, List.length_singleton]

end Trying

namespace Transaction

variable (timing : Timing) (t : Transaction)

theorem terminate_method : t.terminate.method = t.method := by
  unfold terminate
  split
  · rfl
  · rfl

theorem notifyTimeout_method (now : Int) : (t.notifyTimeout now).method = t.method := by
  unfold notifyTimeout
  split
  · split
    · rfl
    · rfl
  · exact t.terminate_method

theorem retransmit_method (now : Int) : (t.retransmit now).method = t.method := by
  unfold retransmit
  split
  · rfl
  · rfl

theorem callback_method (timer : Timer) (source : Source) (now : Int) :
    (t.callback timing timer source now).1.method = t.method := by
  cases timer with
  | a =>
      dsimp only [callback]
      unfold ictOnTimerA
      split
      · exact retransmit_method _ now
      · rfl
  | b =>
      dsimp only [callback]
      unfold ictOnTimerB
      split
      · exact t.notifyTimeout_method now
      · rfl
  | d =>
      dsimp only [callback, ictOnTimerD]
      split
      · exact t.terminate_method
      · rfl
  | m =>
      dsimp only [callback, ictOnTimerM]
      split
      · exact t.terminate_method
      · rfl
  | e =>
      dsimp only [callback]
      unfold nictOnTimerE
      split
      · exact retransmit_method _ now
      · exact retransmit_method _ now
      · rfl
  | f =>
      dsimp only [callback]
      unfold nictOnTimerF
      split
      · exact t.notifyTimeout_method now
      · exact t.notifyTimeout_method now
      · rfl
  | k => exact t.terminate_method

theorem notify_method (cur : Int) (timer : Timer) : (t.notify timing cur timer).method = t.method := by
  unfold notify
  split
  · rfl
  · next source _ =>
      have same := t.callback_method timing timer source cur
      dsimp only
      split
      · exact same
      · exact same

theorem iterate_method (cur : Int) : (t.iterate timing cur).method = t.method := by
  have kept : ∀ (timers : List Timer) (t : Transaction),
      (timers.foldl (fun t timer => t.notify timing cur timer) t).method = t.method := by
    intro timers
    induction timers with
    | nil => exact fun _ => rfl
    | cons timer rest ih => exact fun t => (ih _).trans (t.notify_method timing cur timer)
  exact kept _ (t.examine cur)

theorem nictSetCompleted_method (now : Int) : (t.nictSetCompleted timing now).method = t.method := by
  unfold nictSetCompleted
  split
  · exact terminate_method _
  · rfl

theorem nictOnResponse_method (code : Nat) (now : Int) : (t.nictOnResponse timing code now).method = t.method := by
  unfold nictOnResponse
  split
  · split
    · rfl
    · exact t.nictSetCompleted_method timing now
  · split
    · exact t.nictSetCompleted_method timing now
    · rfl
  · rfl

end Transaction

/-- What a non-INVITE transaction keeps from the sending of its request on. -/
structure Nict (timing : Timing) (start : Int) (t : Transaction) : Prop where
  method : t.method ≠ "INVITE"
  dated : Dated (nominalDate timing start) (start + (timing.T1 * 64 : Nat)) t.retransmissions
  phase : Trying timing start t ∨ t.Quiet

namespace Nict

variable {timing : Timing} {start : Int} {t : Transaction}

/-- A step that sends nothing and leaves the transaction quiet. -/
theorem rested (nict : Nict timing start t) {after : Transaction} (method : after.method = t.method)
    (rests : t.Rests after) : Nict timing start after :=
  ⟨method ▸ nict.method, rests.2.symm ▸ nict.dated, .inr rests.1⟩

theorem iterated (nict : Nict timing start t) {cur : Int} (orderly : orderly timing t (.iterate cur) = true) :
    Nict timing start (t.iterate timing cur) := by
  have method := t.iterate_method timing cur
  rcases nict.phase with trying | quiet
  · by_cases expired : start + (timing.T1 * 64 : Nat) ≤ cur
    · exact nict.rested method (trying.timeout expired orderly)
    · by_cases passed : nominalDate timing start (t.retransmissions.map Prod.snd) ≤ cur
      · refine ⟨method ▸ nict.method, ?_, .inl (trying.again expired passed)⟩
        rw [trying.resend expired passed]
        exact nict.dated.append passed (by omega) t.state
      · rw [trying.idle expired passed]
        exact nict
  · exact nict.rested method (Transaction.iterate_rests timing quiet cur)

theorem answered (nict : Nict timing start t) (code : Nat) (now : Int) :
    Nict timing start ({ t with lastRecvTime := now }.onResponse timing code now) := by
  let received : Transaction := { t with lastRecvTime := now }
  have nict : Nict timing start received := by
    refine ⟨nict.method, nict.dated, nict.phase.imp ?_ id⟩
    exact fun trying => ⟨trying.works, trying.phase, trying.tried, trying.timers⟩
  have method := received.nictOnResponse_method timing code now
  show Nict timing start (received.onResponse timing code now)
  rw [Transaction.onResponse, if_neg nict.method]
  rcases nict.phase with trying | quiet
  · unfold Transaction.nictOnResponse at method ⊢
    rcases trying.phase with phase | phase
    · rw [phase] at method ⊢
      dsimp only at method ⊢
      by_cases provisional : code < 200
      · rw [if_pos provisional]
        obtain ⟨timeout, revents, rested, small, exact, sources⟩ := trying.timers
        exact ⟨nict.method, nict.dated,
          .inl ⟨trying.works, .inr rfl, nofun, timeout, revents, rested, small, nofun, sources⟩⟩
      · rw [if_neg provisional] at method ⊢
        exact nict.rested method (Transaction.nictSetCompleted_rests timing received now)
    · rw [phase] at method ⊢
      dsimp only at method ⊢
      by_cases final : 200 ≤ code
      · rw [if_pos final] at method ⊢
        exact nict.rested method (Transaction.nictSetCompleted_rests timing received now)
      · rw [if_neg final]
        exact nict
  · exact nict.rested method (Transaction.nictOnResponse_rests quiet code now)

theorem step (nict : Nict timing start t) (event : Event) (orderly : orderly timing t event = true) :
    Nict timing start (Client.step timing t event) := by
  cases event with
  | iterate cur => exact nict.iterated orderly
  | response code now => exact nict.answered code now
  | received now =>
      refine ⟨nict.method, nict.dated, nict.phase.imp ?_ id⟩
      exact fun trying => ⟨trying.works, trying.phase, trying.tried, trying.timers⟩
  | channelEnded => exact nict.rested t.terminate_method t.terminate_rests

/-- An iteration sends the request again exactly when its nominal date has passed before the timeout. -/
theorem punctual (nict : Nict timing start t) {cur : Int} (orderly : orderly timing t (.iterate cur) = true) :
    (t.iterate timing cur).retransmissions =
      if ¬t.Quiet ∧ cur < start + (timing.T1 * 64 : Nat) ∧
          nominalDate timing start (t.retransmissions.map Prod.snd) ≤ cur then
        t.retransmissions ++ [(cur, t.state)]
      else t.retransmissions := by
  rcases nict.phase with trying | quiet
  · by_cases expired : start + (timing.T1 * 64 : Nat) ≤ cur
    · rw [if_neg fun resends => Int.not_lt.mpr expired resends.2.1]
      exact (trying.timeout expired orderly).2
    · by_cases passed : nominalDate timing start (t.retransmissions.map Prod.snd) ≤ cur
      · rw [if_pos ⟨trying.not_quiet, Int.not_le.mp expired, passed⟩, trying.resend expired passed]
      · rw [if_neg fun resends => passed resends.2.2, trying.idle expired passed]
  · rw [if_neg fun resends => resends.1 quiet]
    exact (Transaction.iterate_rests timing quiet cur).2

/-- No other step sends the request again. -/
theorem onResponse_retransmissions (method : t.method ≠ "INVITE") (code : Nat) (now : Int) :
    (t.onResponse timing code now).retransmissions = t.retransmissions := by
  rw [Transaction.onResponse, if_neg method]
  unfold Transaction.nictOnResponse
  split
  · split
    · rfl
    · exact (Transaction.nictSetCompleted_rests timing t now).2
  · split
    · exact (Transaction.nictSetCompleted_rests timing t now).2
    · rfl
  · rfl

theorem sent (timing : Timing) (method : t.method ≠ "INVITE") (sources : t.sources = [])
    (first : t.retransmissions = []) (unreliable : t.reliable = false) (works : t.channelError = false) (now : Int) :
    Nict timing now (t.sendRequest timing now) := by
  have interval := timing.interval
  have ordered := timing.ordered
  have timeout := timing.inviteTimeout
  have request : t.sendRequest timing now = { t with
      state := .trying
      sentAt := now
      sources := [(.f, waiting (timing.T1 * 64) (now + (timing.T1 * 64 : Nat)) 0),
        (.e, waiting timing.T1 (now + timing.T1) 0)] } := by
    rw [Transaction.sendRequest, if_neg method]
    dsimp only [Transaction.nictSendRequest, Transaction.startTimer]
    rw [if_neg (by rw [unreliable]; exact Bool.false_ne_true), sources, start_timeoutSource (by omega),
      start_timeoutSource (by omega)]
    rfl
  rw [request]
  refine ⟨method, ?_, .inl ⟨works, .inl rfl, ?_, timing.T1, 0, .inl rfl, ordered, ?_, ?_⟩⟩
  · exact first ▸ Dated.nil
  · intro _ state among
    rw [first] at among
    cases among
  · intro _
    rw [first, List.length_nil]
    omega
  · dsimp only
    rw [first, List.map_nil, nominalDate, List.zipIdx_nil, List.map_nil, List.sum_nil, Int.add_zero]

end Nict

end BelleSip.Client
