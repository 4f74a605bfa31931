import BelleSip.Foundation.Machine
import BelleSip.Dialog.Dispatch

/-
This file proves when a UAS repeats its 200 Ok as long as it waits for the ACK and no longer.
-/

namespace BelleSip

open Foundation
open Foundation.Checked (OnReturn)

/-- The timers run with the 200 Ok whose ACK is awaited, and no timer runs when none is. -/
def AckWait.Matches (wait : AckWait) : Option Response → Prop
  | some resp => wait = ⟨true, true, true, some resp⟩
  | none => wait.timer200Ok = false ∧ wait.timer200OkEnd = false ∧ wait.last200Ok = none

namespace Session

/-- A UAS answers an INVITE with this 2xx. -/
def acceptance (transaction : DialogTransaction) (resp : Option Response) : Option Response :=
  if transaction.isClient = false ∧ transaction.request.method = "INVITE" then
    resp.filter fun answer => 200 ≤ answer.statusCode && answer.statusCode < 300
  else none

/-- The 2xx that an event of the dialog answers an INVITE with. -/
def accepts (session : Session) : Event → Option Response
  | .responded id state resp => session.transactions[id]?.bind fun transaction =>
      if excludes transaction state then none else acceptance transaction (some resp)
  | .responseRefused id => session.transactions[id]?.bind fun transaction =>
      acceptance transaction transaction.lastResponse
  | _ => none

/-- The ACK has the CSeq number of the INVITE that this response answers. -/
def acknowledges (ack : Request) (resp : Response) : Bool :=
  ack.cseq.any fun acked => resp.cseq.any fun cseq => acked.seqNumber = cseq.seqNumber

/-- A confirmed dialog awaits no ACK when a UAS refuses an INVITE, or when a BYE has ended. -/
def ceases (dialog : Dialog) (transaction : DialogTransaction) (resp : Option Response) (terminated : Bool) : Bool :=
  dialog.state = .confirmed &&
    (!transaction.isClient && transaction.request.method = "INVITE" && resp.any (300 ≤ ·.statusCode) ||
      transaction.request.method = "BYE" && resp.elim terminated (200 ≤ ·.statusCode))

/-- The event ends the wait for the ACK of this 2xx: the ACK comes, the INVITE is refused, the call is hung up, or the
dialog is deleted. -/
def concludes (session : Session) (awaited : Option Response) : Event → Bool
  | .ackReceived ack => awaited.any (acknowledges ack)
  | .responded id state resp => session.transactions[id]?.any fun transaction =>
      !excludes transaction state && session.updates transaction resp &&
        ceases session.dialog transaction (some resp) (state = .terminated)
  | .responseRefused id => session.transactions[id]?.any fun transaction =>
      !transaction.isClient &&
        ceases session.dialog transaction transaction.lastResponse (transaction.state = .terminated)
  | .terminated id => session.transactions[id]?.any fun transaction =>
      transaction.state ≠ .terminated && transaction.inDialog && transaction.unanswered &&
        ceases session.dialog transaction transaction.lastResponse true
  | .deleted => true
  | _ => false

/-- The 2xx whose ACK is awaited afterwards: the new one or the one before, until the wait is concluded or the dialog
is deleted. -/
def awaits (after : Session) (concluded : Bool) (accepted awaited : Option Response) : Option Response :=
  if after.dialog.state = .terminated ∨ concluded = true then none else accepted.or awaited

/-- A 2xx to an INVITE starts no timer: the timers start when the side that the dialog was created on
confirms it, and a 2xx of the peer starts them as well. -/
def missesStart (dialog : Dialog) (transaction : DialogTransaction) (resp : Response) : Bool :=
  transaction.request.method = "INVITE" && 200 ≤ resp.statusCode && resp.statusCode < 300 &&
    match dialog.state with
    | .null | .early => transaction.isClient = dialog.isServer
    | .confirmed => !transaction.isClient && dialog.ackWait ≠ ⟨true, true, true, some resp⟩
    | .terminated => false

/-- The refusal of a re-INVITE and the end of a BYE that keeps the dialog stop no timer. -/
def missesStop (dialog : Dialog) (transaction : DialogTransaction) (resp : Option Response)
    (terminated : Bool) : Bool :=
  dialog.state = .confirmed && dialog.timer200OkEnd &&
    (transaction.request.method = "INVITE" && resp.any (300 ≤ ·.statusCode) ||
      transaction.request.method = "BYE" && !dialog.terminateOnBye &&
        resp.elim terminated (200 ≤ ·.statusCode))

/-- An update of the dialog starts or stops its timers with the wait for an ACK. -/
def keepsTime (session : Session) (transaction : DialogTransaction) (resp : Option Response)
    (terminated : Bool) : Bool :=
  !(resp.any (missesStart session.dialog transaction) || missesStop session.dialog transaction resp terminated)

/-- The event starts and stops the timers with the wait for an ACK. -/
def timely (session : Session) : Event → Bool
  | .sendRequest id .noChannel => session.transactions[id]?.all fun transaction =>
      session.keepsTime transaction none true
  | .processQueue .noChannel => session.dequeued.all fun id =>
      session.transactions[id]?.all fun transaction => session.keepsTime transaction none true
  | .responded id state resp => session.transactions[id]?.all fun transaction =>
      excludes transaction state || !session.updates transaction resp ||
        session.keepsTime transaction (some resp) (state = .terminated)
  | .rejoined id state resp => session.transactions[id]?.all fun transaction =>
      excludes transaction state || session.keepsTime transaction (some resp) (state = .terminated)
  | .responseRefused id => session.transactions[id]?.all fun transaction =>
      transaction.isClient || session.keepsTime transaction transaction.lastResponse (transaction.state = .terminated)
  | .terminated id => session.transactions[id]?.all fun transaction =>
      transaction.state = .terminated || !(transaction.inDialog && transaction.unanswered) ||
        session.keepsTime transaction transaction.lastResponse true
  | .ackSent _ => !(session.dialog.needsAck && session.dialog.timer200OkEnd)
  -- an ACK is known by the last CSeq number of the peer
  | .ackReceived _ => !session.dialog.timer200OkEnd || session.dialog.last200Ok.all fun resp =>
      resp.cseq.any (·.seqNumber = session.dialog.remoteCseq)
  | .ackChecked .noChannel => !(session.dialog.needsAck && session.dialog.state = .confirmed &&
      session.dialog.timer200OkEnd && !session.dialog.terminateOnBye)
  | .timer200OkEnd _ => !session.dialog.timer200OkEnd
  | _ => true

/-- A session with the 2xx whose ACK its dialog awaits as UAS. -/
structure Watch where
  session : Session
  awaited : Option Response := none

/-- The timers of the dialog run with the awaited ACK. -/
def Watch.Timed (watch : Watch) : Prop := watch.session.dialog.ackWait.Matches watch.awaited

def Watch.step (watch : Watch) (event : Event) : Watch :=
  if watch.session.halted then watch
  else match watch.session.handle event with
    | .ok session =>
        { session := session
          awaited := session.awaits (watch.session.concludes watch.awaited event) (watch.session.accepts event)
            watch.awaited }
    | .error _ => { watch with session := { watch.session with halted := true } }

/-- The watch follows the session. -/
theorem Watch.step_session (watch : Watch) (event : Event) :
    (watch.step event).session = watch.session.step event := by
  unfold Watch.step Session.step
  split
  · rfl
  · cases watch.session.handle event <;> rfl

variable {awaited : Option Response} {transaction : DialogTransaction} {session : Session} {id : TransactionId}
  {outlet : Outlet}

/-- Nothing is accepted, and the wait for the ACK stays. -/
theorem awaits_same {before after : Session} (matched : before.dialog.ackWait.Matches awaited)
    (same : after.dialog.ackWait = before.dialog.ackWait) (stopped : after.Stopped) :
    after.dialog.ackWait.Matches (after.awaits false none awaited) := by
  rw [← same] at matched
  unfold awaits
  split
  · next finished =>
      cases awaited with
      | none => exact matched
      | some resp =>
          have armed : after.dialog.timer200OkEnd = true := congrArg AckWait.timer200OkEnd matched
          rcases finished with terminated | never
          · rw [stopped terminated] at armed
            cases armed
          · cases never
  · exact matched

/-- The wait for an ACK begins for a request of the UAC, and the awaited ACK of the UAS stays. -/
theorem awaits_needed {before after : Session} (matched : before.dialog.ackWait.Matches awaited)
    (marked : after.dialog.ackWait = { before.dialog.ackWait with needsAck := true }) 
    (alive : after.dialog.state ≠ .terminated) : after.dialog.ackWait.Matches (after.awaits false none awaited) := by
  unfold awaits
  rw [if_neg (by simp [alive])]
  rw [marked]
  cases awaited with
  | none => exact matched
  | some resp =>
      rw [show before.dialog.ackWait = ⟨true, true, true, some resp⟩ from matched]
      rfl

theorem concluded_never (goal : Prop) : false = true → goal := nofun

/-- A dialog without timers awaits nothing. -/
theorem awaited_none {wait : AckWait} (matched : wait.Matches awaited) (unarmed : wait.timer200OkEnd = false) :
    awaited = none := by
  cases awaited with
  | none => rfl
  | some resp =>
      rw [show wait = ⟨true, true, true, some resp⟩ from matched] at unarmed
      cases unarmed

/-- The wait for an ACK ends for a dialog without timers. -/
theorem awaits_cleared {before after : Session} (concluded : Bool) (matched : before.dialog.ackWait.Matches awaited)
    (marked : after.dialog.ackWait = { before.dialog.ackWait with needsAck := false }) 
    (unarmed : before.dialog.timer200OkEnd = false) :
    after.dialog.ackWait.Matches (after.awaits concluded none awaited) := by
  have nothing := awaited_none matched unarmed
  subst nothing
  have still : after.awaits concluded none none = none := ite_self none
  rw [still, marked]
  exact matched

/-- A deleted dialog awaits nothing. -/
theorem awaits_terminated {after : Session} (terminated : after.dialog.state = .terminated)
    (concluded : Bool) (accepted awaited : Option Response) : after.awaits concluded accepted awaited = none :=
  if_pos (.inl terminated)

/-- The 2xx of a UAS is awaited as long as the dialog needs its ACK. -/
theorem awaits_accepted {after : Session} {answer : Response} (alive : after.dialog.state ≠ .terminated)
    (armed : after.dialog.ackWait = ⟨true, true, true, some answer⟩) (awaited : Option Response) :
    after.dialog.ackWait.Matches (after.awaits false (some answer) awaited) := by
  unfold awaits
  rw [if_neg (by simp [alive])]
  exact armed

/-- The dialog after an update that does not delete it. -/
def settled (session : Session) (middle : Dialog) (verdict : Dialog.Verdict) : Session :=
  { session with dialog := (middle.settle verdict).1 }

theorem settled_same (session : Session) (middle : Dialog) {verdict : Dialog.Verdict}
    (kept : verdict ≠ .delete) :
    (session.settled middle verdict).dialog.ackWait = middle.ackWait ∧
      (session.settled middle verdict).dialog.state = middle.state := by
  cases verdict with
  | keep => exact ⟨rfl, rfl⟩
  | retransmission => exact ⟨rfl, rfl⟩
  | delete => exact absurd rfl kept

/-- A response is an acceptance only when a UAS answers an INVITE with a 2xx. -/
theorem acceptance_cases (transaction : DialogTransaction) (resp : Option Response) :
    acceptance transaction resp = none ∨ ∃ answer, resp = some answer ∧
      acceptance transaction resp = some answer ∧ transaction.isClient = false ∧
        transaction.request.method = "INVITE" ∧ 200 ≤ answer.statusCode ∧ answer.statusCode < 300 := by
  unfold acceptance
  split
  · next server =>
      cases resp with
      | none => exact .inl rfl
      | some answer =>
          by_cases success : 200 ≤ answer.statusCode ∧ answer.statusCode < 300
          · right
            exact ⟨answer, rfl, by simp [Option.filter, success], server.1, server.2, success⟩
          · left
            simpa [Option.filter] using success
  · exact .inl rfl

theorem acceptance_client (client : transaction.isClient = true) (resp : Option Response) :
    acceptance transaction resp = none := by
  simp [acceptance, client]

/-- The 2xx with which a UAS answers an INVITE is one. -/
theorem acceptance_server {resp : Option Response} {answer : Response} (server : transaction.isClient = false)
    (invite : transaction.request.method = "INVITE") (answered : resp = some answer)
    (success : 200 ≤ answer.statusCode ∧ answer.statusCode < 300) : acceptance transaction resp = some answer := by
  simp [acceptance, server, invite, answered, Option.filter, success]

theorem ceases_false {dialog : Dialog} {resp : Option Response} {terminated : Bool}
    (running : dialog.state = .confirmed → Dialog.concludes transaction.request resp terminated = false) :
    ceases dialog transaction resp terminated = false := by
  by_cases confirmed : dialog.state = .confirmed
  · have runs := running confirmed
    simp only [Dialog.concludes, Bool.or_eq_false_iff] at runs
    simp [ceases, Bool.and_assoc, runs.1, runs.2]
  · simp [ceases, confirmed]

/-- A 2xx to an INVITE concludes nothing. -/
theorem ceases_success {dialog : Dialog} {resp : Option Response} {terminated : Bool} {answer : Response}
    (invite : transaction.request.method = "INVITE") (answered : resp = some answer) (success : answer.statusCode < 300)
    :
    ceases dialog transaction resp terminated = false := by
  simp [ceases, invite, answered, success]

/-- An update whose outcome keeps the dialog starts and stops the timers in time. -/
theorem settled_timed (matched : session.dialog.ackWait.Matches awaited) (stopped : session.Stopped) {middle : Dialog}
    {verdict : Dialog.Verdict} (kept : verdict ≠ .delete)
    (updated : Dialog.Updated session.dialog id transaction.request transaction.lastResponse
      (transaction.state = .terminated) (!transaction.isClient) middle verdict)
    (timely : session.keepsTime transaction transaction.lastResponse (transaction.state = .terminated) = true)
    {concluded : Bool} (only : concluded = true →
      ceases session.dialog transaction transaction.lastResponse (transaction.state = .terminated) = true) :
    (session.settled middle verdict).dialog.ackWait.Matches
      ((session.settled middle verdict).awaits concluded (acceptance transaction transaction.lastResponse)
        awaited) := by
  obtain ⟨waits, state⟩ := settled_same session middle kept
  have ends := updated.state
  have outcome := updated.outcome
  rw [← waits] at outcome
  rw [← state] at ends
  have still : (session.settled middle verdict).dialog.ackWait = session.dialog.ackWait →
      (session.settled middle verdict).Stopped := by
    intro same terminated
    exact (congrArg AckWait.timer200OkEnd same).trans (stopped (ends.mp terminated))
  generalize session.settled middle verdict = after at waits state ends outcome still ⊢
  have alive_of (living : session.dialog.state ≠ .terminated) : after.dialog.state ≠ .terminated :=
    fun terminated => living (ends.mp terminated)
  simp only [keepsTime, Bool.not_eq_true', Bool.or_eq_false_iff] at timely
  obtain ⟨starts, stops⟩ := timely
  have open_of : ceases session.dialog transaction transaction.lastResponse (transaction.state = .terminated) = false →
      concluded = false := by
    intro runs
    cases concluded with
    | false => rfl
    | true => exact (only rfl).symm.trans runs
  generalize wait : after.dialog.ackWait = result at outcome
  cases outcome with
  | kept unaccepted running =>
      rw [open_of (ceases_false running)]
      rcases acceptance_cases transaction transaction.lastResponse with
        none | ⟨answer, answered, accepted, server, invite, success⟩
      · rw [none, ← wait]
        exact awaits_same matched wait (still wait)
      · rw [accepted]
        cases phase : session.dialog.state with
        | null => exact absurd success (unaccepted (.inl phase) invite answer answered)
        | early => exact absurd success (unaccepted (.inr phase) invite answer answered)
        | confirmed =>
            have armed : session.dialog.ackWait = ⟨true, true, true, some answer⟩ := by
              simpa [missesStart, answered, invite, success, phase, server] using starts
            rw [← wait]
            exact awaits_accepted (alive_of (by simp [phase])) (wait.trans armed) awaited
        | terminated =>
            have same := awaits_same matched wait (still wait)
            rw [awaits_terminated (ends.mpr phase), wait] at same
            rw [awaits_terminated (ends.mpr phase)]
            exact same
  | rejected => exact absurd rfl kept
  | accepted answer invite answered success unconfirmed =>
      have runs := open_of (ceases_success invite answered success.2)
      subst runs
      have alive := alive_of (by rcases unconfirmed with phase | phase <;> simp [phase])
      have side : transaction.isClient ≠ session.dialog.isServer := by
        rcases unconfirmed with phase | phase <;>
          simpa [missesStart, answered, invite, success, phase] using starts
      cases server : session.dialog.isServer with
      | true =>
          rw [server] at side wait
          have uas : transaction.isClient = false := by simpa using side
          rw [acceptance_server uas invite answered success]
          simp only [if_true] at wait ⊢
          rw [← wait]
          exact awaits_accepted alive wait awaited
      | false =>
          rw [server] at side wait
          have uac : transaction.isClient = true := by simpa using side
          rw [acceptance_client uac]
          simp only [Bool.false_eq_true, if_false] at wait ⊢
          rw [← wait]
          exact awaits_needed matched wait alive
  | reaccepted answer invite answered success confirmed =>
      have runs := open_of (ceases_success invite answered success.2)
      subst runs
      have alive := alive_of (by simp [confirmed])
      rw [← wait]
      cases side : transaction.isClient with
      | true =>
          rw [acceptance_client side]
          exact awaits_needed matched wait alive
      | false =>
          have armed : session.dialog.ackWait = ⟨true, true, true, some answer⟩ := by
            simpa [missesStart, answered, invite, success, confirmed, side] using starts
          rw [armed] at wait
          rw [acceptance_server side invite answered success]
          exact awaits_accepted alive wait awaited
  | repeated answer invite answered success confirmed asUac again =>
      have uac : transaction.isClient = true := by simpa using asUac
      have runs := open_of (ceases_success invite answered success.2)
      subst runs
      rw [acceptance_client uac, ← wait]
      exact awaits_same matched wait (still wait)
  | refused answer invite answered failure confirmed =>
      have unarmed : session.dialog.timer200OkEnd = false := by
        simpa [missesStop, answered, invite, failure, confirmed] using stops
      have nothing : acceptance transaction transaction.lastResponse = none := by
        simp [acceptance, answered, Option.filter, show ¬answer.statusCode < 300 by omega]
      rw [← wait, nothing]
      exact awaits_cleared concluded matched wait unarmed
  | hungUp bye ended final confirmed =>
      have keeps : session.dialog.terminateOnBye = false := by
        cases onBye : session.dialog.terminateOnBye with
        | false => rfl
        | true =>
            rw [onBye] at kept
            exact absurd rfl kept
      have finished : transaction.lastResponse.elim (decide (transaction.state = .terminated))
          (200 ≤ ·.statusCode) = true := by
        cases answered : transaction.lastResponse with
        | none => exact ended answered
        | some answer => exact decide_eq_true (final answer answered)
      have unarmed : session.dialog.timer200OkEnd = false := by
        simpa [missesStop, bye, keeps, finished, confirmed] using stops
      have nothing : acceptance transaction transaction.lastResponse = none := by simp [acceptance, bye]
      rw [← wait, nothing]
      exact awaits_cleared concluded matched wait unarmed

/-- An update of the dialog starts and stops the timers in time. -/
theorem updateDialog_timed (session : Session) (present : session.transactions[id]? = some transaction)
    (matched : session.dialog.ackWait.Matches awaited) (stopped : session.Stopped)
    (timely : session.keepsTime transaction transaction.lastResponse (transaction.state = .terminated) = true)
    {concluded : Bool} (only : concluded = true →
      ceases session.dialog transaction transaction.lastResponse (transaction.state = .terminated) = true) :
    OnReturn (session.updateDialog id (!transaction.isClient)) fun (after, _) =>
      after.dialog.ackWait.Matches
        (after.awaits concluded (acceptance transaction transaction.lastResponse) awaited) := by
  apply (updateDialog_spec present (!transaction.isClient)).mono
  intro (after, _) ⟨middle, verdict, updated, same, deleted⟩
  dsimp only
  by_cases kept : verdict = .delete
  · have aborted := deleted kept
    rw [awaits_terminated aborted.terminated, aborted.ackWait]
    exact ⟨rfl, rfl, rfl⟩
  · rw [same kept]
    exact settled_timed matched stopped kept updated timely only

/-- A transaction without a final response has accepted nothing. -/
theorem acceptance_unanswered (unanswered : transaction.unanswered = true) :
    acceptance transaction transaction.lastResponse = none := by
  rcases acceptance_cases transaction transaction.lastResponse with
    none | ⟨answer, answered, _, _, _, success, _⟩
  · exact none
  · simp only [DialogTransaction.unanswered, answered, Option.all_some, decide_eq_true_eq] at unanswered
    omega

/-- The end of a transaction starts no timer, and it stops none while an ACK is awaited. -/
theorem terminate_timed (present : session.transactions[id]? = some transaction)
    (matched : session.dialog.ackWait.Matches awaited) (stopped : session.Stopped)
    (timely : transaction.state ≠ .terminated → transaction.inDialog = true → transaction.unanswered = true →
      session.keepsTime transaction transaction.lastResponse true = true) {concluded : Bool}
    (only : concluded = true → transaction.state ≠ .terminated ∧ transaction.inDialog = true ∧
      transaction.unanswered = true ∧ ceases session.dialog transaction transaction.lastResponse true = true) :
    OnReturn (session.terminate id) fun after =>
      after.dialog.ackWait.Matches (after.awaits concluded none awaited) := by
  apply (terminate_ending present).mono
  intro after ending
  cases ending with
  | ended terminated =>
      have runs : concluded = false := by
        apply Bool.eq_false_iff.mpr
        exact fun ends => (only ends).1 terminated
      subst runs
      exact awaits_same matched rfl stopped
  | silent alive other =>
      have runs : concluded = false := by
        apply Bool.eq_false_iff.mpr
        intro ends
        obtain ⟨_, inside, unanswered, _⟩ := only ends
        rw [inside, unanswered] at other
        cases other
      subst runs
      exact awaits_same matched rfl stopped
  | updated after retransmission alive inside unanswered ended =>
      have timed := updateDialog_timed (session.finish id) (finish_present present) matched stopped
        (timely alive inside unanswered) fun ends => (only ends).2.2.2
      have nothing : acceptance { transaction with state := .terminated } transaction.lastResponse = none :=
        @acceptance_unanswered transaction unanswered
      have kept := timed.elim ended
      dsimp only at kept
      rw [nothing] at kept
      exact kept

/-- The failure of a request looks the same before and after it has updated the dialog. -/
theorem keepsTime_readied {before middle : Session} (readied : Readied before id transaction middle) {request : Request}
    (origin : Origin) (method : request.method = transaction.request.method)
    (timely : before.keepsTime transaction none true = true) :
    middle.keepsTime { transaction with request := request, origin := origin } none true = true := by
  have call := readied.claimed.call
  have timer : middle.dialog.timer200OkEnd = before.dialog.timer200OkEnd :=
    congrArg AckWait.timer200OkEnd call.ackWait
  simp only [keepsTime, missesStop, method, call.state, call.terminateOnBye, timer] at timely ⊢
  exact timely

/-- A request that leaves the session keeps the wait for an ACK. -/
theorem Attempt.timed {session after : Session} (present : session.transactions[id]? = some transaction)
    (formed : Formed session) (matched : session.dialog.ackWait.Matches awaited)
    (timely : outlet = .noChannel → session.keepsTime transaction none true = true)
    (attempt : Attempt session id transaction outlet after) :
    after.dialog.ackWait.Matches (after.awaits false none awaited) := by
  cases attempt with
  | skipped unfit => exact awaits_same matched rfl formed.stopped
  | queued initial fit waits => exact awaits_same matched rfl formed.stopped
  | delivered middle after initial fit direct readied delivered =>
      obtain ⟨request, origin, placed, method, queued⟩ := readied.placed
      have stopped := ((readied.quiet present).formed formed).stopped
      have waits : middle.dialog.ackWait = session.dialog.ackWait := readied.claimed.call.ackWait
      unfold Delivered at delivered
      cases outlet with
      | ready =>
          have same : after.dialog = middle.dialog := by
            rw [delivered]
            exact (emit_eq placed).1
          apply awaits_same matched
          · rw [same, waits]
          · intro terminated
            rw [same] at terminated ⊢
            exact stopped terminated
      | connecting =>
          rw [delivered]
          exact awaits_same matched waits stopped
      | noChannel =>
          rw [← waits] at matched
          have silent : transaction.lastResponse = none :=
            ((formed.formable id transaction present).unsent initial).2
          refine (terminate_timed placed matched stopped ?_ (concluded_never _)).elim delivered
          intro _ _ _
          rw [silent]
          exact keepsTime_readied readied origin method (timely rfl)
      | badUris => exact absurd rfl fit

theorem sendRequest_timed (formed : Formed session) (matched : session.dialog.ackWait.Matches awaited)
    (timely : outlet = .noChannel → ∀ transaction, session.transactions[id]? = some transaction →
      session.keepsTime transaction none true = true) :
    OnReturn (session.sendRequest id outlet) fun after =>
      after.dialog.ackWait.Matches (after.awaits false none awaited) := by
  cases present : session.transactions[id]? with
  | none =>
      unfold sendRequest
      rw [present]
      exact Checked.onReturn_pure.mpr (awaits_same matched rfl formed.stopped)
  | some transaction =>
      have silent : transaction.state = .init → transaction.lastResponse = none :=
        fun initial => ((formed.formable id transaction present).unsent initial).2
      apply (sendRequest_attempt present silent outlet).mono
      intro after attempt
      exact attempt.timed present formed matched fun given => timely given transaction present

/-- A response to a transaction starts and stops the timers in time. -/
theorem respond_timed (formed : Formed session) (matched : session.dialog.ackWait.Matches awaited)
    {state : TransactionState} {resp : Response} (timely : session.timely (.responded id state resp) = true) :
    OnReturn (session.respond id state resp) fun after =>
      after.dialog.ackWait.Matches (after.awaits (session.concludes awaited (.responded id state resp))
        (session.accepts (.responded id state resp)) awaited) := by
  unfold Session.timely at timely
  simp only [accepts, concludes]
  cases present : session.transactions[id]? with
  | none =>
      unfold respond
      rw [present]
      simp only [Option.bind_none]
      exact Checked.onReturn_pure.mpr (awaits_same matched rfl formed.stopped)
  | some transaction =>
      simp only [present, Option.all_some, Option.bind_some, Option.any_some] at timely ⊢
      apply (respond_answering present state resp).mono
      intro after answering
      cases answering with
      | ignored barred =>
          simp only [barred, Bool.not_true, Bool.false_and, if_true]
          exact awaits_same matched rfl formed.stopped
      | passed admitted other =>
          have client : transaction.isClient = true := by
            cases side : transaction.isClient with
            | true => rfl
            | false =>
                have inside := (formed.formable id transaction present).received side
                simp [updates, inside, side] at other
          rw [acceptance_client client, ite_self, other, Bool.and_false, Bool.false_and]
          exact awaits_same matched rfl formed.stopped
      | updated after retransmission admitted updates ended =>
          simp only [admitted, updates, Bool.not_true, Bool.false_or] at timely
          simp only [admitted, updates, Bool.not_false, Bool.and_self, Bool.true_and, Bool.false_eq_true, if_false]
          have timed := updateDialog_timed (session.answer id state resp)
            (answer_present present state resp) matched formed.stopped timely fun ends => ends
          exact timed.elim ended

/-- A response that comes back from another dialog starts no timer of the UAS. -/
theorem rejoin_timed (formed : Formed session) (matched : session.dialog.ackWait.Matches awaited)
    {state : TransactionState} {resp : Response} (timely : session.timely (.rejoined id state resp) = true) :
    OnReturn (session.rejoin id state resp) fun after =>
      after.dialog.ackWait.Matches (after.awaits false none awaited) := by
  unfold Session.timely at timely
  cases present : session.transactions[id]? with
  | none =>
      unfold rejoin
      rw [present]
      exact Checked.onReturn_pure.mpr (awaits_same matched rfl formed.stopped)
  | some transaction =>
      simp only [present, Option.all_some] at timely
      apply (rejoin_answering present state resp).mono
      intro after outcome
      rcases outcome with rfl | ⟨admitted, client, invite, retransmission, ended⟩
      · exact awaits_same matched rfl formed.stopped
      · simp only [admitted, Bool.false_or] at timely
        have timed := updateDialog_timed (session.answer id state resp)
          (answer_present present state resp) matched formed.stopped timely (concluded_never _)
        have asUac : (!transaction.isClient) = false := by simp [client]
        rw [asUac] at timed
        have nothing : acceptance { transaction with state := state, lastResponse := some resp } (some resp) =
            none := acceptance_client client (some resp)
        have kept := timed.elim ended
        dsimp only at kept
        rw [nothing] at kept
        exact kept

/-- A refused response accepts the INVITE with the last response again. -/
theorem responseRefused_timed (formed : Formed session) (matched : session.dialog.ackWait.Matches awaited)
    (timely : session.timely (.responseRefused id) = true) :
    OnReturn (session.handle (.responseRefused id)) fun after =>
      after.dialog.ackWait.Matches (after.awaits (session.concludes awaited (.responseRefused id))
        (session.accepts (.responseRefused id)) awaited) := by
  unfold Session.timely at timely
  simp only [accepts, concludes]
  dsimp only [handle]
  cases present : session.transactions[id]? with
  | none =>
      simp only [Option.bind_none]
      exact Checked.onReturn_pure.mpr (awaits_same matched rfl formed.stopped)
  | some transaction =>
      simp only [present, Option.all_some, Option.bind_some, Option.any_some] at timely ⊢
      split
      · next client =>
          rw [acceptance_client client, client, Bool.not_true, Bool.false_and]
          exact Checked.onReturn_pure.mpr (awaits_same matched rfl formed.stopped)
      · next served =>
          have side := Bool.eq_false_iff.mpr served
          simp only [side, Bool.false_or] at timely
          have timed := updateDialog_timed session present matched formed.stopped timely fun ends => ends
          rw [side, Bool.not_false] at timed
          rw [side, Bool.not_false, Bool.true_and]
          apply Checked.onReturn_bind.mpr
          exact timed

theorem processQueue_timed (formed : Formed session) (matched : session.dialog.ackWait.Matches awaited)
    (timely : session.timely (.processQueue outlet) = true) :
    OnReturn (session.processQueue outlet) fun after =>
      after.dialog.ackWait.Matches (after.awaits false none awaited) := by
  rw [processQueue_eq]
  split
  · exact Checked.onReturn_pure.mpr (awaits_same matched rfl formed.stopped)
  · split
    · exact Checked.onReturn_pure.mpr (awaits_same matched rfl formed.stopped)
    · next id taken =>
        apply sendRequest_timed ((session.pop_moves id).formed formed) matched
        intro given transaction placed
        subst given
        simp only [Session.timely, taken, Option.all_some] at timely
        cases present : session.transactions[id]? with
        | none => simp [pop, modify, present] at placed
        | some popped =>
            simp only [present, Option.all_some] at timely
            simp only [pop, modify, List.getElem?_modify_eq, present] at placed
            rw [← Option.some.inj placed]
            exact timely

/-- The BYE of the dialog starts no timer, and it stops none while an ACK is awaited. -/
theorem sendBye_timed (formed : Formed session) {dialog : Dialog} {bye : Request}
    (same : Dialog.Untouched session.dialog dialog) (kind : bye.method = "BYE" ∧ bye.dialogQueued = false)
    (matched : session.dialog.ackWait.Matches awaited)
    (timely : outlet = .noChannel → (session.dialog.state = .confirmed && session.dialog.timer200OkEnd &&
      !session.dialog.terminateOnBye) = false) :
    OnReturn (session.sendBye dialog bye outlet) fun after =>
      after.dialog.ackWait.Matches (after.awaits false none awaited) := by
  have moved : Quiet session { session with dialog := dialog } := .ofSchedule same.schedule same.call.ackWait
  have timer : dialog.timer200OkEnd = session.dialog.timer200OkEnd :=
    congrArg AckWait.timer200OkEnd same.call.ackWait
  rw [← same.call.ackWait] at matched
  apply sendRequest_timed ((addDrawn_quiet moved kind.2).formed formed) matched
  intro given transaction placed
  simp only [addDrawn, add, List.getElem?_concat_length, Option.some.injEq] at placed
  rw [← placed]
  have unarmed := timely given
  simp only [keepsTime, missesStop, addDrawn, add, same.call.state, timer, same.call.terminateOnBye, kind.1]
  simp only [Bool.and_eq_false_iff, decide_eq_false_iff_not, Bool.not_eq_false'] at unarmed
  rcases unarmed with (unconfirmed | unarmed) | onBye
  · simp [unconfirmed]
  · simp [unarmed]
  · simp [onBye]

theorem checkAckSent_timed (formed : Formed session) (matched : session.dialog.ackWait.Matches awaited)
    (timely : session.timely (.ackChecked outlet) = true) :
    OnReturn (session.checkAckSent outlet) fun after =>
      after.dialog.ackWait.Matches (after.awaits false none awaited) := by
  unfold checkAckSent Dialog.checkAckSent
  split
  · next needed =>
      simp only [Checked.onReturn_bind]
      apply (session.dialog.createRequest_kind _ "BYE").mono
      rintro ⟨dialog, req⟩ ⟨same, kind⟩
      apply Checked.onReturn_deref.mpr
      intro bye made
      apply sendBye_timed formed same (kind bye made) matched
      intro given
      subst given
      simp only [Session.timely, needed, Bool.true_and, Bool.not_eq_true'] at timely
      exact timely
  · exact Checked.onReturn_pure.mpr (awaits_same matched rfl formed.stopped)

/-- While the ACK is known by the number of its INVITE, the ACK of the 2xx stops the timers and no other does. -/
theorem handleAck_timed (formed : Formed session) (matched : session.dialog.ackWait.Matches awaited) (ack : Request)
    (timely : session.timely (.ackReceived ack) = true) :
    OnReturn (session.dialog.handleAck ack) fun (dialog, _) => dialog.ackWait.Matches
      ({ session with dialog := dialog }.awaits (awaited.any (acknowledges ack)) none awaited) := by
  have same : session.dialog.ackWait.Matches (session.awaits false none awaited) :=
    awaits_same matched rfl formed.stopped
  cases awaited with
  | none =>
      have clear : ∀ dialog : Dialog, { session with dialog := dialog }.awaits false none none = none :=
        fun _ => ite_self none
      unfold Dialog.handleAck
      split
      · apply Checked.onReturn_bind.mpr
        apply Checked.onReturn_deref.mpr
        intro cseq _
        split
        · apply Checked.onReturn_pure.mpr
          change Dialog.ackWait _ |>.Matches (Session.awaits _ false none none)
          rw [clear]
          exact ⟨rfl, rfl, rfl⟩
        · exact Checked.onReturn_pure.mpr same
      · exact Checked.onReturn_pure.mpr same
  | some resp =>
      have wait : session.dialog.ackWait = ⟨true, true, true, some resp⟩ := matched
      have needed : session.dialog.needsAck = true := congrArg AckWait.needsAck wait
      have numbered : ∃ cseq, resp.cseq = some cseq ∧ cseq.seqNumber = session.dialog.remoteCseq := by
        simpa [Session.timely, show session.dialog.timer200OkEnd = true from congrArg AckWait.timer200OkEnd wait,
          show session.dialog.last200Ok = some resp from congrArg AckWait.last200Ok wait,
          Option.any_eq_true] using timely
      obtain ⟨answered, given, number⟩ := numbered
      unfold Dialog.handleAck
      rw [needed, if_pos rfl]
      apply Checked.onReturn_bind.mpr
      apply Checked.onReturn_deref.mpr
      intro cseq carried
      have known : acknowledges ack resp = decide (cseq.seqNumber = session.dialog.remoteCseq) := by
        simp [acknowledges, carried, given, number]
      simp only [Option.any_some, known]
      split
      · next acked =>
          -- the ACK stops the timers
          apply Checked.onReturn_pure.mpr
          dsimp only
          unfold awaits
          rw [if_pos (.inr (decide_eq_true acked))]
          exact ⟨rfl, rfl, rfl⟩
      · next other =>
          apply Checked.onReturn_pure.mpr
          rw [decide_eq_false other]
          exact same

theorem sendAck_timed (formed : Formed session) (matched : session.dialog.ackWait.Matches awaited) {ack : Request}
    (timely : session.timely (.ackSent ack) = true) :
    (session.dialog.sendAck ack).ackWait.Matches
      ({ session with dialog := session.dialog.sendAck ack }.awaits false none awaited) := by
  unfold Dialog.sendAck
  split
  · next needed =>
      have unarmed : session.dialog.timer200OkEnd = false := by
        simpa [Session.timely, needed] using timely
      exact awaits_cleared false matched rfl unarmed
  · exact (awaits_same matched rfl formed.stopped : session.dialog.ackWait.Matches (session.awaits false none awaited))

/-- A timely event keeps the timers in step with the awaited ACK. -/
theorem handle_timed (formed : Formed session) (matched : session.dialog.ackWait.Matches awaited) {event : Event}
    (timely : session.timely event = true) :
    OnReturn (session.handle event) fun after =>
      after.dialog.ackWait.Matches
        (after.awaits (session.concludes awaited event) (session.accepts event) awaited) := by
  have still : ∀ {result : Checked Session}, OnReturn result (Quiet session) →
      OnReturn result (fun after => after.dialog.ackWait = session.dialog.ackWait) →
        OnReturn result fun after => after.dialog.ackWait.Matches (after.awaits false none awaited) := by
    intro result quiet same
    cases result with
    | ok after => exact awaits_same matched same (quiet.stopped formed.stopped)
    | error fault => trivial
  have idle : session.dialog.ackWait.Matches (session.awaits false none awaited) :=
    awaits_same matched rfl formed.stopped
  have added : ∀ {result : Checked Session}, OnReturn result (Adds session) →
      OnReturn result fun after => after.dialog.ackWait.Matches (after.awaits false none awaited) := by
    intro result adds
    apply still (adds.mono fun after new => new.quiet)
    exact adds.mono fun after new => congrArg Dialog.ackWait new.dialog
  cases event with
  | createRequest method =>
      apply still (createRequest_quiet session method)
      apply Checked.onReturn_bind.mpr
      apply (session.dialog.createRequest_kind _ method).mono
      rintro ⟨dialog, req⟩ ⟨same, kind⟩
      dsimp only
      split
      · exact Checked.onReturn_pure.mpr same.call.ackWait
      · split <;> exact Checked.onReturn_pure.mpr same.call.ackWait
  | createQueuedRequest method => exact added (createQueuedRequest_adds session method)
  | createAuthenticatedRequest id => exact added (createAuthenticatedRequest_adds session id)
  | createCancel id => exact added (createCancel_adds session id)
  | sendRequest id outlet =>
      apply sendRequest_timed formed matched
      intro given transaction present
      subst given
      simpa [Session.timely, present] using timely
  | channelReady id =>
      apply Checked.onReturn_pure.mpr
      unfold channelReady
      split
      · have same : (session.emit id).dialog = session.dialog := emit_dialog session id
        apply awaits_same matched (congrArg Dialog.ackWait same)
        exact (emit_moves session id).stopped formed.stopped
      · exact idle
  | processQueue outlet => exact processQueue_timed formed matched timely
  | requestReceived req => exact added (requestReceived_adds session req)
  | responded id state resp => exact respond_timed formed matched timely
  | forked id => exact Checked.onReturn_pure.mpr (awaits_same matched rfl formed.stopped)
  | rejoined id state resp => exact rejoin_timed formed matched timely
  | responseRefused id => exact responseRefused_timed formed matched timely
  | terminated id =>
      dsimp only [handle]
      cases present : session.transactions[id]? with
      | none =>
          unfold terminate
          simp only [concludes, present, Option.any_none]
          exact Checked.onReturn_pure.mpr idle
      | some transaction =>
          apply terminate_timed present matched formed.stopped
          · intro alive inside unanswered
            simpa [Session.timely, present, alive, inside, unanswered] using timely
          · intro ends
            simpa [concludes, present, and_assoc] using ends
  | ackSent ack => exact Checked.onReturn_pure.mpr (sendAck_timed formed matched timely)
  | ackReceived ack =>
      apply Checked.onReturn_bind.mpr
      apply (handleAck_timed formed matched ack timely).mono
      intro (dialog, _) holds
      exact Checked.onReturn_pure.mpr holds
  | ackChecked outlet => exact checkAckSent_timed formed matched timely
  | timer200OkEnd outlet =>
      have unarmed : session.dialog.timer200OkEnd = false := by simpa [Session.timely] using timely
      dsimp only [handle]
      unfold on200OkEnd
      rw [unarmed, if_neg Bool.false_ne_true]
      exact Checked.onReturn_pure.mpr idle
  | terminateOnBye value => exact Checked.onReturn_pure.mpr (awaits_same matched rfl formed.stopped)
  | deleted =>
      apply (delete_aborted session).mono
      intro after aborted
      rw [awaits_terminated aborted.terminated, aborted.ackWait]
      exact ⟨rfl, rfl, rfl⟩

theorem Watch.step_timed {watch : Watch} (formed : Formed watch.session) (timed : watch.Timed) {event : Event}
    (timely : watch.session.timely event = true) :
    Formed (watch.step event).session ∧ (watch.step event).Timed := by
  constructor
  · rw [watch.step_session event]
    exact step_formed formed event
  · have kept := handle_timed formed timed timely
    unfold Watch.Timed Watch.step
    split
    · exact timed
    · cases handled : watch.session.handle event with
      | ok after => exact kept.elim handled
      | error fault => exact timed

/-- In every run whose events are timely, the timers of the dialog run with the 200 Ok whose ACK it awaits as
UAS, and no timer runs when it awaits none. -/
theorem run_timed {session : Session} {initial : DialogTransaction} (created : Created session initial)
    {events : List Event}
    (timely : Machine.Along Watch.step (fun watch event => watch.session.timely event = true)
      { session := session } events) :
    (Machine.run Watch.step { session := session } events).Timed := by
  have start : Formed session ∧ ({ session := session } : Watch).Timed := by
    refine ⟨created.formed, ?_⟩
    unfold Watch.Timed
    rw [created.ackWait]
    exact ⟨rfl, rfl, rfl⟩
  have preserved : ∀ (watch : Watch) (event : Event), Formed watch.session ∧ watch.Timed →
      watch.session.timely event = true → Formed (watch.step event).session ∧ (watch.step event).Timed :=
    fun watch event kept timely => watch.step_timed kept.1 kept.2 timely
  exact (Machine.run_invariant preserved start timely).2

/-- A UAS that has received an INVITE of CSeq number 10 and has created a dialog for it. -/
def incomingCall : Session where
  dialog := {
    isServer := true
    callId := some "call"
    remoteParty := some { uri := some { text := "sip:alice@10.0.0.1" }, tag := some "alice" }
    localTag := some "bob"
    remoteTag := some "alice" }
  transactions := [
    { isClient := false, request := Dialog.peerRequest "INVITE" 10, state := .proceeding, origin := .peer }]

theorem incomingCall_created :
    Created incomingCall
      { isClient := false, request := Dialog.peerRequest "INVITE" 10, state := .proceeding, origin := .peer } where
  only := rfl
  formable := ⟨nofun, fun _ => rfl, nofun⟩
  queuedCt := rfl
  ackWait := rfl
  last := .inl ⟨rfl, rfl⟩

/-- A call that is answered, acknowledged and hung up by the peer. -/
def answeredCall : List Event :=
  [.responded 0 .proceeding { Dialog.okResponse "INVITE" 10 with statusCode := 180 },
    .responded 0 .accepted (Dialog.okResponse "INVITE" 10), .ackReceived (Dialog.peerRequest "ACK" 10),
    .requestReceived (Dialog.peerRequest "BYE" 11), .responded 1 .completed (Dialog.okResponse "BYE" 11)]

theorem run_timed_answered : (Machine.run Watch.step { session := incomingCall } answeredCall).Timed :=
  run_timed incomingCall_created (by decide)

example : (Machine.run Watch.step { session := incomingCall } (answeredCall.take 2)).awaited.isSome = true := by
  decide

/-- The peer sends a re-INVITE in the call, and the UAS answers it with a 2xx. -/
def reinvitedCall : List Event :=
  answeredCall.take 3 ++ [.requestReceived (Dialog.peerRequest "INVITE" 11),
    .responded 1 .accepted (Dialog.okResponse "INVITE" 11)]

/-- The 2xx of the re-INVITE starts no timer, although its ACK is awaited. -/
theorem not_timed_reinvite :
    Created incomingCall
        { isClient := false, request := Dialog.peerRequest "INVITE" 10, state := .proceeding, origin := .peer } ∧
      (Machine.run Watch.step { session := incomingCall } reinvitedCall).awaited =
        some (Dialog.okResponse "INVITE" 11) ∧
      (Machine.run Watch.step { session := incomingCall } reinvitedCall).session.dialog.ackWait =
        ⟨true, false, false, none⟩ ∧
      ¬(Machine.run Watch.step { session := incomingCall } reinvitedCall).Timed := by
  have awaited : (Machine.run Watch.step { session := incomingCall } reinvitedCall).awaited =
      some (Dialog.okResponse "INVITE" 11) := by decide
  refine ⟨incomingCall_created, awaited, by decide, ?_⟩
  unfold Watch.Timed
  rw [awaited]
  unfold AckWait.Matches
  decide

end Session

end BelleSip
