import BelleSip.Foundation.Growth
import BelleSip.Dialog.Session

/-
This file states what one update does to the schedule of a dialog and to its wait for an ACK.
-/

namespace BelleSip

open Foundation
open Foundation.Checked (OnReturn)

/-- The fields of a dialog that tell whether it waits for an ACK and what it repeats meanwhile. -/
structure AckWait where
  needsAck : Bool
  timer200Ok : Bool
  timer200OkEnd : Bool
  last200Ok : Option Response
deriving DecidableEq, Repr

namespace Dialog

def ackWait (dialog : Dialog) : AckWait where
  needsAck := dialog.needsAck
  timer200Ok := dialog.timer200Ok
  timer200OkEnd := dialog.timer200OkEnd
  last200Ok := dialog.last200Ok

/-- The transaction refuses an INVITE or ends a BYE. -/
def concludes (req : Request) (resp : Option Response) (terminated : Bool) : Bool :=
  req.method = "INVITE" && resp.any (300 ≤ ·.statusCode) ||
    req.method = "BYE" && resp.elim terminated (200 ≤ ·.statusCode)

/-- What the update makes of the wait for an ACK, and its verdict. -/
inductive Outcome (dialog : Dialog) (req : Request) (resp : Option Response) (terminated asUas : Bool) :
    AckWait → Verdict → Prop where
  | kept (unaccepted : dialog.state = .null ∨ dialog.state = .early → req.method = "INVITE" →
      ∀ answer, resp = some answer → ¬(200 ≤ answer.statusCode ∧ answer.statusCode < 300))
      (running : dialog.state = .confirmed → concludes req resp terminated = false) :
      Outcome dialog req resp terminated asUas dialog.ackWait .keep
  | rejected (answer : Response) (answered : resp = some answer) (failure : 300 ≤ answer.statusCode)
      (unconfirmed : dialog.state = .null ∨ dialog.state = .early) :
      Outcome dialog req resp terminated asUas dialog.ackWait .delete
  /-- An INVITE is accepted before the dialog is confirmed. -/
  | accepted (answer : Response) (invite : req.method = "INVITE") (answered : resp = some answer)
      (success : 200 ≤ answer.statusCode ∧ answer.statusCode < 300)
      (unconfirmed : dialog.state = .null ∨ dialog.state = .early) :
      Outcome dialog req resp terminated asUas
        (if dialog.isServer then ⟨true, true, true, some answer⟩ else { dialog.ackWait with needsAck := true })
        .keep
  /-- An INVITE is accepted in a confirmed dialog. -/
  | reaccepted (answer : Response) (invite : req.method = "INVITE") (answered : resp = some answer)
      (success : 200 ≤ answer.statusCode ∧ answer.statusCode < 300) (confirmed : dialog.state = .confirmed) :
      Outcome dialog req resp terminated asUas { dialog.ackWait with needsAck := true } .keep
  | repeated (answer : Response) (invite : req.method = "INVITE") (answered : resp = some answer)
      (success : 200 ≤ answer.statusCode ∧ answer.statusCode < 300) (confirmed : dialog.state = .confirmed)
      (asUac : asUas = false) (again : dialog.handle200Ok answer = .ok true) :
      Outcome dialog req resp terminated asUas dialog.ackWait .retransmission
  | refused (answer : Response) (invite : req.method = "INVITE") (answered : resp = some answer)
      (failure : 300 ≤ answer.statusCode) (confirmed : dialog.state = .confirmed) :
      Outcome dialog req resp terminated asUas { dialog.ackWait with needsAck := false } .keep
  | hungUp (bye : req.method = "BYE") (ended : resp = none → terminated = true)
      (final : ∀ answer, resp = some answer → 200 ≤ answer.statusCode) (confirmed : dialog.state = .confirmed) :
      Outcome dialog req resp terminated asUas { dialog.ackWait with needsAck := false }
        (if dialog.terminateOnBye then .delete else .keep)

/-- The fields of a dialog that schedule its requests. -/
structure SameSchedule (before after : Dialog) : Prop where
  lastTransaction : after.lastTransaction = before.lastTransaction
  queuedCt : after.queuedCt = before.queuedCt
  postponed : after.postponed = before.postponed
  deleted : after.state = .terminated ↔ before.state = .terminated

namespace SameSchedule

theorem refl (dialog : Dialog) : SameSchedule dialog dialog := ⟨rfl, rfl, rfl, Iff.rfl⟩

theorem trans {first second third : Dialog} (before : SameSchedule first second)
    (after : SameSchedule second third) : SameSchedule first third where
  lastTransaction := after.lastTransaction.trans before.lastTransaction
  queuedCt := after.queuedCt.trans before.queuedCt
  postponed := after.postponed.trans before.postponed
  deleted := after.deleted.trans before.deleted

end SameSchedule

/-- The fields of a dialog that decide the outcome of an update. -/
structure SameCall (before after : Dialog) : Prop where
  state : after.state = before.state
  isServer : after.isServer = before.isServer
  ackWait : after.ackWait = before.ackWait
  lastOutAck : after.lastOutAck = before.lastOutAck
  terminateOnBye : after.terminateOnBye = before.terminateOnBye

namespace SameCall

theorem refl (dialog : Dialog) : SameCall dialog dialog := ⟨rfl, rfl, rfl, rfl, rfl⟩

theorem trans {first second third : Dialog} (before : SameCall first second)
    (after : SameCall second third) : SameCall first third where
  state := after.state.trans before.state
  isServer := after.isServer.trans before.isServer
  ackWait := after.ackWait.trans before.ackWait
  lastOutAck := after.lastOutAck.trans before.lastOutAck
  terminateOnBye := after.terminateOnBye.trans before.terminateOnBye

end SameCall

/-- Neither the schedule nor the wait for an ACK changes. -/
structure Untouched (before after : Dialog) : Prop where
  schedule : SameSchedule before after
  call : SameCall before after

namespace Untouched

theorem refl (dialog : Dialog) : Untouched dialog dialog := ⟨.refl dialog, .refl dialog⟩

theorem trans {first second third : Dialog} (before : Untouched first second)
    (after : Untouched second third) : Untouched first third :=
  ⟨before.schedule.trans after.schedule, before.call.trans after.call⟩

end Untouched

theorem setToTag_untouched (dialog : Dialog) (toHeader : Option TaggedAddress) :
    OnReturn (dialog.setToTag toHeader) (Untouched dialog) := by
  unfold setToTag
  cases toHeader with
  | none => simp [Checked.deref]
  | some header =>
      rw [Checked.deref_some, Checked.ok_bind]
      split <;> exact Checked.onReturn_pure.mpr ⟨⟨rfl, rfl, rfl, Iff.rfl⟩, ⟨rfl, rfl, rfl, rfl, rfl⟩⟩

theorem initAsUas_untouched (dialog : Dialog) (req : Request) (resp : Response) :
    OnReturn (dialog.initAsUas req resp) fun after => ∀ result, after = some result → Untouched dialog result := by
  unfold initAsUas
  split
  · rw [checkSecure_eq]
    intro result same
    cases same
    exact ⟨⟨rfl, rfl, rfl, Iff.rfl⟩, ⟨rfl, rfl, rfl, rfl, rfl⟩⟩
  · intro result same
    cases same

theorem initAsUac_untouched (dialog : Dialog) (req : Request) (resp : Response) :
    OnReturn (dialog.initAsUac req resp) fun after => ∀ result, after = some result → Untouched dialog result := by
  unfold initAsUac
  split
  · rw [checkSecure_eq]
    intro result same
    split at same <;> cases same <;> exact ⟨⟨rfl, rfl, rfl, Iff.rfl⟩, ⟨rfl, rfl, rfl, rfl, rfl⟩⟩
  · intro result same
    cases same

/-- The establishment of a dialog leaves its schedule and its wait for an ACK. -/
theorem establish_untouched (dialog : Dialog) (req : Request) (resp : Response) :
    OnReturn (dialog.establish req resp) fun (after, _) => Untouched dialog after := by
  unfold establish
  split
  · exact Checked.onReturn_pure.mpr (.refl dialog)
  · split
    · exact Checked.onReturn_pure.mpr (.refl dialog)
    · next callId _ =>
        have named : Untouched dialog { dialog with callId := some callId } :=
          ⟨⟨rfl, rfl, rfl, Iff.rfl⟩, ⟨rfl, rfl, rfl, rfl, rfl⟩⟩
        have tagged : ∀ result : Dialog, Untouched { dialog with callId := some callId } result →
            OnReturn (result.setToTag resp.toHeader >>= fun tagged => pure (tagged, true))
              fun (after, _) => Untouched dialog after := by
          intro result kept
          apply Checked.onReturn_bind.mpr
          apply (setToTag_untouched result resp.toHeader).mono
          intro tagged same
          exact Checked.onReturn_pure.mpr (named.trans (kept.trans same))
        dsimp only
        split
        · apply Checked.onReturn_bind.mpr
          apply (initAsUas_untouched _ req resp).mono
          intro initialised kept
          cases initialised with
          | none => exact Checked.onReturn_pure.mpr named
          | some result => exact tagged result (kept result rfl)
        · apply Checked.onReturn_bind.mpr
          apply (initAsUac_untouched _ req resp).mono
          intro initialised kept
          cases initialised with
          | none => exact Checked.onReturn_pure.mpr named
          | some result => exact tagged result (kept result rfl)

/-- An accepted INVITE makes the dialog wait for an ACK, and a UAS arms its timers. -/
theorem establishFull_ackWait (dialog : Dialog) (req : Request) (resp : Response)
    (alive : dialog.state ≠ .terminated) :
    OnReturn (dialog.establishFull req resp) fun (after, _) => SameSchedule dialog after ∧
      after.ackWait =
        if req.method = "INVITE" then
          if dialog.isServer then ⟨true, true, true, some resp⟩ else { dialog.ackWait with needsAck := true }
        else dialog.ackWait := by
  have confirmed : ∀ (middle : Dialog) (wait : AckWait), SameSchedule dialog middle → middle.ackWait = wait →
      OnReturn (middle.setToTag resp.toHeader >>= fun tagged => pure (tagged.setState .confirmed, true))
        fun (after, _) => SameSchedule dialog after ∧ after.ackWait = wait := by
    intro middle wait same waits
    apply Checked.onReturn_bind.mpr
    apply (setToTag_untouched middle resp.toHeader).mono
    intro tagged kept
    apply Checked.onReturn_pure.mpr
    have schedule := same.trans kept.schedule
    exact ⟨⟨schedule.lastTransaction, schedule.queuedCt, schedule.postponed, nofun, fun ended => absurd ended alive⟩,
      kept.call.ackWait.trans waits⟩
  unfold establishFull
  dsimp only
  by_cases invite : req.method = "INVITE"
  · simp only [if_pos invite]
    cases server : dialog.isServer with
    | true => exact confirmed _ _ ⟨rfl, rfl, rfl, Iff.rfl⟩ rfl
    | false =>
        simp only [Bool.false_eq_true, if_false]
        split
        · exact Checked.onReturn_pure.mpr ⟨⟨rfl, rfl, rfl, Iff.rfl⟩, rfl⟩
        · exact confirmed _ _ ⟨rfl, rfl, rfl, Iff.rfl⟩ rfl
  · simp only [if_neg invite]
    cases server : dialog.isServer with
    | true => exact confirmed _ _ ⟨rfl, rfl, rfl, Iff.rfl⟩ rfl
    | false =>
        simp only [Bool.false_eq_true, if_false]
        split
        · exact Checked.onReturn_pure.mpr ⟨⟨rfl, rfl, rfl, Iff.rfl⟩, rfl⟩
        · exact confirmed _ _ ⟨rfl, rfl, rfl, Iff.rfl⟩ rfl

/-- What the switch of the update does. -/
structure Turn (dialog : Dialog) (req : Request) (resp : Option Response) (terminated asUas : Bool)
    (after : Dialog) (verdict : Verdict) : Prop extends SameSchedule dialog after where
  outcome : Outcome dialog req resp terminated asUas after.ackWait verdict

variable {resp : Option Response} {dialog : Dialog} {verdict : Verdict} {req : Request} {wait : AckWait}

theorem updateEarly_turn (unconfirmed : dialog.state = .null ∨ dialog.state = .early) (req : Request) (resp : Response)
    (terminated asUas : Bool) :
    OnReturn (dialog.updateEarly req resp) fun (after, verdict) =>
      Turn dialog req (some resp) terminated asUas after verdict := by
  have unready : dialog.state = .confirmed → concludes req (some resp) terminated = false := by
    intro confirmed
    rw [confirmed] at unconfirmed
    rcases unconfirmed with null | early
    · cases null
    · cases early
  unfold updateEarly
  split
  · next refused => exact Checked.onReturn_pure.mpr ⟨.refl dialog, .rejected resp rfl refused.2 unconfirmed⟩
  · next notRefused =>
      split
      · next success =>
          have alive : dialog.state ≠ .terminated := by
            rcases unconfirmed with null | early
            · rw [null]; decide
            · rw [early]; decide
          apply Checked.onReturn_bind.mpr
          apply (establishFull_ackWait dialog req resp alive).mono
          intro (after, _) ⟨schedule, waits⟩
          apply Checked.onReturn_pure.mpr
          refine ⟨schedule, ?_⟩
          rw [waits]
          split
          · next invite =>
              have below : resp.statusCode < 300 := by
                apply Nat.lt_of_not_le
                intro failure
                exact notRefused ⟨success.1, failure⟩
              exact .accepted resp invite rfl ⟨success.2, below⟩ unconfirmed
          · next other => exact .kept (fun _ invite => absurd invite other) unready
      · next other =>
          apply Checked.onReturn_pure.mpr
          refine ⟨.refl dialog, .kept ?_ unready⟩
          intro _ invite answer answered success
          cases answered
          exact other ⟨by simp [establishes, invite], success.1⟩

/-- The outcome depends on a few fields of the dialog. -/
theorem Outcome.transport {before dialog : Dialog} (same : SameCall before dialog) {terminated asUas : Bool}
    (outcome : Outcome dialog req resp terminated asUas wait verdict) :
    Outcome before req resp terminated asUas wait verdict := by
  cases outcome with
  | kept unaccepted running =>
      rw [same.ackWait]
      rw [same.state] at unaccepted running
      exact .kept unaccepted running
  | rejected answer answered failure unconfirmed =>
      rw [same.ackWait]
      rw [same.state] at unconfirmed
      exact .rejected answer answered failure unconfirmed
  | accepted answer invite answered success unconfirmed =>
      rw [same.isServer, same.ackWait]
      rw [same.state] at unconfirmed
      exact .accepted answer invite answered success unconfirmed
  | reaccepted answer invite answered success confirmed =>
      rw [same.ackWait]
      exact .reaccepted answer invite answered success (same.state.symm.trans confirmed)
  | repeated answer invite answered success confirmed asUac again =>
      rw [same.ackWait]
      apply Outcome.repeated answer invite answered success (same.state.symm.trans confirmed) asUac
      rw [handle200Ok, ← same.lastOutAck]
      exact again
  | refused answer invite answered failure confirmed =>
      rw [same.ackWait]
      exact .refused answer invite answered failure (same.state.symm.trans confirmed)
  | hungUp bye ended final confirmed =>
      rw [same.ackWait, same.terminateOnBye]
      exact .hungUp bye ended final (same.state.symm.trans confirmed)

theorem Turn.transport {before dialog after : Dialog} (same : Untouched before dialog) {terminated asUas : Bool}
    (turn : Turn dialog req resp terminated asUas after verdict) :
    Turn before req resp terminated asUas after verdict :=
  ⟨same.schedule.trans turn.toSameSchedule, turn.outcome.transport same.call⟩

theorem updateNull_turn (new : dialog.state = .null) (req : Request) (resp : Response) (terminated asUas : Bool) :
    OnReturn (dialog.updateNull req resp) fun (after, verdict) =>
      Turn dialog req (some resp) terminated asUas after verdict := by
  unfold updateNull
  split
  · apply Checked.onReturn_bind.mpr
    apply (establish_untouched dialog req resp).mono
    intro (middle, _) same
    dsimp only
    split
    · apply Checked.onReturn_pure.mpr
      refine ⟨⟨same.schedule.lastTransaction, same.schedule.queuedCt, same.schedule.postponed, ?_⟩, ?_⟩
      · constructor
        · intro ended
          cases ended
        · intro ended
          rw [new] at ended
          cases ended
      · have waits : (middle.setState .early).ackWait = dialog.ackWait := same.call.ackWait
        rw [waits]
        apply Outcome.kept
        · intro _ _ answer answered success
          cases answered
          omega
        · intro confirmed
          rw [new] at confirmed
          cases confirmed
    · apply (updateEarly_turn (.inl (same.call.state.trans new)) req resp terminated asUas).mono
      intro (after, verdict) turn
      exact turn.transport same
  · exact updateEarly_turn (.inl new) req resp terminated asUas

theorem refreshTarget_untouched (dialog : Dialog) (contact : Option HeaderAddress) :
    OnReturn (dialog.refreshTarget contact) (Untouched dialog) := by
  cases contact with
  | none => exact Checked.onReturn_pure.mpr (.refl dialog)
  | some contact =>
      unfold refreshTarget
      simp only [Checked.onReturn_bind, Checked.onReturn_deref, Checked.onReturn_pure]
      intro _ _
      exact ⟨⟨rfl, rfl, rfl, Iff.rfl⟩, ⟨rfl, rfl, rfl, rfl, rfl⟩⟩

/-- A confirmed dialog is left as it is. -/
theorem Turn.idle (confirmed : dialog.state = .confirmed) {terminated : Bool}
    (running : concludes req resp terminated = false) (asUas : Bool) :
    Turn dialog req resp terminated asUas dialog .keep := by
  refine ⟨.refl dialog, .kept ?_ fun _ => running⟩
  intro unconfirmed
  rw [confirmed] at unconfirmed
  rcases unconfirmed with null | early
  · cases null
  · cases early

theorem updateReinvite_turn (confirmed : dialog.state = .confirmed) (req : Request) (invite : req.method = "INVITE")
    (resp : Response) (terminated asUas : Bool) :
    OnReturn (dialog.updateReinvite req resp asUas) fun (after, verdict) =>
      Turn dialog req (some resp) terminated asUas after verdict := by
  unfold updateReinvite
  split
  · next success =>
      have marked : Untouched dialog (if asUas then dialog else dialog.setLastOutInvite req) := by
        split <;> exact ⟨⟨rfl, rfl, rfl, Iff.rfl⟩, ⟨rfl, rfl, rfl, rfl, rfl⟩⟩
      apply Checked.onReturn_bind.mpr
      apply (refreshTarget_untouched _ _).mono
      intro refreshed kept
      have same := marked.trans kept
      apply Checked.onReturn_bind.mpr
      cases retransmitted : refreshed.retransmits resp asUas with
      | error fault => trivial
      | ok retransmission =>
          apply Checked.onReturn_ok.mpr
          cases retransmission with
          | true =>
              apply Checked.onReturn_pure.mpr
              refine ⟨same.schedule, ?_⟩
              have asUac : asUas = false := by
                cases asUas with
                | true => cases retransmitted
                | false => rfl
              subst asUac
              have again : dialog.handle200Ok resp = .ok true := by
                rw [handle200Ok, ← same.call.lastOutAck]
                exact retransmitted
              rw [same.call.ackWait]
              exact .repeated resp invite rfl success confirmed rfl again
          | false =>
              apply Checked.onReturn_pure.mpr
              have schedule := same.schedule
              refine ⟨⟨schedule.lastTransaction, schedule.queuedCt, schedule.postponed, schedule.deleted⟩, ?_⟩
              have waits : ({ refreshed with needsAck := true } : Dialog).ackWait =
                  { dialog.ackWait with needsAck := true } := by
                rw [← same.call.ackWait]
                rfl
              rw [waits]
              exact .reaccepted resp invite rfl success confirmed
  · split
    · next failure =>
        exact Checked.onReturn_pure.mpr ⟨⟨rfl, rfl, rfl, Iff.rfl⟩, .refused resp invite rfl failure confirmed⟩
    · next mild => exact Checked.onReturn_pure.mpr (.idle confirmed (by simp [concludes, invite, mild]) asUas)

theorem updateBye_turn (confirmed : dialog.state = .confirmed) (req : Request) (bye : req.method = "BYE")
    (resp : Option Response) {terminated : Bool} (ended : resp = none → terminated = true)
    (final : ∀ answer, resp = some answer → 200 ≤ answer.statusCode) (asUas : Bool) :
    Turn dialog req resp terminated asUas dialog.updateBye.1 dialog.updateBye.2 :=
  ⟨⟨rfl, rfl, rfl, Iff.rfl⟩, .hungUp bye ended final confirmed⟩

/-- What the update does before it deletes the dialog or postpones the work on its queue. -/
theorem updateState_turn (dialog : Dialog) (req : Request) (resp : Option Response) (terminated asUas : Bool) :
    OnReturn (dialog.updateState req resp terminated asUas) fun (after, verdict) =>
      Turn dialog req resp terminated asUas after verdict := by
  unfold updateState
  split
  · next answer new => exact updateNull_turn new req answer terminated asUas
  · next answer early => exact updateEarly_turn (.inr early) req answer terminated asUas
  · next answer confirmed =>
      split
      · next invite => exact updateReinvite_turn confirmed req invite answer terminated asUas
      · next other =>
        split
        · next ended =>
            have final : ∀ same, some answer = some same → 200 ≤ same.statusCode := by
              intro same equal
              cases equal
              exact ended.2
            have turn : Turn dialog req (some answer) terminated asUas dialog.updateBye.1 dialog.updateBye.2 :=
              updateBye_turn confirmed req ended.1 (some answer) nofun final asUas
            apply Checked.onReturn_pure.mpr
            exact turn
        · next running =>
            have quiet : concludes req (some answer) terminated = false := by
              simpa [concludes, show req.method ≠ "INVITE" from other] using running
            exact Checked.onReturn_pure.mpr (.idle confirmed quiet asUas)
  · next confirmed =>
      split
      · next ended =>
          have silent : ∀ answer : Response, none = some answer → 200 ≤ answer.statusCode := by
            intro answer absent
            cases absent
          have turn : Turn dialog req none terminated asUas dialog.updateBye.1 dialog.updateBye.2 :=
            updateBye_turn confirmed req ended.1 none (fun _ => ended.2) silent asUas
          apply Checked.onReturn_pure.mpr
          exact turn
      · next running =>
          have quiet : concludes req none terminated = false := by
            simpa [concludes] using running
          exact Checked.onReturn_pure.mpr (.idle confirmed quiet asUas)
  · next answer _ _ notNull notEarly answered silent =>
      apply Checked.onReturn_pure.mpr
      refine ⟨.refl dialog, .kept ?_ ?_⟩
      · intro unconfirmed _ answer answered
        rcases unconfirmed with null | early
        · exact (notNull answer null answered).elim
        · exact (notEarly answer early answered).elim
      · intro confirmed
        cases given : answer with
        | none => exact (silent confirmed given).elim
        | some resp => exact (answered resp confirmed given).elim

/-- What one update does to a dialog: the switch has left it as `middle`. -/
structure Updated (dialog : Dialog) (id : TransactionId) (req : Request) (resp : Option Response)
    (terminated asUas : Bool) (middle : Dialog) (verdict : Verdict) : Prop where
  lastTransaction : middle.lastTransaction = some id
  queuedCt : middle.queuedCt = dialog.queuedCt
  postponed : middle.postponed = dialog.postponed
  state : middle.state = .terminated ↔ dialog.state = .terminated
  outcome : Outcome dialog req resp terminated asUas middle.ackWait verdict

theorem update_spec (dialog : Dialog) (id : TransactionId) (req : Request) (resp : Option Response)
    (terminated asUas : Bool) :
    OnReturn (dialog.update id req resp terminated asUas) fun result =>
      ∃ middle verdict, Updated dialog id req resp terminated asUas middle verdict ∧
        result = middle.settle verdict := by
  have switched : ∀ touched : Dialog, touched.lastTransaction = some id → touched.queuedCt = dialog.queuedCt →
      touched.postponed = dialog.postponed → SameCall dialog touched →
        OnReturn (touched.updateState req resp terminated asUas >>= fun (after, verdict) =>
          pure (after.settle verdict)) fun result =>
            ∃ middle verdict, Updated dialog id req resp terminated asUas middle verdict ∧
                result = middle.settle verdict := by
    intro touched last queued postponed same
    apply Checked.onReturn_bind.mpr
    apply (updateState_turn touched req resp terminated asUas).mono
    intro (middle, verdict) turn
    apply Checked.onReturn_pure.mpr
    refine ⟨middle, verdict, ⟨?_, ?_, ?_, ?_, ?_⟩, rfl⟩
    · exact turn.lastTransaction.trans last
    · exact turn.queuedCt.trans queued
    · exact turn.postponed.trans postponed
    · rw [turn.deleted, same.state]
    · exact turn.outcome.transport same
  unfold update touch
  cases asUas with
  | true =>
      cases cseq : req.cseq with
      | none => trivial
      | some cseq => exact switched _ rfl rfl rfl ⟨rfl, rfl, rfl, rfl, rfl⟩
  | false => exact switched _ rfl rfl rfl ⟨rfl, rfl, rfl, rfl, rfl⟩

/-- A deleted dialog is left as it is. -/
theorem Outcome.ended (terminated : dialog.state = .terminated) {ending asUas : Bool}
    (outcome : Outcome dialog req resp ending asUas wait verdict) : wait = dialog.ackWait ∧ verdict = .keep := by
  cases outcome with
  | kept => exact ⟨rfl, rfl⟩
  | rejected _ _ _ unconfirmed => simp [terminated] at unconfirmed
  | accepted _ _ _ _ unconfirmed => simp [terminated] at unconfirmed
  | reaccepted _ _ _ _ confirmed => simp [terminated] at confirmed
  | repeated _ _ _ _ confirmed => simp [terminated] at confirmed
  | refused _ _ _ _ confirmed => simp [terminated] at confirmed
  | hungUp _ _ _ confirmed => simp [terminated] at confirmed

/-- Only a repeated 200 Ok is taken for a retransmission. -/
theorem Outcome.retransmitted {ending asUas : Bool} (outcome : Outcome dialog req resp ending asUas wait verdict)
    (again : verdict = .retransmission) :
    wait = dialog.ackWait ∧ ∃ answer, resp = some answer ∧ req.method = "INVITE" ∧
      (200 ≤ answer.statusCode ∧ answer.statusCode < 300) ∧ dialog.state = .confirmed ∧ asUas = false ∧
        dialog.handle200Ok answer = .ok true := by
  cases outcome with
  | repeated answer invite answered success confirmed asUac handled =>
      exact ⟨rfl, answer, answered, invite, success, confirmed, asUac, handled⟩
  | hungUp bye ended final confirmed => split at again <;> cases again
  | kept => cases again
  | rejected => cases again
  | accepted => cases again
  | reaccepted => cases again
  | refused => cases again

/-- A transaction that has neither a final answer nor ended deletes no dialog. -/
theorem Outcome.provisional {asUas : Bool} (outcome : Outcome dialog req resp false asUas wait verdict)
    (early : ∀ answer, resp = some answer → answer.statusCode < 200) : verdict ≠ .delete := by
  intro deleted
  subst deleted
  generalize asked : Verdict.delete = verdict at outcome
  cases outcome with
  | rejected answer answered failure unconfirmed =>
      have code := early answer answered
      omega
  | hungUp bye ended final confirmed =>
      cases resp with
      | none => cases ended rfl
      | some answer =>
          have code := final answer rfl
          have soon := early answer rfl
          omega
  | kept => cases asked
  | repeated => cases asked
  | accepted => cases asked
  | reaccepted => cases asked
  | refused => cases asked

end Dialog

namespace Session

/-- A transaction of a deleted dialog stays as it is or is terminated. -/
def Ends (before after : DialogTransaction) : Prop :=
  after = before ∨ after = { before with state := .terminated }

theorem ends_refl (transaction : DialogTransaction) : Ends transaction transaction := .inl rfl

theorem ends_trans (first second third : DialogTransaction) (before : Ends first second)
    (after : Ends second third) : Ends first third := by
  rcases after with rfl | rfl
  · exact before
  · rcases before with rfl | rfl <;> exact .inr rfl

/-- Some transactions of the queue of a deleted dialog are terminated. -/
structure Aborted (queued : List TransactionId) (before after : Session) : Prop where
  terminated : after.dialog.state = .terminated
  queuedCt : after.dialog.queuedCt = before.dialog.queuedCt
  ackWait : after.dialog.ackWait = before.dialog.ackWait
  lastTransaction : after.dialog.lastTransaction = before.dialog.lastTransaction ∨
    ∃ id ∈ queued, after.dialog.lastTransaction = some id
  transactions : Grows Ends (fun _ => False) before.transactions after.transactions

namespace Aborted

variable {queued : List TransactionId}

theorem refl {session : Session} (terminated : session.dialog.state = .terminated) :
    Aborted queued session session := ⟨terminated, rfl, rfl, .inl rfl, .refl ends_refl _⟩

theorem trans {first second third : Session} (before : Aborted queued first second)
    (after : Aborted queued second third) : Aborted queued first third where
  terminated := after.terminated
  queuedCt := after.queuedCt.trans before.queuedCt
  ackWait := after.ackWait.trans before.ackWait
  lastTransaction := by
    rcases after.lastTransaction with same | new
    · rw [same]
      exact before.lastTransaction
    · exact .inr new
  transactions := before.transactions.trans ends_trans (fun _ _ none _ => none) after.transactions

end Aborted

theorem abort_aborted {session : Session} (terminated : session.dialog.state = .terminated)
    {queued : List TransactionId} {id : TransactionId} (among : id ∈ queued) :
    OnReturn (session.abort id) (Aborted queued session) := by
  unfold abort
  split
  · exact Checked.onReturn_pure.mpr (.refl terminated)
  · split
    · exact Checked.onReturn_pure.mpr (.refl terminated)
    · next transaction present _ =>
        have left : Aborted queued session
            (session.modify id fun transaction => { transaction with state := .terminated }) := by
          refine ⟨terminated, rfl, rfl, .inl rfl, ?_⟩
          apply Grows.modify ends_refl
          intro _ _
          exact .inr rfl
        split
        · apply Checked.onReturn_bind.mpr
          apply Checked.onReturn_bind.mpr
          apply (Dialog.update_spec _ _ _ _ _ _).mono
          intro result ⟨middle, verdict, updated, same⟩
          obtain ⟨waits, rfl⟩ := updated.outcome.ended terminated
          subst same
          apply Checked.onReturn_pure.mpr
          exact left.trans ⟨updated.state.mpr terminated, updated.queuedCt, waits,
            .inr ⟨id, among, updated.lastTransaction⟩, .refl ends_refl _⟩
        · exact Checked.onReturn_pure.mpr left

theorem abortAll_aborted {session : Session} (terminated : session.dialog.state = .terminated)
    {queued : List TransactionId} {rest : List TransactionId} (within : ∀ id ∈ rest, id ∈ queued) :
    OnReturn (session.abortAll rest) (Aborted queued session) := by
  induction rest generalizing session with
  | nil => exact Checked.onReturn_pure.mpr (.refl terminated)
  | cons id rest ih =>
      have others : ∀ other ∈ rest, other ∈ queued := fun other among =>
        within other (List.mem_cons_of_mem id among)
      apply Checked.onReturn_bind.mpr
      apply (abort_aborted terminated (within id List.mem_cons_self)).mono
      intro middle first
      apply (ih first.terminated others).mono
      intro after second
      exact first.trans second

/-- An update changes the dialog alone unless it deletes it. -/
theorem updateDialog_spec {session : Session} {id : TransactionId} {transaction : DialogTransaction}
    (present : session.transactions[id]? = some transaction) (asUas : Bool) :
    OnReturn (session.updateDialog id asUas) fun (after, _) => ∃ middle verdict,
      Dialog.Updated session.dialog id transaction.request transaction.lastResponse
        (transaction.state = .terminated) asUas middle verdict ∧
        (verdict ≠ .delete → after = { session with dialog := (middle.settle verdict).1 }) ∧
          (verdict = .delete →
            Aborted session.dialog.queuedCt { session with dialog := middle.delete } after) := by
  unfold updateDialog
  rw [present]
  apply Checked.onReturn_bind.mpr
  apply Checked.onReturn_bind.mpr
  apply (Dialog.update_spec _ _ _ _ _ _).mono
  intro result ⟨middle, verdict, updated, same⟩
  subst same
  apply Checked.onReturn_pure.mpr
  cases verdict with
  | keep =>
      dsimp only
      rw [if_pos (show middle.processQueue.queuedCt = session.dialog.queuedCt from updated.queuedCt)]
      exact ⟨middle, .keep, updated, fun _ => rfl, nofun⟩
  | retransmission =>
      dsimp only
      rw [if_pos (show middle.queuedCt = session.dialog.queuedCt from updated.queuedCt)]
      exact ⟨middle, .retransmission, updated, fun _ => rfl, nofun⟩
  | delete =>
      dsimp only
      split
      · exact ⟨middle, .delete, updated, fun other => absurd rfl other, fun _ => .refl rfl⟩
      · apply Checked.onReturn_bind.mpr
        apply (abortAll_aborted rfl fun _ among => among).mono
        intro after aborted
        exact ⟨middle, .delete, updated, fun other => absurd rfl other, fun _ => aborted⟩

theorem delete_aborted (session : Session) :
    OnReturn session.delete
      (Aborted session.dialog.queuedCt { session with dialog := session.dialog.delete }) :=
  abortAll_aborted rfl fun _ among => among

end Session

end BelleSip
