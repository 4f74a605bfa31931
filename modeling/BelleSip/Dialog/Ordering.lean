import BelleSip.Dialog.Remote
import BelleSip.Dialog.AckTimers

/-
This file proves when a dialog accepts the requests of its peer in the order of their CSeq numbers.
-/

namespace BelleSip

open Foundation
open Foundation.Checked (OnReturn)

/-- This is `belle_sip_dialog_check_incoming_request_ordering`; the second component says whether it accepts. -/
def Dialog.checkIncomingRequestOrdering (dialog : Dialog) (req : Request) : Checked (Dialog × Bool) := do
  let cseqh ← Checked.deref req.cseq
  if dialog.remoteCseq = 0 then
    -- the number is stored, and the request is ignored like one that comes late
    return ({ dialog with remoteCseq := cseqh.seqNumber }, false)
  else return (dialog, dialog.remoteCseq < cseqh.seqNumber)

namespace Session

/-- A session with the CSeq numbers of the requests that its dialog has accepted. -/
structure Arrivals where
  session : Session
  accepted : List Nat := []

/-- An event of the session, or the check of a request that has arrived. -/
inductive Arrival where
  | event (event : Event)
  | ordering (req : Request) (cseqh : HeaderCseq) (numbered : req.cseq = some cseqh)

namespace Arrivals

/-- The first request of a dialog is accepted when it is answered. -/
def answered (arrivals : Arrivals) (number : Option Nat) : List Nat :=
  if arrivals.accepted = [] then number.toList else arrivals.accepted

def accepts (arrivals : Arrivals) (req : Request) : Bool :=
  match arrivals.session.dialog.checkIncomingRequestOrdering req with
  | .ok (_, accepted) => accepted
  | .error _ => false

def step (arrivals : Arrivals) (arrival : Arrival) : Arrivals :=
  if arrivals.session.halted then arrivals
  else match arrival with
    | .event event =>
        match arrivals.session.handle event with
        | .ok session => { session := session, accepted := arrivals.answered (arrivals.session.writes event) }
        | .error _ => { arrivals with session := { arrivals.session with halted := true } }
    | .ordering req cseqh _ =>
        match arrivals.session.dialog.checkIncomingRequestOrdering req with
        | .ok (dialog, accepted) =>
            { session := { arrivals.session with dialog := dialog }
              accepted := if accepted then arrivals.accepted ++ [cseqh.seqNumber] else arrivals.accepted }
        | .error _ => { arrivals with session := { arrivals.session with halted := true } }

/-- The requests of the peer that have been accepted are answered in the order of their numbers, and no request is
checked before the first one has been answered or while an accepted one waits for its answer. -/
def orderly (arrivals : Arrivals) : Arrival → Bool
  | .event event => (arrivals.session.writes event).all fun number =>
      arrivals.session.dialog.remoteCseq ≤ number && (arrivals.accepted = [] || number ∈ arrivals.accepted)
  | .ordering _ _ _ => arrivals.session.dialog.remoteCseq ≠ 0 &&
      arrivals.accepted.all (· ≤ arrivals.session.dialog.remoteCseq)

/-- The remote number does not decrease, and a request is accepted when it is the first one or has a higher number than
all those accepted before. -/
def Ordered (arrivals : Arrivals) (arrival : Arrival) : Prop :=
  arrivals.session.dialog.remoteCseq ≤ (arrivals.step arrival).session.dialog.remoteCseq ∧
    match arrival with
    | .event _ => True
    | .ordering req cseqh _ =>
        arrivals.accepts req = true ↔ ∀ number ∈ arrivals.accepted, number < cseqh.seqNumber

instance (arrivals : Arrivals) : ∀ arrival : Arrival, Decidable (arrivals.Ordered arrival)
  | .event _ => inferInstanceAs (Decidable (_ ∧ True))
  | .ordering _ _ _ => inferInstanceAs (Decidable (_ ∧ (_ ↔ _)))

/-- A remote number is that of an accepted request. -/
structure Known (arrivals : Arrivals) : Prop where
  formed : Formed arrivals.session
  known : arrivals.session.dialog.remoteCseq ≠ 0 → arrivals.session.dialog.remoteCseq ∈ arrivals.accepted

end Arrivals

/-- An event keeps the remote number or writes it. -/
theorem handle_remote {session : Session} (formed : Formed session) (event : Event) :
    OnReturn (session.handle event) fun after =>
      after.dialog.remoteCseq = session.dialog.remoteCseq ∨ some after.dialog.remoteCseq = session.writes event := by
  cases event with
  | ackSent ack =>
      apply Checked.onReturn_pure.mpr
      unfold Dialog.sendAck
      split
      · exact .inl rfl
      · exact .inl rfl
  | _ =>
      refine (handle_stays formed ?_).mono fun after stays => stays.remoteCseq
      intro ack same
      cases same

namespace Arrivals

variable {arrivals : Arrivals}

/-- An event that answers the requests in their order writes the number of an accepted one. -/
theorem Known.event (known : arrivals.Known) {event : Event} (orderly : arrivals.orderly (.event event) = true) :
    (arrivals.step (.event event)).Known ∧ arrivals.Ordered (.event event) := by
  have remote := handle_remote known.formed event
  have moves := handle_moves known.formed event
  unfold Ordered step
  split
  · exact ⟨known, Nat.le_refl _, trivial⟩
  · dsimp only
    cases handled : arrivals.session.handle event with
    | error fault =>
        exact ⟨⟨⟨known.formed.formable, known.formed.queued, known.formed.anchored, known.formed.stopped⟩, known.known⟩,
          Nat.le_refl _, trivial⟩
    | ok after =>
        have formed := (moves.elim handled).formed known.formed
        rcases remote.elim handled with same | written
        · have stays : after.dialog.remoteCseq ≠ 0 →
              after.dialog.remoteCseq ∈ arrivals.answered (arrivals.session.writes event) := by
            rw [same]
            intro nonzero
            have among := known.known nonzero
            rw [answered, if_neg (List.ne_nil_of_mem among)]
            exact among
          exact ⟨⟨formed, stays⟩, Nat.le_of_eq same.symm, trivial⟩
        · rw [Arrivals.orderly, ← written, Option.all_some, Bool.and_eq_true, Bool.or_eq_true, decide_eq_true_eq,
            decide_eq_true_eq, decide_eq_true_eq] at orderly
          obtain ⟨later, first | among⟩ := orderly
          · refine ⟨⟨formed, fun _ => ?_⟩, later, trivial⟩
            rw [answered, if_pos first, ← written]
            exact List.mem_singleton_self _
          · refine ⟨⟨formed, fun _ => ?_⟩, later, trivial⟩
            rw [answered, if_neg (List.ne_nil_of_mem among)]
            exact among

/-- A request that is checked when all those accepted have been answered is accepted when its number is higher. -/
theorem Known.ordering (known : arrivals.Known) {req : Request} {cseqh : HeaderCseq} (numbered : req.cseq = some cseqh)
    (orderly : arrivals.orderly (.ordering req cseqh numbered) = true) :
    (arrivals.step (.ordering req cseqh numbered)).Known ∧ arrivals.Ordered (.ordering req cseqh numbered) := by
  rw [Arrivals.orderly, Bool.and_eq_true, decide_eq_true_eq, List.all_eq_true] at orderly
  obtain ⟨nonzero, answered⟩ := orderly
  have among := known.known nonzero
  have checked : arrivals.session.dialog.checkIncomingRequestOrdering req =
      .ok (arrivals.session.dialog, decide (arrivals.session.dialog.remoteCseq < cseqh.seqNumber)) := by
    rw [Dialog.checkIncomingRequestOrdering, numbered, Checked.deref_some, Checked.ok_bind, if_neg nonzero]
    rfl
  have accepts : arrivals.accepts req = true ↔ ∀ number ∈ arrivals.accepted, number < cseqh.seqNumber := by
    rw [Arrivals.accepts, checked]
    dsimp only
    rw [decide_eq_true_eq]
    constructor
    · intro higher number before
      exact Nat.lt_of_le_of_lt (of_decide_eq_true (answered number before)) higher
    · intro higher
      exact higher _ among
  unfold Ordered step
  dsimp only
  rw [checked]
  split
  · exact ⟨known, Nat.le_refl _, accepts⟩
  · refine ⟨⟨known.formed, fun _ => ?_⟩, Nat.le_refl _, accepts⟩
    dsimp only
    split
    · exact List.mem_append_left _ among
    · exact among

theorem Known.step (known : arrivals.Known) (arrival : Arrival) (orderly : arrivals.orderly arrival = true) :
    (arrivals.step arrival).Known ∧ arrivals.Ordered arrival := by
  cases arrival with
  | event event => exact known.event orderly
  | ordering req cseqh numbered => exact known.ordering numbered orderly

end Arrivals

/-- As long as accepted requests are answered in their order, and a request is checked only when a first one has been
answered and no accepted one waits, the remote number of a dialog never decreases, and exactly the requests with higher
numbers than those accepted before are accepted. -/
theorem arrivals_ordered {session : Session} {initial : DialogTransaction} (created : Created session initial)
    (new : session.dialog.remoteCseq = 0) {arrivals : List Arrival}
    (orderly : Machine.Along Arrivals.step (fun arrivals arrival => arrivals.orderly arrival = true)
      { session := session } arrivals) :
    Machine.Along Arrivals.step Arrivals.Ordered { session := session } arrivals := by
  have start : ({ session := session } : Arrivals).Known := ⟨created.formed, fun nonzero => absurd new nonzero⟩
  exact Machine.Along.entails (fun before arrival known orderly => (known.step arrival orderly).1)
    (fun before arrival known orderly => (known.step arrival orderly).2) start orderly

/-- A call of the peer, a BYE of the peer, and a second check of that BYE after its answer. -/
def checkedCall : List Arrival :=
  [.event (.responded 0 .proceeding { Dialog.okResponse "INVITE" 10 with statusCode := 180 }),
    .event (.responded 0 .accepted (Dialog.okResponse "INVITE" 10)),
    .event (.ackReceived (Dialog.peerRequest "ACK" 10)),
    .ordering (Dialog.peerRequest "BYE" 11) _ rfl, .event (.requestReceived (Dialog.peerRequest "BYE" 11)),
    .event (.responded 1 .completed (Dialog.okResponse "BYE" 11)), .ordering (Dialog.peerRequest "BYE" 11) _ rfl]

theorem arrivals_ordered_checked :
    Machine.Along Arrivals.step Arrivals.Ordered { session := incomingCall } checkedCall :=
  arrivals_ordered incomingCall_created rfl (by decide)

/-- The first request of the peer in a call to it is ignored. Of two requests that have been accepted, the earlier one
is answered last and takes the remote number back. A request that waits for its answer is accepted again. -/
theorem arrivals_unordered :
    (Created establishedCall { request := Dialog.peerRequest "INVITE" 20, state := .terminated, origin := .dialog 0 } ∧
      establishedCall.dialog.remoteCseq = 0 ∧
      ¬Machine.Along Arrivals.step Arrivals.Ordered { session := establishedCall }
        [.ordering (Dialog.peerRequest "INFO" 1) _ rfl]) ∧
    ¬Machine.Along Arrivals.step Arrivals.Ordered { session := incomingCall } (checkedCall.take 3 ++
      [.ordering (Dialog.peerRequest "INFO" 11) _ rfl, .event (.requestReceived (Dialog.peerRequest "INFO" 11)),
        .ordering (Dialog.peerRequest "INFO" 12) _ rfl, .event (.requestReceived (Dialog.peerRequest "INFO" 12)),
        .event (.responded 2 .completed (Dialog.okResponse "INFO" 12)),
        .event (.responded 1 .completed (Dialog.okResponse "INFO" 11))]) ∧
    ¬Machine.Along Arrivals.step Arrivals.Ordered { session := incomingCall } (checkedCall.take 3 ++
      [.ordering (Dialog.peerRequest "INFO" 11) _ rfl, .ordering (Dialog.peerRequest "INFO" 11) _ rfl]) :=
  ⟨⟨establishedCall_created, rfl, by decide⟩, by decide, by decide⟩

end Session

end BelleSip
