import BelleSip.Dialog.Remote

/-
This file proves when the ACK of a 200 Ok has the number of its INVITE and answers the retransmissions.
-/

namespace BelleSip

open Foundation
open Foundation.Checked (OnReturn)

namespace Dialog

/-- An ACK has the number that the dialog has counted up to, whatever INVITE it is created for. -/
theorem createAck_number (dialog : Dialog) (cseq : Nat) :
    OnReturn (dialog.createAck cseq) fun result =>
      ∀ ack, result = some ack → ack.cseq = some { seqNumber := dialog.localCseq, method := "ACK" } := by
  unfold createAck
  split
  · apply Checked.onReturn_pure.mpr
    rintro ack ⟨⟩
  · apply Checked.onReturn_bind.mpr
    apply Checked.onReturn_deref.mpr
    intro inviteCseq _
    split
    · apply Checked.onReturn_pure.mpr
      rintro ack ⟨⟩
    · unfold buildRequest
      simp only [Checked.onReturn_bind, Checked.onReturn_deref, Checked.onReturn_pure]
      intro target _ uri _ callId _ localParty _ remoteParty _
      rintro ack ⟨⟩
      rfl

/-- A 200 Ok is recognised by the number of the last ACK. -/
theorem handle200Ok_eq {dialog : Dialog} {ack : Request} {resp : Response} {ackCseq cseq : HeaderCseq}
    (last : dialog.lastOutAck = some ack) (numbered : ack.cseq = some ackCseq) (answered : resp.cseq = some cseq) :
    dialog.handle200Ok resp = .ok (decide (cseq.seqNumber = ackCseq.seqNumber)) := by
  rw [handle200Ok, last, answered]
  dsimp only
  rw [numbered]
  rfl

end Dialog

namespace Session

/-- The ACK has the number, and once it has been sent and until another one is sent, the dialog answers every
retransmission of the 200 Ok with it. -/
def Acknowledges (session : Session) (cseq : Nat) (ack : Request) : Prop :=
  ack.cseq.map HeaderCseq.seqNumber = some cseq ∧
    (session.halted = false → session.dialog.needsAck = true → ∀ later : List Event,
      (∀ event ∈ later, ∀ other, event ≠ .ackSent other) →
        (Machine.run step (session.step (.ackSent ack)) later).dialog.lastOutAck = some ack ∧
          ∀ (resp : Response) (cseqh : HeaderCseq), resp.cseq = some cseqh → cseqh.seqNumber = cseq →
            (Machine.run step (session.step (.ackSent ack)) later).dialog.handle200Ok resp = .ok true)

theorem run_formed {session : Session} (formed : Formed session) (events : List Event) :
    Formed (Machine.run step session events) := by
  have preserved : ∀ (session : Session) (event : Event), Formed session → Formed (session.step event) :=
    fun session event formed => step_formed formed event
  exact Machine.run_preserves preserved formed events

/-- Until another ACK is sent, the last one stays. -/
theorem run_lastOutAck {session : Session} (formed : Formed session) {events : List Event}
    (others : ∀ event ∈ events, ∀ other, event ≠ .ackSent other) :
    (Machine.run step session events).dialog.lastOutAck = session.dialog.lastOutAck := by
  induction events generalizing session with
  | nil => rfl
  | cons event rest ih =>
      have first := (step_stays formed (others event List.mem_cons_self)).lastOutAck
      have following := ih (step_formed formed event) fun other among => others other (List.mem_cons_of_mem _ among)
      rw [Machine.run_cons, following, first]

theorem step_ackSent {session : Session} (running : session.halted = false) (needed : session.dialog.needsAck = true)
    (ack : Request) : (session.step (.ackSent ack)).dialog.lastOutAck = some ack := by
  rw [step, running, if_neg Bool.false_ne_true, handle]
  show (session.dialog.sendAck ack).lastOutAck = some ack
  rw [Dialog.sendAck, if_pos needed]
  rfl

/-- Whatever has happened to a dialog before, an ACK that it creates for an INVITE has the number of that INVITE and
answers the later retransmissions of the 200 Ok exactly when the dialog has not counted further. -/
theorem ack_number_iff {start : Session} {initial : DialogTransaction} (created : Created start initial)
    (events : List Event) {cseq : Nat} {ack : Request}
    (made : (Machine.run step start events).dialog.createAck cseq = .ok (some ack)) :
    (Machine.run step start events).Acknowledges cseq ack ↔
      (Machine.run step start events).dialog.localCseq = cseq := by
  have formed := run_formed created.formed events
  generalize Machine.run step start events = session at made formed ⊢
  have numbered := (session.dialog.createAck_number cseq).elim made ack rfl
  constructor
  · intro acknowledges
    have same := acknowledges.1
    rw [numbered] at same
    exact Option.some.inj same
  · intro counted
    refine ⟨by rw [numbered, ← counted]; rfl, fun running needed later others => ?_⟩
    have last : (Machine.run step (session.step (.ackSent ack)) later).dialog.lastOutAck = some ack := by
      rw [run_lastOutAck (step_formed formed _) others]
      exact step_ackSent running needed ack
    refine ⟨last, fun resp cseqh answered same => ?_⟩
    rw [Dialog.handle200Ok_eq last numbered answered, same, counted, decide_eq_true rfl]

/-- A UAC that has sent an INVITE of CSeq number 20 and has created a dialog for it. -/
def outgoingCall : Session where
  dialog := {
    isServer := false
    localParty := some { uri := some { text := "sip:alice@10.0.0.1" }, tag := some "alice" }
    localTag := some "alice"
    lastTransaction := some 0 }
  transactions := [{ request := Dialog.peerRequest "INVITE" 20, state := .calling, origin := .dialog 0 }]
  drawn := 1
  emissions := [⟨0, 20, .dialog 0⟩]

theorem outgoingCall_created :
    Created outgoingCall { request := Dialog.peerRequest "INVITE" 20, state := .calling, origin := .dialog 0 } where
  only := rfl
  formable := ⟨nofun, nofun, nofun⟩
  queuedCt := rfl
  ackWait := rfl
  last := .inr ⟨rfl, rfl⟩

/-- A response of the called party with a Contact. -/
def inviteResponse (statusCode : Nat) : Response :=
  { Dialog.okResponse "INVITE" 20 with
    statusCode := statusCode
    fromHeader := some { uri := some { text := "sip:alice@10.0.0.1" }, tag := some "alice" }
    contact := some { uri := some { text := "sip:bob@10.0.0.2:5060" } } }

/-- The call rings and is answered. -/
def answeredInvite : List Event :=
  [.responded 0 .proceeding (inviteResponse 180), .responded 0 .accepted (inviteResponse 200)]

/-- The call rings, an UPDATE is created, and the call is answered. -/
def updatedInvite : List Event :=
  [.responded 0 .proceeding (inviteResponse 180), .createRequest "UPDATE", .responded 0 .accepted (inviteResponse 200)]

/-- The ACK of that call, with the number that the dialog has counted up to. -/
def outgoingAck (number : Nat) : Request where
  method := "ACK"
  uri := some { text := "sip:bob@10.0.0.2:5060" }
  callId := some "call"
  cseq := some { seqNumber := number, method := "ACK" }
  fromHeader := some { uri := some { text := "sip:alice@10.0.0.1" }, tag := some "alice" }
  toHeader := some { uri := some { text := "sip:bob@10.0.0.2" }, tag := some "bob" }
  vias := [{}]
  maxForwards := true

theorem ack_number_iff_answered :
    (Machine.run step outgoingCall answeredInvite).Acknowledges 20 (outgoingAck 20) ↔
      (Machine.run step outgoingCall answeredInvite).dialog.localCseq = 20 :=
  ack_number_iff outgoingCall_created answeredInvite (by decide)

/-- The ACK that is created after an UPDATE has the number of the UPDATE, and the repeated 200 Ok is not recognised. -/
theorem ack_number_updated :
    (Machine.run step outgoingCall updatedInvite).dialog.createAck 20 = .ok (some (outgoingAck 21)) ∧
      (Machine.run step outgoingCall updatedInvite).halted = false ∧
      (Machine.run step outgoingCall updatedInvite).dialog.needsAck = true ∧
      ((Machine.run step outgoingCall updatedInvite).step (.ackSent (outgoingAck 21))).dialog.handle200Ok
        (inviteResponse 200) = .ok false ∧
      ¬(Machine.run step outgoingCall updatedInvite).Acknowledges 20 (outgoingAck 21) := by
  refine ⟨by decide, by decide, by decide, by decide, fun acknowledges => ?_⟩
  have number := acknowledges.1
  revert number
  decide

end Session

end BelleSip
