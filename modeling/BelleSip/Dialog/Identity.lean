import BelleSip.Foundation.Apart
import BelleSip.Dialog.Search

/-
This file states what the functions of a dialog do to the identifiers that the provider finds it by.
-/

namespace BelleSip

open Foundation
open Foundation.Checked (OnReturn)

namespace Dialog

/-- The Call-ID, the local tag, and the remote tag. -/
def identity (dialog : Dialog) : Option String × Option String × Option String :=
  (dialog.callId, dialog.localTag, dialog.remoteTag)

/-- The response establishes a new dialog. -/
def establishing (dialog : Dialog) (req : Request) (resp : Option Response) : Bool :=
  dialog.state = .null && establishes req.method &&
    resp.any fun answer => 100 < answer.statusCode && answer.statusCode < 300

/-- The request and the response have the headers that the establishment reads, and a To tag. -/
def nameable (dialog : Dialog) (req : Request) (resp : Response) : Bool :=
  req.callId.isSome && req.cseq.isSome && req.vias.head?.isSome && resp.toHeader.any (·.tag.isSome) &&
    (!dialog.isServer || req.contact.isSome)

/-- The identifiers that the response gives a new dialog. -/
def namedBy (dialog : Dialog) (req : Request) (resp : Response) : Option String × Option String × Option String :=
  let toTag := resp.toHeader.bind (·.tag)
  if dialog.isServer then (req.callId, dialog.localTag.or toTag, dialog.remoteTag)
  else (req.callId, dialog.localTag, dialog.remoteTag.or toTag)

/-- A dialog that can be found has its identifiers, and a new one has the tag of its INVITE. -/
structure Proper (dialog : Dialog) : Prop where
  named : dialog.visible = true →
    dialog.callId.isSome = true ∧ dialog.localTag.isSome = true ∧ dialog.remoteTag.isSome = true
  party : if dialog.isServer then dialog.remoteTag.isSome = true else dialog.localTag.isSome = true
  armed : dialog.timer200OkEnd = true → dialog.visible = true
  targetless : dialog.state = .null → dialog.remoteTarget = none

/-- The dialog becomes neither new nor visible, and it keeps its identifiers as long as it is visible. -/
structure Keeps (before after : Dialog) : Prop where
  isServer : after.isServer = before.isServer
  identity : after.visible = true → before.visible = true ∧ after.identity = before.identity
  new : after.state = .null → before.state = .null
  localTag : before.isServer = false → after.localTag = before.localTag
  proper : before.Proper → after.Proper

/-- A new dialog gets its identifiers from a response. -/
structure Names (before : Dialog) (req : Request) (resp : Response) (after : Dialog) : Prop where
  isServer : after.isServer = before.isServer
  identity : after.visible = true → after.identity = before.namedBy req resp
  localTag : before.isServer = false → after.localTag = before.localTag
  proper : after.Proper

theorem visible_iff {dialog : Dialog} :
    dialog.visible = true ↔ dialog.state = .early ∨ dialog.state = .confirmed := by
  simp [visible]

namespace Keeps

theorem refl (dialog : Dialog) : Keeps dialog dialog :=
  ⟨rfl, fun seen => ⟨seen, rfl⟩, fun new => new, fun _ => rfl, fun proper => proper⟩

theorem trans {first second third : Dialog} (before : Keeps first second) (after : Keeps second third) :
    Keeps first third where
  isServer := after.isServer.trans before.isServer
  identity := by
    intro seen
    obtain ⟨middle, same⟩ := after.identity seen
    obtain ⟨first, again⟩ := before.identity middle
    exact ⟨first, same.trans again⟩
  new := before.new ∘ after.new
  localTag := fun client => (after.localTag (before.isServer.trans client)).trans (before.localTag client)
  proper := after.proper ∘ before.proper

/-- A change of fields that the search does not read. -/
theorem unread {before after : Dialog} (isServer : after.isServer = before.isServer)
    (state : after.state = before.state) (identity : after.identity = before.identity)
    (timer : after.timer200OkEnd = true → before.timer200OkEnd = true)
    (target : before.state = .null → after.remoteTarget = before.remoteTarget) : Keeps before after := by
  have seen : after.visible = before.visible := by simp [visible, state]
  simp only [Dialog.identity, Prod.mk.injEq] at identity
  obtain ⟨callId, localTag, remoteTag⟩ := identity
  refine ⟨isServer, ?_, ?_, fun _ => localTag, ?_⟩
  · intro visible
    exact ⟨seen.symm.trans visible, by simp [Dialog.identity, callId, localTag, remoteTag]⟩
  · exact fun new => state.symm.trans new
  · intro proper
    refine ⟨?_, ?_, ?_, ?_⟩
    · intro visible
      rw [callId, localTag, remoteTag]
      exact proper.named (seen.symm.trans visible)
    · rw [isServer, localTag, remoteTag]
      exact proper.party
    · exact fun armed => seen.trans (proper.armed (timer armed))
    · intro new
      have old := state.symm.trans new
      exact (target old).trans (proper.targetless old)

theorem delete (dialog : Dialog) : Keeps dialog dialog.delete where
  isServer := rfl
  identity := nofun
  new := nofun
  localTag := fun _ => rfl
  proper := fun proper => ⟨nofun, proper.party, nofun, nofun⟩

theorem settle {before dialog : Dialog} (keeps : Keeps before dialog) (verdict : Verdict) :
    Keeps before (dialog.settle verdict).1 := by
  cases verdict with
  | keep => exact keeps.trans (.unread rfl rfl rfl id fun _ => rfl)
  | delete => exact keeps.trans (.delete dialog)
  | retransmission => exact keeps

end Keeps

variable {dialog : Dialog} {req : Request} {resp : Response}

/-- A response of an established dialog does not change its tags. -/
theorem setToTag_proper (tagged : dialog.localTag.isSome = true ∧ dialog.remoteTag.isSome = true)
    (toHeader : Option TaggedAddress) : OnReturn (dialog.setToTag toHeader) fun after => after = dialog := by
  obtain ⟨someLocal, someRemote⟩ := tagged
  obtain ⟨localTag, hasLocal⟩ := Option.isSome_iff_exists.mp someLocal
  obtain ⟨remoteTag, hasRemote⟩ := Option.isSome_iff_exists.mp someRemote
  unfold setToTag
  apply Checked.onReturn_bind.mpr
  apply Checked.onReturn_deref.mpr
  intro header _
  split
  · apply Checked.onReturn_pure.mpr
    rw [hasLocal, Option.some_or, ← hasLocal]
  · apply Checked.onReturn_pure.mpr
    rw [hasRemote, Option.some_or, ← hasRemote]

/-- A dialog with its tags is confirmed and keeps them, unless there is no Contact. -/
theorem establishFull_tagged (tagged : dialog.localTag.isSome = true ∧ dialog.remoteTag.isSome = true) (req : Request)
    (resp : Response) :
    OnReturn (dialog.establishFull req resp) fun (after, _) =>
      after.isServer = dialog.isServer ∧ after.identity = dialog.identity ∧
        (after.state = .confirmed ∨ after.state = dialog.state ∧ after.timer200OkEnd = dialog.timer200OkEnd ∧
          after.remoteTarget = none) := by
  have confirmed : ∀ middle : Dialog, middle.isServer = dialog.isServer → middle.identity = dialog.identity →
      OnReturn (middle.setToTag resp.toHeader >>= fun tagged => pure (tagged.setState .confirmed, true))
        fun (after, _) => after.isServer = dialog.isServer ∧ after.identity = dialog.identity ∧
          (after.state = .confirmed ∨ after.state = dialog.state ∧
            after.timer200OkEnd = dialog.timer200OkEnd ∧ after.remoteTarget = none) := by
    intro middle isServer identity
    have same := identity
    simp only [Dialog.identity, Prod.mk.injEq] at same
    have middleTagged : middle.localTag.isSome = true ∧ middle.remoteTag.isSome = true := by
      rw [same.2.1, same.2.2]
      exact tagged
    apply Checked.onReturn_bind.mpr
    apply (setToTag_proper middleTagged resp.toHeader).mono
    intro after equal
    rw [equal]
    exact Checked.onReturn_pure.mpr ⟨isServer, identity, .inl rfl⟩
  unfold establishFull
  extract_lets middle armed
  have isServer : middle.isServer = dialog.isServer := by
    dsimp only [middle]
    split <;> rfl
  have identity : middle.identity = dialog.identity := by
    dsimp only [middle]
    split <;> rfl
  have state : middle.state = dialog.state := by
    dsimp only [middle]
    split <;> rfl
  have timer : middle.timer200OkEnd = dialog.timer200OkEnd := by
    dsimp only [middle]
    split <;> rfl
  clear_value middle
  split
  · apply confirmed
    · dsimp only [armed]
      split <;> exact isServer
    · dsimp only [armed]
      split <;> exact identity
  · split
    · next nowhere =>
        apply Checked.onReturn_pure.mpr
        exact ⟨isServer, identity, .inr ⟨state, timer, (Option.or_eq_none_iff.mp nowhere).2⟩⟩
    · exact confirmed _ isServer identity

theorem updateEarly_keeps (proper : dialog.Proper) (early : dialog.state = .early) (req : Request) (resp : Response) :
    OnReturn (dialog.updateEarly req resp) fun (after, _) => Keeps dialog after := by
  have seen : dialog.visible = true := visible_iff.mpr (.inl early)
  obtain ⟨callId, tagged⟩ := proper.named seen
  unfold updateEarly
  split
  · exact Checked.onReturn_pure.mpr (.refl dialog)
  · split
    · apply Checked.onReturn_bind.mpr
      apply (establishFull_tagged tagged req resp).mono
      rintro ⟨after, _⟩ ⟨isServer, identity, outcome⟩
      apply Checked.onReturn_pure.mpr
      rcases outcome with confirmed | ⟨state, timer, _⟩
      · have same := identity
        simp only [Dialog.identity, Prod.mk.injEq] at same
        refine ⟨isServer, fun _ => ⟨seen, identity⟩, ?_, fun _ => same.2.1, ?_⟩
        · intro new
          rw [confirmed] at new
          cases new
        · intro _
          refine ⟨?_, ?_, fun _ => visible_iff.mpr (.inr confirmed), ?_⟩
          · intro _
            rw [same.1, same.2.1, same.2.2]
            exact ⟨callId, tagged⟩
          · rw [isServer, same.2.1, same.2.2]
            exact proper.party
          · intro new
            rw [confirmed] at new
            cases new
      · apply Keeps.unread isServer state identity
        · exact fun armed => timer.symm.trans armed
        · intro new
          rw [early] at new
          cases new
    · exact Checked.onReturn_pure.mpr (.refl dialog)

/-- The initialisation leaves what the search reads. -/
structure Initialised (before after : Dialog) : Prop where
  isServer : after.isServer = before.isServer
  identity : after.identity = before.identity
  state : after.state = before.state
  timer : after.timer200OkEnd = before.timer200OkEnd

theorem initAsUas_initialised (dialog : Dialog) {contact : HeaderAddress} {toHeader : TaggedAddress} {cseq : HeaderCseq}
    {via : HeaderVia} (hasContact : req.contact = some contact) (hasTo : resp.toHeader = some toHeader)
    (hasCseq : req.cseq = some cseq) (hasVia : req.vias.head? = some via) :
    OnReturn (dialog.initAsUas req resp) fun result => ∃ after, result = some after ∧ Initialised dialog after := by
  simp only [initAsUas, hasContact, hasTo, hasCseq, hasVia, checkSecure_eq, Checked.ok_bind]
  exact ⟨_, rfl, rfl, rfl, rfl, rfl⟩

theorem initAsUac_initialised (dialog : Dialog) {toHeader : TaggedAddress} {cseq : HeaderCseq} {via : HeaderVia}
    (hasTo : resp.toHeader = some toHeader) (hasCseq : req.cseq = some cseq) (hasVia : req.vias.head? = some via) :
    OnReturn (dialog.initAsUac req resp) fun result => ∃ after, result = some after ∧ Initialised dialog after := by
  simp only [initAsUac, hasTo, hasCseq, hasVia, checkSecure_eq, Checked.ok_bind]
  apply Checked.onReturn_pure.mpr
  split <;> exact ⟨_, rfl, rfl, rfl, rfl, rfl⟩

/-- A new dialog that a response establishes has the identifiers that the response gives it. -/
structure Established (before : Dialog) (req : Request) (resp : Response) (after : Dialog) : Prop where
  isServer : after.isServer = before.isServer
  identity : after.identity = before.namedBy req resp
  localTag : before.isServer = false → after.localTag = before.localTag
  state : after.state = .null
  timer : after.timer200OkEnd = before.timer200OkEnd
  named : after.callId.isSome = true ∧ after.localTag.isSome = true ∧ after.remoteTag.isSome = true

theorem establish_named (proper : dialog.Proper) (new : dialog.state = .null)
    (nameable : dialog.nameable req resp = true) :
    OnReturn (dialog.establish req resp) fun (after, _) => Established dialog req resp after := by
  simp only [Dialog.nameable, Bool.and_eq_true, Option.isSome_iff_exists, Option.any_eq_true] at nameable
  obtain ⟨⟨⟨⟨⟨callId, hasCallId⟩, cseq, hasCseq⟩, via, hasVia⟩, toHeader, hasTo, tag, hasTag⟩, contact⟩ := nameable
  have party := proper.party
  have tagged : ∀ middle : Dialog, Initialised { dialog with callId := some callId } middle →
      OnReturn (middle.setToTag (some toHeader)) fun after => Established dialog req resp after := by
    intro middle ⟨isServer, identity, state, timer⟩
    simp only [Dialog.identity, Prod.mk.injEq] at identity
    obtain ⟨sameCallId, localTag, remoteTag⟩ := identity
    rw [setToTag_some]
    apply Checked.onReturn_ok.mpr
    split
    · next server =>
        have role : dialog.isServer = true := isServer.symm.trans server
        rw [if_pos role] at party
        refine ⟨isServer, ?_, ?_, state.trans new, timer, ?_⟩
        · simp [Dialog.identity, namedBy, role, hasCallId, hasTo, sameCallId, localTag, remoteTag]
        · intro client
          rw [role] at client
          cases client
        · simp [sameCallId, hasTag, remoteTag, party]
    · next client =>
        have role : dialog.isServer = false := isServer.symm.trans (Bool.eq_false_iff.mpr client)
        rw [role, if_neg Bool.false_ne_true] at party
        refine ⟨isServer, ?_, fun _ => localTag, state.trans new, timer, ?_⟩
        · simp [Dialog.identity, namedBy, role, hasCallId, hasTo, sameCallId, localTag, remoteTag]
        · simp [sameCallId, hasTag, localTag, party]
  have finished : ∀ result : Option Dialog, (∃ middle, result = some middle ∧
      Initialised { dialog with callId := some callId } middle) → ∃ middle, result = some middle ∧
        OnReturn (middle.setToTag (some toHeader) >>= fun tagged => pure (tagged, true))
          fun (after, _) => Established dialog req resp after := by
    intro result ⟨middle, same, initialised⟩
    refine ⟨middle, same, Checked.onReturn_bind.mpr ?_⟩
    exact (tagged middle initialised).mono fun after established => established
  unfold establish
  rw [if_neg (by simp [new]), hasCallId, hasTo]
  dsimp only
  split
  · next server =>
      simp only [server, Bool.not_true, Bool.false_or, Option.isSome_iff_exists] at contact
      obtain ⟨target, hasContact⟩ := contact
      apply Checked.onReturn_bind.mpr
      apply (initAsUas_initialised _ hasContact hasTo hasCseq hasVia).mono
      intro result found
      obtain ⟨middle, same, ends⟩ := finished result found
      rw [same]
      exact ends
  · apply Checked.onReturn_bind.mpr
    apply (initAsUac_initialised _ hasTo hasCseq hasVia).mono
    intro result found
    obtain ⟨middle, same, ends⟩ := finished result found
    rw [same]
    exact ends

/-- A new dialog stays as it is unless the response establishes it. -/
theorem updateNull_keeps (new : dialog.state = .null) (req : Request) (resp : Response)
    (other : dialog.establishing req (some resp) = false) :
    OnReturn (dialog.updateNull req resp) fun (after, _) => Keeps dialog after := by
  simp only [establishing, new, decide_true, Bool.true_and, Option.any_some] at other
  unfold updateNull
  split
  · next starts => simp [starts.1, starts.2.1, starts.2.2] at other
  · unfold updateEarly
    split
    · exact Checked.onReturn_pure.mpr (.refl dialog)
    · next notRefused =>
        split
        · next accepted =>
            have below : resp.statusCode < 300 := by
              apply Nat.lt_of_not_le
              intro failure
              exact notRefused ⟨accepted.1, failure⟩
            have above : 100 < resp.statusCode := by omega
            simp [accepted.1, above, below] at other
        · exact Checked.onReturn_pure.mpr (.refl dialog)

/-- A response that establishes a new dialog gives it its identifiers. -/
theorem updateNull_names (proper : dialog.Proper) (starts : dialog.establishing req (some resp) = true)
    (nameable : dialog.nameable req resp = true) :
    OnReturn (dialog.updateNull req resp) fun (after, _) => Names dialog req resp after := by
  simp only [establishing, Bool.and_eq_true, decide_eq_true_eq, Option.any_some] at starts
  obtain ⟨⟨new, method⟩, above, below⟩ := starts
  have unarmed : dialog.timer200OkEnd = false := by
    apply Bool.eq_false_iff.mpr
    intro armed
    have seen := proper.armed armed
    simp [visible, new] at seen
  have party : ∀ after : Dialog, after.localTag.isSome = true ∧ after.remoteTag.isSome = true →
      (if after.isServer then after.remoteTag.isSome = true else after.localTag.isSome = true) := by
    intro after tagged
    split
    · exact tagged.2
    · exact tagged.1
  unfold updateNull
  rw [if_pos ⟨method, above, below⟩]
  apply Checked.onReturn_bind.mpr
  apply (establish_named proper new nameable).mono
  rintro ⟨middle, _⟩ established
  dsimp only
  split
  · apply Checked.onReturn_pure.mpr
    refine ⟨established.isServer, fun _ => established.identity, established.localTag, ?_⟩
    refine ⟨fun _ => established.named, party _ established.named.2, fun _ => rfl, ?_⟩
    intro stays
    cases stays
  · next notProvisional =>
      unfold updateEarly
      rw [if_neg (by omega), if_pos ⟨method, Nat.le_of_not_lt notProvisional⟩]
      apply Checked.onReturn_bind.mpr
      apply (establishFull_tagged established.named.2 req resp).mono
      rintro ⟨after, _⟩ ⟨isServer, identity, outcome⟩
      apply Checked.onReturn_pure.mpr
      have same := identity
      simp only [Dialog.identity, Prod.mk.injEq] at same
      have named : after.callId.isSome = true ∧ after.localTag.isSome = true ∧ after.remoteTag.isSome = true := by
        rw [same.1, same.2.1, same.2.2]
        exact established.named
      refine ⟨isServer.trans established.isServer, fun _ => identity.trans established.identity,
        fun client => same.2.1.trans (established.localTag client), fun _ => named, party after named.2, ?_, ?_⟩
      · intro armed
        rcases outcome with confirmed | ⟨_, timer, _⟩
        · exact visible_iff.mpr (.inr confirmed)
        · rw [timer, established.timer, unarmed] at armed
          cases armed
      · intro stays
        rcases outcome with confirmed | ⟨_, _, nowhere⟩
        · rw [confirmed] at stays
          cases stays
        · exact nowhere

theorem updateReinvite_keeps (confirmed : dialog.state = .confirmed) (req : Request) (resp : Response) (asUas : Bool) :
    OnReturn (dialog.updateReinvite req resp asUas) fun (after, _) => Keeps dialog after := by
  have retargets : ∀ (middle : Dialog) (contact : Option HeaderAddress), Keeps dialog middle →
      middle.state = .confirmed → OnReturn (middle.refreshTarget contact) (Keeps dialog) := by
    intro middle contact keeps state
    cases contact with
    | none => exact Checked.onReturn_pure.mpr keeps
    | some contact =>
        unfold refreshTarget
        simp only [Checked.onReturn_bind, Checked.onReturn_deref, Checked.onReturn_pure]
        intro _ _
        apply keeps.trans
        refine .unread rfl rfl rfl id ?_
        intro new
        rw [state] at new
        cases new
  unfold updateReinvite
  split
  · apply Checked.onReturn_bind.mpr
    apply (retargets _ _ _ _).mono
    · intro target keeps
      apply Checked.onReturn_bind.mpr
      generalize target.retransmits resp asUas = decision
      cases decision with
      | error fault => trivial
      | ok retransmission =>
          apply Checked.onReturn_ok.mpr
          split
          · exact Checked.onReturn_pure.mpr keeps
          · exact Checked.onReturn_pure.mpr (keeps.trans (.unread rfl rfl rfl id fun _ => rfl))
    · split
      · exact .refl dialog
      · exact .unread rfl rfl rfl id fun _ => rfl
    · split <;> exact confirmed
  · split
    · exact Checked.onReturn_pure.mpr (.unread rfl rfl rfl id fun _ => rfl)
    · exact Checked.onReturn_pure.mpr (.refl dialog)

/-- What an update does to the identifiers of a dialog. -/
def Identifies (before : Dialog) (req : Request) (resp : Option Response) (after : Dialog) : Prop :=
  Keeps before after ∨ before.establishing req resp = true ∧ ∃ answer, resp = some answer ∧
    Names before req answer after

theorem updateState_identifies (proper : dialog.Proper) {resp : Option Response}
    (nameable : ∀ answer, resp = some answer → dialog.establishing req resp = true →
      dialog.nameable req answer = true) (terminated asUas : Bool) :
    OnReturn (dialog.updateState req resp terminated asUas) fun (after, _) =>
      Identifies dialog req resp after := by
  have bye : Keeps dialog dialog.updateBye.1 := .unread rfl rfl rfl id fun _ => rfl
  unfold updateState
  split
  · next answer new =>
      cases starts : dialog.establishing req (some answer) with
      | true =>
          apply (updateNull_names proper starts (nameable answer rfl starts)).mono
          rintro ⟨after, _⟩ names
          exact .inr ⟨starts, answer, rfl, names⟩
      | false =>
          apply (updateNull_keeps new req answer starts).mono
          rintro ⟨after, _⟩ keeps
          exact .inl keeps
  · next answer early =>
      apply (updateEarly_keeps proper early req answer).mono
      rintro ⟨after, _⟩ keeps
      exact .inl keeps
  · next answer confirmed =>
      split
      · apply (updateReinvite_keeps confirmed req answer asUas).mono
        rintro ⟨after, _⟩ keeps
        exact .inl keeps
      · split
        · exact Checked.onReturn_pure.mpr (.inl bye)
        · exact Checked.onReturn_pure.mpr (.inl (.refl dialog))
  · split
    · exact Checked.onReturn_pure.mpr (.inl bye)
    · exact Checked.onReturn_pure.mpr (.inl (.refl dialog))
  · exact Checked.onReturn_pure.mpr (.inl (.refl dialog))

/-- The transaction that updates a dialog leaves its identifiers. -/
theorem touch_keeps (dialog : Dialog) (transaction : TransactionId) (req : Request) (asUas : Bool) :
    OnReturn (dialog.touch transaction req asUas) fun after => Keeps dialog after ∧ after.state = dialog.state ∧
      after.isServer = dialog.isServer ∧ after.identity = dialog.identity := by
  unfold touch
  split
  · apply Checked.onReturn_bind.mpr
    apply Checked.onReturn_deref.mpr
    intro cseq _
    exact Checked.onReturn_pure.mpr ⟨.unread rfl rfl rfl id fun _ => rfl, rfl, rfl, rfl⟩
  · exact Checked.onReturn_pure.mpr ⟨.unread rfl rfl rfl id fun _ => rfl, rfl, rfl, rfl⟩

theorem Names.settle {before dialog : Dialog} (names : Names before req resp dialog) (verdict : Verdict) :
    Names before req resp (dialog.settle verdict).1 := by
  have settled := (Keeps.refl dialog).settle verdict
  refine ⟨settled.isServer.trans names.isServer, ?_, ?_, settled.proper names.proper⟩
  · intro seen
    obtain ⟨visible, same⟩ := settled.identity seen
    exact same.trans (names.identity visible)
  · intro client
    exact (settled.localTag (names.isServer.trans client)).trans (names.localTag client)

theorem update_identifies (proper : dialog.Proper) {resp : Option Response}
    (nameable : ∀ answer, resp = some answer → dialog.establishing req resp = true →
      dialog.nameable req answer = true) (transaction : TransactionId) (terminated asUas : Bool) :
    OnReturn (dialog.update transaction req resp terminated asUas) fun (after, _) =>
      Identifies dialog req resp after := by
  unfold update
  apply Checked.onReturn_bind.mpr
  apply (touch_keeps dialog transaction req asUas).mono
  intro touched ⟨keeps, state, isServer, identity⟩
  have starts : touched.establishing req resp = dialog.establishing req resp := by
    simp [establishing, state]
  have same := identity
  simp only [Dialog.identity, Prod.mk.injEq] at same
  have suits : ∀ answer, touched.nameable req answer = dialog.nameable req answer := by
    intro answer
    simp [Dialog.nameable, isServer]
  have named : ∀ answer, touched.namedBy req answer = dialog.namedBy req answer := by
    intro answer
    simp [namedBy, isServer, same.2.1, same.2.2]
  have still : ∀ answer, resp = some answer → touched.establishing req resp = true →
      touched.nameable req answer = true := by
    intro answer answered establishing
    rw [suits]
    exact nameable answer answered (starts.symm.trans establishing)
  apply Checked.onReturn_bind.mpr
  apply (updateState_identifies (keeps.proper proper) still terminated asUas).mono
  rintro ⟨middle, verdict⟩ identifies
  apply Checked.onReturn_pure.mpr
  rcases identifies with stays | ⟨establishing, answer, answered, names⟩
  · exact .inl ((keeps.trans stays).settle verdict)
  · have settled := names.settle verdict
    refine .inr ⟨starts.symm.trans establishing, answer, answered, settled.isServer.trans isServer, ?_, ?_,
      settled.proper⟩
    · intro seen
      exact (settled.identity seen).trans (named answer)
    · intro client
      exact (settled.localTag (isServer.trans client)).trans same.2.1

theorem buildRequest_target (dialog : Dialog) (method : String) (full : Bool) :
    OnReturn (dialog.buildRequest method full) fun _ => dialog.remoteTarget.isSome = true := by
  unfold buildRequest
  apply Checked.onReturn_bind.mpr
  apply Checked.onReturn_deref.mpr
  intro target has
  rw [has]
  simp only [Checked.onReturn_bind, Checked.onReturn_deref, Checked.onReturn_pure, Option.isSome_some, implies_true]

/-- Only a dialog that can be found creates a request. -/
theorem createRequest_keeps (dialog : Dialog) (pending : Bool) (method : String) :
    OnReturn (dialog.createRequest pending method) fun (after, req) =>
      Keeps dialog after ∧ (req.isSome = true → dialog.visible = true) := by
  unfold createRequest
  split
  · next may =>
      apply Checked.onReturn_bind.mpr
      apply (buildRequest_target _ method true).mono
      intro req _
      exact Checked.onReturn_pure.mpr ⟨.unread rfl rfl rfl id fun _ => rfl, fun _ => mayCreate_visible may⟩
  · exact Checked.onReturn_pure.mpr ⟨.refl dialog, nofun⟩

theorem createQueuedRequest_target (dialog : Dialog) (method : String) :
    OnReturn (dialog.createQueuedRequest method) fun req =>
      req.isSome = true → dialog.remoteTarget.isSome = true := by
  unfold createQueuedRequest
  split
  · exact Checked.onReturn_pure.mpr nofun
  · apply Checked.onReturn_bind.mpr
    apply (buildRequest_target dialog method false).mono
    intro req has
    exact Checked.onReturn_pure.mpr fun _ => has

/-- A queued request gets its number and the route set of the dialog, and it keeps who it is from. -/
theorem updateRequest_keeps (dialog : Dialog) (req : Request) :
    OnReturn (dialog.updateRequest req) fun (after, new) => Keeps dialog after ∧ new.method = req.method ∧
      new.callId = req.callId ∧ new.fromHeader = req.fromHeader := by
  apply Checked.onReturn_bind.mpr
  apply Checked.onReturn_deref.mpr
  intro cseq _
  apply Checked.onReturn_bind.mpr
  apply Checked.onReturn_deref.mpr
  intro target _
  exact Checked.onReturn_pure.mpr ⟨.unread rfl rfl rfl id fun _ => rfl, rfl, rfl, rfl⟩

theorem sendAck_keeps (dialog : Dialog) (ack : Request) : Keeps dialog (dialog.sendAck ack) := by
  unfold sendAck
  split
  · exact .unread rfl rfl rfl id fun _ => rfl
  · exact .refl dialog

theorem handleAck_keeps (dialog : Dialog) (ack : Request) :
    OnReturn (dialog.handleAck ack) fun (after, _) => Keeps dialog after := by
  unfold handleAck
  split
  · apply Checked.onReturn_bind.mpr
    apply Checked.onReturn_deref.mpr
    intro cseq _
    split
    · exact Checked.onReturn_pure.mpr (.unread rfl rfl rfl nofun fun _ => rfl)
    · exact Checked.onReturn_pure.mpr (.refl dialog)
  · exact Checked.onReturn_pure.mpr (.refl dialog)

theorem checkAckSent_keeps (dialog : Dialog) (pending : Bool) :
    OnReturn (dialog.checkAckSent pending) fun (after, bye) =>
      Keeps dialog after ∧ (bye.isSome = true → dialog.visible = true) := by
  unfold checkAckSent
  split
  · apply Checked.onReturn_bind.mpr
    apply (createRequest_keeps dialog pending "BYE").mono
    rintro ⟨after, req⟩ ⟨keeps, seen⟩
    apply Checked.onReturn_bind.mpr
    apply Checked.onReturn_deref.mpr
    intro bye made
    apply Checked.onReturn_pure.mpr
    exact ⟨keeps, fun _ => seen (by simp [made])⟩
  · exact Checked.onReturn_pure.mpr ⟨.refl dialog, nofun⟩

/-- The timer runs in a dialog that can be found, and it leaves such a dialog. -/
theorem on200OkEnd_keeps (proper : dialog.Proper) (armed : dialog.timer200OkEnd = true) (pending : Bool) :
    OnReturn (dialog.on200OkEnd pending) fun (after, _) => Keeps dialog after := by
  have seen := proper.armed armed
  have confirmed : Keeps dialog { dialog.stop200OkRetrans with state := .confirmed } :=
    ⟨rfl, fun _ => ⟨seen, rfl⟩, nofun, fun _ => rfl, fun _ => ⟨fun _ => proper.named seen, proper.party, nofun, nofun⟩⟩
  unfold on200OkEnd
  apply Checked.onReturn_bind.mpr
  apply (createRequest_keeps _ pending "BYE").mono
  rintro ⟨after, req⟩ ⟨keeps, _⟩
  apply Checked.onReturn_bind.mpr
  apply Checked.onReturn_deref.mpr
  intro bye _
  exact Checked.onReturn_pure.mpr (confirmed.trans keeps)

/-- The provider can tell the dialogs apart. -/
def Differs (one other : Dialog) : Prop :=
  one.visible = true → other.visible = true → one.identity ≠ other.identity

theorem sought_iff {callId localTag remoteTag : String} :
    dialog.sought callId localTag remoteTag = true ↔
      dialog.visible = true ∧ dialog.identity = (some callId, some localTag, some remoteTag) := by
  simp [sought, Dialog.identity, and_assoc]

/-- A dialog that can be found is compared with the identifiers of a message. -/
theorem matchTags_proper (proper : dialog.Proper) (seen : dialog.visible = true) (callId localTag remoteTag : String) :
    dialog.matchTags (some callId) (some localTag) (some remoteTag) =
      .ok (dialog.sought callId localTag remoteTag) := by
  obtain ⟨hasCallId, hasLocal, hasRemote⟩ := proper.named seen
  obtain ⟨ownCallId, isCallId⟩ := Option.isSome_iff_exists.mp hasCallId
  obtain ⟨ownLocal, isLocal⟩ := Option.isSome_iff_exists.mp hasLocal
  obtain ⟨ownRemote, isRemote⟩ := Option.isSome_iff_exists.mp hasRemote
  have old : dialog.state ≠ .null := by
    intro new
    simp [visible, new] at seen
  unfold matchTags sought
  rw [if_neg old, isCallId, isLocal, isRemote, seen]
  simp only [Checked.sameText, Checked.ok_bind]
  by_cases sameCallId : ownCallId = callId
  · by_cases sameLocal : ownLocal = localTag
    · simp [sameCallId, sameLocal]
    · simp [sameCallId, sameLocal, pure, Except.pure]
  · simp [sameCallId, pure, Except.pure]

end Dialog

open Dialog

/-- The search finds no second dialog when the provider can tell the dialogs apart. -/
theorem onlyMatching_returns {callId localTag remoteTag : String} {entries : List (Dialog × DialogId)}
    (proper : ∀ entry ∈ entries, entry.1.Proper) (apart : Apart (fun one other => Differs one.1 other.1) entries)
    {found : Option DialogId}
    (only : found ≠ none → ∀ entry ∈ entries, entry.1.sought callId localTag remoteTag = false) :
    Checked.Returns (onlyMatching callId localTag remoteTag found entries)
      (Finds callId localTag remoteTag entries found) := by
  induction entries generalizing found with
  | nil =>
      refine ⟨found, rfl, ?_⟩
      cases found <;> simp [Finds]
  | cons entry rest ih =>
      obtain ⟨dialog, id⟩ := entry
      have restProper : ∀ entry ∈ rest, entry.1.Proper :=
        fun entry among => proper entry (List.mem_cons_of_mem _ among)
      obtain ⟨first, restApart⟩ := List.pairwise_cons.mp apart
      have restOnly : found ≠ none → ∀ entry ∈ rest, entry.1.sought callId localTag remoteTag = false :=
        fun already entry among => only already entry (List.mem_cons_of_mem _ among)
      unfold onlyMatching
      split
      · next seen =>
          rw [matchTags_proper (proper (dialog, id) List.mem_cons_self) seen, Checked.ok_bind]
          split
          · next sought =>
              have others : ∀ entry ∈ rest, entry.1.sought callId localTag remoteTag = false := by
                intro entry among
                apply Bool.eq_false_iff.mpr
                intro again
                obtain ⟨_, identity⟩ := sought_iff.mp sought
                obtain ⟨alsoSeen, same⟩ := sought_iff.mp again
                exact (first entry among).1 seen alsoSeen (identity.trans same.symm)
              cases already : found with
              | some other =>
                  rw [already] at only
                  rw [only (by simp) (dialog, id) List.mem_cons_self] at sought
                  cases sought
              | none =>
                  apply (ih restProper restApart (fun _ => others)).mono
                  intro result finds
                  exact finds.take sought
          · next differs =>
              apply (ih restProper restApart restOnly).mono
              intro result finds
              exact finds.skip (Bool.eq_false_iff.mpr differs) id
      · next unseen =>
          apply (ih restProper restApart restOnly).mono
          intro result finds
          exact finds.skip (by simp [sought, unseen]) id

theorem searchOrder_apart {dialogs : List Dialog} (apart : Apart Differs dialogs) :
    Apart (fun one other : Dialog × DialogId => Differs one.1 other.1) (searchOrder dialogs) := by
  unfold searchOrder Apart
  apply List.pairwise_reverse.mpr
  have indexed : dialogs.zipIdx.Pairwise fun one other => Differs one.1 other.1 ∧ Differs other.1 one.1 := by
    have mapped : (dialogs.zipIdx.map Prod.fst).Pairwise fun one other => Differs one other ∧ Differs other one := by
      rw [List.zipIdx_map_fst]
      exact apart
    exact List.pairwise_map.mp mapped
  exact indexed.imp fun both => both.symm

/-- The identifiers of a message lead to one dialog at most, and to none only when no dialog has them. -/
theorem findDialogFromMessage_returns {dialogs : List Dialog} (proper : ∀ dialog ∈ dialogs, dialog.Proper)
    (apart : Apart Differs dialogs) (message : Headers) (asUas : Bool) :
    Checked.Returns (findDialogFromMessage dialogs message asUas) fun found =>
      (∀ id, found = some id → ∃ dialog, dialogs[id]? = some dialog ∧ dialog.visible = true) ∧
      (asUas = false → found = none → ∀ callId fromTag toTag, message.callId = some callId →
        message.fromHeader.bind (·.tag) = some fromTag → message.toHeader.bind (·.tag) = some toTag →
          ∀ dialog ∈ dialogs, dialog.visible = true →
            dialog.identity ≠ (some callId, some fromTag, some toTag)) := by
  unfold findDialogFromMessage
  split
  · next toTag callId fromTag hasTo hasCallId hasFrom =>
      have listed : ∀ entry ∈ searchOrder dialogs, entry.1.Proper := fun entry among =>
        proper entry.1 (List.mem_of_getElem? (mem_searchOrder.mp among))
      apply (onlyMatching_returns listed (searchOrder_apart apart) (fun already => absurd rfl already)).mono
      intro found finds
      constructor
      · intro id same
        rw [same] at finds
        rcases finds with none | ⟨dialog, among, sought⟩
        · cases none
        · exact ⟨dialog, mem_searchOrder.mp among, (sought_iff.mp sought).1⟩
      · intro asUac nothing other otherFrom otherTo sameCallId sameFrom sameTo dialog among seen identity
        rw [nothing] at finds
        obtain ⟨id, present⟩ := List.mem_iff_getElem?.mp among
        have unsought := finds.2 dialog id (mem_searchOrder.mpr present)
        simp only [asUac, Bool.false_eq_true, if_false] at unsought
        rw [hasCallId] at sameCallId
        rw [hasFrom] at sameFrom
        rw [hasTo] at sameTo
        cases sameCallId
        cases sameFrom
        cases sameTo
        rw [sought_iff.mpr ⟨seen, identity⟩] at unsought
        cases unsought
  · next incomplete =>
      refine ⟨none, rfl, nofun, ?_⟩
      intro _ _ callId fromTag toTag hasCallId hasFrom hasTo
      exact absurd hasFrom (incomplete toTag callId fromTag hasTo hasCallId)

end BelleSip
