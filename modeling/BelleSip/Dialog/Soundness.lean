import BelleSip.Dialog.Directory

/-
This file proves that a dialog keeps the fields from which it builds its requests.
-/

namespace BelleSip

open Foundation

/-- A request can be sent to an address with a SIP URI. -/
def HeaderAddress.usable (address : HeaderAddress) : Bool := address.uri.isSome

namespace Dialog

/-- The fields that `create_request` reads are set. -/
def complete (dialog : Dialog) : Bool :=
  dialog.callId.isSome && dialog.localParty.isSome && dialog.remoteParty.isSome &&
    dialog.localTag.isSome && dialog.remoteTarget.any (·.usable)

variable {dialog : Dialog} {req : Request} {resp : Response} {before middle after : Dialog}

theorem complete_iff :
    dialog.complete = true ↔
      dialog.callId.isSome ∧ dialog.localParty.isSome ∧ dialog.remoteParty.isSome ∧
        dialog.localTag.isSome ∧ ∃ target, dialog.remoteTarget = some target ∧ target.usable = true := by
  simp [complete, Option.any_eq_true, and_assoc]

/-- What a dialog satisfies as long as the responses that establish it are complete. -/
structure Sound (dialog : Dialog) : Prop where
  complete : dialog.visible = true → dialog.complete = true
  server : dialog.isServer = true → dialog.remoteTag.isSome ∧ dialog.remoteParty.isSome
  client : dialog.isServer = false → dialog.localTag.isSome ∧ dialog.localParty.isSome
  fresh : dialog.state = .null → dialog.remoteTarget = none
  waits : dialog.needsAck = true → dialog.state = .confirmed ∨ dialog.state = .terminated
  timed : dialog.timer200OkEnd = true → dialog.state = .confirmed
  invited : ∀ invite, dialog.lastOutInvite = some invite → invite.cseq.isSome ∧ dialog.complete = true
  acked : ∀ ack, dialog.lastOutAck = some ack → ack.cseq.isSome

/-- What an operation on a dialog keeps. -/
structure Follows (before after : Dialog) : Prop where
  sound : after.Sound
  complete : before.complete = true → after.complete = true
  role : after.isServer = before.isServer
  aged : after.state = .null → before.state = .null
  queue : after.queuedCt = before.queuedCt ∨ after.queuedCt = []

/-- The request and the response name all that establishes a dialog. -/
def establishable (dialog : Dialog) (req : Request) (resp : Response) : Bool :=
  req.callId.isSome && req.cseq.isSome && req.vias.head?.isSome && resp.toHeader.isSome &&
    if dialog.isServer then req.contact.any (·.usable) else resp.contact.any (·.usable)

/-- The condition on a response that updates a new dialog.

A client that gets a 2xx to a SUBSCRIBE without Contact leaves its dialog new. -/
def admitsNew (dialog : Dialog) (req : Request) (resp : Response) : Bool :=
  !establishes req.method || resp.statusCode ≤ 100 || 300 ≤ resp.statusCode ||
    dialog.establishable req resp ||
      (!dialog.isServer && req.method = "SUBSCRIBE" && 200 ≤ resp.statusCode && resp.contact.isNone)

/-- The condition on a response that updates an early dialog. -/
def admitsEarly (dialog : Dialog) (req : Request) (resp : Response) : Bool :=
  !establishes req.method || resp.statusCode < 200 || 300 ≤ resp.statusCode ||
    (resp.toHeader.isSome && (dialog.isServer || resp.contact.all (·.usable)))

/-- The condition on a response that updates a confirmed dialog. -/
def admitsRefresh (req : Request) (resp : Response) (asUas : Bool) : Bool :=
  req.method ≠ "INVITE" || resp.statusCode < 200 || 300 ≤ resp.statusCode ||
    ((if asUas then req.contact else resp.contact).all (·.usable) && (asUas || req.cseq.isSome))

/-- The condition on the messages of a transaction that updates a dialog. -/
def admits (dialog : Dialog) (req : Request) (resp : Option Response) (asUas : Bool) : Bool :=
  resp.all fun resp => match dialog.state with
    | .null => dialog.admitsNew req resp
    | .early => dialog.admitsEarly req resp
    | .confirmed => admitsRefresh req resp asUas
    | .terminated => true

theorem Follows.trans (first : before.Follows middle) (second : middle.Follows after) : before.Follows after where
  sound := second.sound
  complete := fun complete => second.complete (first.complete complete)
  role := second.role.trans first.role
  aged := fun new => first.aged (second.aged new)
  queue := by
    rcases second.queue with same | empty
    · rw [same]
      exact first.queue
    · exact Or.inr empty

theorem Sound.refl (sound : dialog.Sound) : dialog.Follows dialog :=
  ⟨sound, fun complete => complete, rfl, fun new => new, Or.inl rfl⟩

theorem Sound.confirmed (sound : dialog.Sound) (state : dialog.state = .confirmed) :
    dialog.complete = true :=
  sound.complete (by simp [visible, state])

/-- An operation on fields that the invariant does not read. -/
theorem Sound.unread {before after : Dialog} (sound : before.Sound)
    (same : (after.isServer, after.state, after.callId, after.localParty, after.remoteParty, after.localTag,
        after.remoteTag, after.remoteTarget, after.needsAck, after.timer200OkEnd, after.lastOutInvite,
        after.lastOutAck) =
      (before.isServer, before.state, before.callId, before.localParty, before.remoteParty, before.localTag,
        before.remoteTag, before.remoteTarget, before.needsAck, before.timer200OkEnd, before.lastOutInvite,
        before.lastOutAck))
    (queue : after.queuedCt = before.queuedCt ∨ after.queuedCt = []) : before.Follows after := by
  obtain ⟨complete, server, client, fresh, waits, timed, invited, acked⟩ := sound
  cases before
  cases after
  cases same
  exact ⟨⟨complete, server, client, fresh, waits, timed, invited, acked⟩, fun complete => complete, rfl,
    fun new => new, queue⟩

/-- What the establishment of a dialog leaves behind, whatever the state that follows. -/
structure Built (dialog : Dialog) : Prop where
  complete : dialog.complete = true
  server : dialog.isServer = true → dialog.remoteTag.isSome
  invited : ∀ invite, dialog.lastOutInvite = some invite → invite.cseq.isSome
  acked : ∀ ack, dialog.lastOutAck = some ack → ack.cseq.isSome

theorem Sound.built (sound : dialog.Sound) (complete : dialog.complete = true) :
    dialog.Built :=
  ⟨complete, fun role => (sound.server role).1, fun invite last => (sound.invited invite last).1, sound.acked⟩

/-- A dialog that has been established may be in any state but the first. -/
theorem Built.sound (built : dialog.Built) (old : dialog.state ≠ .null)
    (waits : dialog.needsAck = true → dialog.state = .confirmed ∨ dialog.state = .terminated)
    (timed : dialog.timer200OkEnd = true → dialog.state = .confirmed) : dialog.Sound := by
  have complete := complete_iff.mp built.complete
  exact {
    complete := fun _ => built.complete
    server := fun role => ⟨built.server role, complete.2.2.1⟩
    client := fun _ => ⟨complete.2.2.2.1, complete.2.1⟩
    fresh := fun new => absurd new old
    waits := waits
    timed := timed
    invited := fun invite last => ⟨built.invited invite last, built.complete⟩
    acked := built.acked }

theorem Sound.delete (sound : dialog.Sound) : dialog.Follows dialog.delete where
  sound := {
    complete := fun seen => by simp [Dialog.delete, setState, Dialog.visible] at seen
    server := sound.server
    client := sound.client
    fresh := fun new => by simp [Dialog.delete, setState] at new
    waits := fun _ => Or.inr rfl
    timed := fun timer => by simp [Dialog.delete, setState, stop200OkRetrans] at timer
    invited := sound.invited
    acked := sound.acked }
  complete := fun complete => complete
  role := rfl
  aged := fun new => by simp [Dialog.delete, setState] at new
  queue := Or.inr rfl

theorem Sound.settle {before dialog : Dialog} (follows : before.Follows dialog) (verdict : Verdict) :
    before.Follows (dialog.settle verdict).1 := by
  cases verdict with
  | keep => exact follows.trans (follows.sound.unread rfl (Or.inl rfl))
  | delete => exact follows.trans follows.sound.delete
  | retransmission => exact follows

/-- A tag of the response is kept unless the dialog has one. -/
theorem setToTag_some (dialog : Dialog) (toHeader : TaggedAddress) :
    dialog.setToTag (some toHeader) = .ok (if dialog.isServer then
      { dialog with localTag := dialog.localTag.or toHeader.tag }
      else { dialog with remoteTag := dialog.remoteTag.or toHeader.tag }) := by
  unfold setToTag
  split <;> rfl

theorem Built.unread {before after : Dialog} (built : before.Built)
    (same : (after.isServer, after.callId, after.localParty, after.remoteParty, after.localTag,
        after.remoteTag, after.remoteTarget, after.lastOutInvite, after.lastOutAck) =
      (before.isServer, before.callId, before.localParty, before.remoteParty, before.localTag,
        before.remoteTag, before.remoteTarget, before.lastOutInvite, before.lastOutAck)) : after.Built := by
  obtain ⟨complete, server, invited, acked⟩ := built
  cases before
  cases after
  cases same
  exact ⟨complete, server, invited, acked⟩

/-- What the establishment of a dialog leaves alone. -/
structure Establishes (before after : Dialog) : Prop where
  built : after.Built
  role : after.isServer = before.isServer
  state : after.state = before.state
  needsAck : after.needsAck = before.needsAck
  timer : after.timer200OkEnd = before.timer200OkEnd
  queue : after.queuedCt = before.queuedCt

/-- A new dialog has no remote target, so it is not complete. -/
theorem Sound.incomplete (sound : dialog.Sound) (new : dialog.state = .null) :
    ¬dialog.complete = true := by
  simp [complete_iff, sound.fresh new]

/-- A new dialog takes the Call-ID of the request first. -/
theorem Sound.withCallId (sound : dialog.Sound) (new : dialog.state = .null) (callId : String) :
    { dialog with callId := some callId }.Sound where
  complete := fun seen => by simp [Dialog.visible, new] at seen
  server := sound.server
  client := sound.client
  fresh := sound.fresh
  waits := sound.waits
  timed := sound.timed
  invited := fun invite last => absurd (sound.invited invite last).2 (sound.incomplete new)
  acked := sound.acked

theorem Built.setToTag (built : dialog.Built) (toHeader : TaggedAddress) :
    Checked.Safe (dialog.setToTag (some toHeader)) fun after => dialog.Establishes after := by
  obtain ⟨callId, localParty, remoteParty, localTag, target⟩ := complete_iff.mp built.complete
  rw [setToTag_some]
  split
  · next role =>
      refine ⟨⟨?_, built.server, built.invited, built.acked⟩, rfl, rfl, rfl, rfl, rfl⟩
      simp [complete_iff, callId, localParty, remoteParty, localTag, target]
  · next role => exact ⟨⟨built.complete, fun server => absurd server role, built.invited, built.acked⟩,
      rfl, rfl, rfl, rfl, rfl⟩

theorem Establishes.trans (first : before.Establishes middle) (second : middle.Establishes after) :
    before.Establishes after :=
  ⟨second.built, second.role.trans first.role, second.state.trans first.state,
    second.needsAck.trans first.needsAck, second.timer.trans first.timer, second.queue.trans first.queue⟩

/-- A client dialog is built as soon as its Contact and its parties are known. -/
theorem Sound.initAsUac (sound : dialog.Sound) (role : dialog.isServer = false) (hasCallId : dialog.callId.isSome)
    {cseq : HeaderCseq} {via : HeaderVia} {toHeader : TaggedAddress} {target : HeaderAddress}
    (hasCseq : req.cseq = some cseq) (hasVia : req.vias.head? = some via) (hasTo : resp.toHeader = some toHeader)
    (hasContact : resp.contact = some target) (usable : target.usable = true) :
    Checked.Safe (dialog.initAsUac req resp) fun result =>
      ∃ after, result = some after ∧ dialog.Establishes after := by
  obtain ⟨localTag, localParty⟩ := sound.client role
  by_cases invite : req.method = "INVITE"
  · simp only [Dialog.initAsUac, hasTo, hasCseq, hasVia, hasContact, checkSecure_eq, Checked.ok_bind, invite,
      Checked.safe_pure]
    refine ⟨_, rfl, ⟨⟨?_, ?_, ?_, sound.acked⟩, rfl, rfl, rfl, rfl, rfl⟩⟩
    · simp [complete_iff, setLastOutInvite, hasCallId, localParty, localTag, usable]
    · intro server
      exact absurd (server.symm.trans role) (by decide)
    · intro last sent
      cases sent
      simp [hasCseq]
  · simp only [Dialog.initAsUac, hasTo, hasCseq, hasVia, hasContact, checkSecure_eq, Checked.ok_bind, invite,
      Checked.safe_pure]
    refine ⟨_, rfl, ⟨⟨?_, ?_, ?_, sound.acked⟩, rfl, rfl, rfl, rfl, rfl⟩⟩
    · simp [complete_iff, hasCallId, localParty, localTag, usable]
    · intro server
      exact absurd (server.symm.trans role) (by decide)
    · intro last sent
      exact (sound.invited last sent).1

theorem Sound.establish (sound : dialog.Sound) (new : dialog.state = .null)
    (establishable : dialog.establishable req resp = true)
    (tagged : dialog.isServer = true → resp.toHeader.any (·.tag.isSome) = true) :
    Checked.Safe (dialog.establish req resp) fun (after, _) => dialog.Establishes after := by
  simp only [Dialog.establishable, Bool.and_eq_true, Option.isSome_iff_exists] at establishable
  obtain ⟨⟨⟨⟨⟨callId, hasCallId⟩, cseq, hasCseq⟩, via, hasVia⟩, toHeader, hasTo⟩, contact⟩ := establishable
  cases role : dialog.isServer with
  | true =>
      simp only [role, if_true, Option.any_eq_true] at contact
      obtain ⟨target, hasContact, usable⟩ := contact
      obtain ⟨remoteTag, remoteParty⟩ := sound.server role
      have localTag := tagged role
      rw [hasTo, Option.any_some] at localTag
      simp only [Dialog.establish, new, hasCallId, hasTo, role, Dialog.initAsUas, hasContact, hasCseq, hasVia,
        checkSecure_eq, Checked.ok_bind, setToTag_some]
      refine ⟨⟨?_, ?_, ?_, sound.acked⟩, role.symm, new.symm, rfl, rfl, rfl⟩
      · simp [complete_iff, remoteParty, localTag, usable]
      · exact fun _ => remoteTag
      · intro last sent
        exact (sound.invited last sent).1
  | false =>
      simp only [role, Bool.false_eq_true, if_false, Option.any_eq_true] at contact
      obtain ⟨target, hasContact, usable⟩ := contact
      have prepared : Checked.Safe ({ dialog with callId := some callId }.initAsUac req resp) _ :=
        (sound.withCallId new callId).initAsUac role rfl hasCseq hasVia hasTo hasContact usable
      unfold Dialog.establish
      rw [if_neg (by simp [new]), hasCallId, hasTo]
      dsimp only
      rw [if_neg (by simp [role])]
      apply Checked.safe_bind.mpr
      apply prepared.mono
      rintro result ⟨after, rfl, establishes⟩
      apply Checked.safe_bind.mpr
      apply (establishes.built.setToTag toHeader).mono
      intro tagged established
      obtain ⟨built, role, state, needsAck, timer, queue⟩ := establishes.trans established
      exact ⟨built, role, state, needsAck, timer, queue⟩

/-- The dialogs that the final response of a request may leave behind. -/
structure Confirms (before after : Dialog) : Prop where
  built : after.Built
  role : after.isServer = before.isServer
  state : after.state = .confirmed
  queue : after.queuedCt = before.queuedCt

theorem Built.confirm {before dialog : Dialog} (built : dialog.Built) (role : dialog.isServer = before.isServer)
    (queue : dialog.queuedCt = before.queuedCt) (toHeader : TaggedAddress) :
    Checked.Safe (dialog.setToTag (some toHeader)) fun tagged => before.Confirms (tagged.setState .confirmed) := by
  apply (built.setToTag toHeader).mono
  intro tagged established
  obtain ⟨complete, server, invited, acked⟩ := established.built
  exact ⟨⟨complete, server, invited, acked⟩, established.role.trans role, rfl, established.queue.trans queue⟩

/-- A Contact replaces the remote target of a client. -/
theorem Built.retarget (built : dialog.Built) {contact : Option HeaderAddress} (usable : contact.all (·.usable) = true)
    :
    ∃ target, contact.or dialog.remoteTarget = some target ∧
      { dialog with remoteTarget := some target }.Built := by
  obtain ⟨callId, localParty, remoteParty, localTag, target, hasTarget, targetUsable⟩ :=
    complete_iff.mp built.complete
  have targeted : ∀ target : HeaderAddress, target.usable = true →
      { dialog with remoteTarget := some target }.Built := by
    intro target usable
    refine ⟨?_, built.server, built.invited, built.acked⟩
    simp [complete_iff, callId, localParty, remoteParty, localTag, usable]
  cases contact with
  | none => exact ⟨target, hasTarget, targeted target targetUsable⟩
  | some contact => exact ⟨contact, rfl, targeted contact usable⟩

theorem Built.establishFull (built : dialog.Built) {toHeader : TaggedAddress} (hasTo : resp.toHeader = some toHeader)
    (contact : dialog.isServer = true ∨ resp.contact.all (·.usable) = true) :
    Checked.Safe (dialog.establishFull req resp) fun (after, _) => dialog.Confirms after := by
  obtain ⟨asked, isAsked⟩ : ∃ asked, asked =
    if req.method = "INVITE" then { dialog with needsAck := true } else dialog := ⟨_, rfl⟩
  have same : asked.Built ∧ asked.isServer = dialog.isServer ∧ asked.queuedCt = dialog.queuedCt := by
    rw [isAsked]
    split
    · exact ⟨built.unread rfl, rfl, rfl⟩
    · exact ⟨built, rfl, rfl⟩
  obtain ⟨prepared, role, queue⟩ := same
  unfold Dialog.establishFull
  rw [← isAsked, hasTo]
  by_cases server : asked.isServer = true
  · rw [if_pos server]
    split
    · apply Checked.safe_bind.mpr
      have timed : (asked.init200OkRetrans resp).Built := prepared.unread rfl
      exact timed.confirm role queue toHeader
    · apply Checked.safe_bind.mpr
      exact prepared.confirm role queue toHeader
  · rw [if_neg server]
    obtain ⟨target, hasTarget, targeted⟩ :=
      prepared.retarget (contact.resolve_left fun isServer => server (role.trans isServer))
    rw [hasTarget]
    apply Checked.safe_bind.mpr
    exact targeted.confirm role queue toHeader

theorem Confirms.follows {before after : Dialog} (confirms : before.Confirms after) : before.Follows after where
  sound := confirms.built.sound (by simp [confirms.state]) (fun _ => Or.inl confirms.state)
    (fun _ => confirms.state)
  complete := fun _ => confirms.built.complete
  role := confirms.role
  aged := fun new => by simp [confirms.state] at new
  queue := Or.inl confirms.queue

theorem Sound.updateEarly (sound : dialog.Sound) (state : dialog.state = .early)
    (admitted : dialog.admitsEarly req resp = true) :
    Checked.Safe (dialog.updateEarly req resp) fun (after, _) => dialog.Follows after := by
  have built := sound.built (sound.complete (by simp [Dialog.visible, state]))
  unfold Dialog.updateEarly
  split
  · exact sound.refl
  · next below =>
      split
      · next accepted =>
          simp only [admitsEarly, Bool.or_eq_true, Bool.and_eq_true, Bool.not_eq_true', decide_eq_true_eq,
            Option.isSome_iff_exists] at admitted
          obtain ⟨⟨toHeader, hasTo⟩, contact⟩ : (∃ toHeader, resp.toHeader = some toHeader) ∧
              (dialog.isServer = true ∨ resp.contact.all (·.usable) = true) := by
            rcases admitted with ((other | provisional) | refused) | admitted
            · rw [accepted.1] at other
              cases other
            · omega
            · exact absurd ⟨accepted.1, refused⟩ below
            · exact admitted
          apply Checked.safe_bind.mpr
          apply (built.establishFull hasTo contact).mono
          rintro ⟨after, done⟩ confirms
          exact confirms.follows
      · exact sound.refl

/-- The result of a new dialog that a client leaves new. -/
theorem Sound.establishWithoutContact (sound : dialog.Sound) (new : dialog.state = .null)
    (role : dialog.isServer = false) (method : req.method ≠ "INVITE") (contact : resp.contact = none) :
    Checked.Safe (dialog.establish req resp) fun (after, _) => dialog.Follows after ∧ after.state = .null := by
  unfold Dialog.establish
  rw [if_neg (by simp [new])]
  cases hasCallId : req.callId with
  | none => exact ⟨sound.refl, new⟩
  | some callId =>
      dsimp only
      rw [if_neg (by simp [role])]
      unfold Dialog.initAsUac
      have incomplete := sound.incomplete new
      split
      · next toHeader cseq via hasTo hasCseq hasVia =>
          simp only [checkSecure_eq, Checked.ok_bind, method, if_false, hasTo, setToTag_some, role, contact,
            sound.fresh new]
          refine ⟨⟨⟨?_, ?_, ?_, fun _ => rfl, sound.waits, sound.timed, ?_, sound.acked⟩, ?_, role.symm,
            fun _ => new, Or.inl rfl⟩, new⟩
          · intro seen
            simp [Dialog.visible, new] at seen
          · intro server
            cases server
          · exact fun _ => sound.client role
          · intro invite last
            exact absurd (sound.invited invite last).2 incomplete
          · exact fun complete => absurd complete incomplete
      · have named := sound.withCallId new callId
        exact ⟨⟨named, fun complete => absurd complete incomplete, rfl, fun _ => new, Or.inl rfl⟩, new⟩

/-- The final response that follows the establishment at once. -/
theorem Built.updateEarly (built : dialog.Built) (accepted : 200 ≤ resp.statusCode ∧ resp.statusCode < 300)
    (method : establishes req.method = true) {toHeader : TaggedAddress} (hasTo : resp.toHeader = some toHeader)
    (contact : dialog.isServer = true ∨ resp.contact.all (·.usable) = true) :
    Checked.Safe (dialog.updateEarly req resp) fun (after, _) => dialog.Confirms after := by
  unfold Dialog.updateEarly
  rw [if_neg (by omega), if_pos ⟨method, accepted.1⟩]
  apply Checked.safe_bind.mpr
  apply (built.establishFull hasTo contact).mono
  rintro ⟨after, done⟩ confirms
  exact confirms

/-- A provisional response leaves an early dialog. -/
theorem Establishes.early {before after : Dialog} (establishes : before.Establishes after)
    (sound : before.Sound) (new : before.state = .null) : before.Follows (after.setState .early) where
  sound := by
    have built : (after.setState .early).Built := establishes.built.unread rfl
    apply built.sound (by simp [setState])
    · intro waits
      have := sound.waits (establishes.needsAck.symm.trans waits)
      simp [new] at this
    · intro timed
      have := sound.timed (establishes.timer.symm.trans timed)
      simp [new] at this
  complete := fun complete => absurd complete (sound.incomplete new)
  role := establishes.role
  aged := fun early => by simp [setState] at early
  queue := Or.inl establishes.queue

theorem Establishes.confirmed (establishes : before.Establishes middle) (confirms : middle.Confirms after) :
    before.Follows after := by
  have follows : before.Confirms after :=
    ⟨confirms.built, confirms.role.trans establishes.role, confirms.state,
      confirms.queue.trans establishes.queue⟩
  exact follows.follows

/-- The ways in which a new dialog admits a response that establishes it. -/
theorem admitsNew_cases (admitted : dialog.admitsNew req resp = true) (method : establishes req.method = true)
    (code : 100 < resp.statusCode ∧ resp.statusCode < 300) :
    dialog.establishable req resp = true ∨
      (dialog.isServer = false ∧ req.method = "SUBSCRIBE" ∧ 200 ≤ resp.statusCode ∧ resp.contact = none) := by
  simp only [admitsNew, Bool.or_eq_true, Bool.and_eq_true, Bool.not_eq_true', decide_eq_true_eq,
    Option.isNone_iff_eq_none] at admitted
  rcases admitted with (((other | low) | high) | establishable) | ⟨⟨⟨role, subscribe⟩, final⟩, contact⟩
  · rw [method] at other
    cases other
  · omega
  · omega
  · exact Or.inl establishable
  · exact Or.inr ⟨role, subscribe, final, contact⟩

theorem Sound.updateNull (sound : dialog.Sound) (new : dialog.state = .null)
    (admitted : dialog.admitsNew req resp = true)
    (tagged : dialog.isServer = true → 100 < resp.statusCode → resp.toHeader.any (·.tag.isSome) = true) :
    Checked.Safe (dialog.updateNull req resp) fun (after, _) => dialog.Follows after := by
  unfold Dialog.updateNull
  split
  · next establishing =>
      obtain ⟨method, code⟩ := establishing
      apply Checked.safe_bind.mpr
      rcases admitsNew_cases admitted method code with establishable | ⟨role, subscribe, final, contact⟩
      · apply (sound.establish new establishable fun server => tagged server code.1).mono
        rintro ⟨established, done⟩ establishes
        split
        · exact establishes.early sound new
        · next provisional =>
            simp only [Dialog.establishable, Bool.and_eq_true, Option.isSome_iff_exists] at establishable
            obtain ⟨⟨-, toHeader, hasTo⟩, contact⟩ := establishable
            have usable : established.isServer = true ∨ resp.contact.all (·.usable) = true := by
              rw [establishes.role]
              cases role : dialog.isServer with
              | true => exact Or.inl rfl
              | false =>
                  simp only [role, Bool.false_eq_true, if_false, Option.any_eq_true] at contact
                  obtain ⟨target, hasContact, usable⟩ := contact
                  simp [hasContact, usable]
            apply (establishes.built.updateEarly (by omega) method hasTo usable).mono
            rintro ⟨after, verdict⟩ confirms
            exact establishes.confirmed confirms
      · apply (sound.establishWithoutContact new role (by simp [subscribe]) contact).mono
        rintro ⟨named, done⟩ ⟨follows, still⟩
        rw [if_neg (by omega)]
        -- without a Contact and a remote target the establishment goes no further
        have unchanged : named.updateEarly req resp = .ok (named, .keep) := by
          unfold Dialog.updateEarly
          rw [if_neg (by omega), if_pos ⟨method, final⟩]
          simp [Dialog.establishFull, subscribe, contact, follows.role.trans role, follows.sound.fresh still]
          rfl
        rw [unchanged]
        exact follows
  · next other =>
      unfold Dialog.updateEarly
      split
      · exact sound.refl
      · next below =>
          rw [if_neg]
          · exact sound.refl
          · rintro ⟨method, final⟩
            have : ¬300 ≤ resp.statusCode := fun high => below ⟨method, high⟩
            exact other ⟨method, by omega, by omega⟩

theorem Sound.handle200Ok (sound : dialog.Sound) (resp : Response) :
    Checked.Safe (dialog.handle200Ok resp) fun _ => True := by
  unfold Dialog.handle200Ok
  split
  · next ack cseq last hasCseq =>
      obtain ⟨ackCseq, hasAckCseq⟩ := Option.isSome_iff_exists.mp (sound.acked ack last)
      rw [hasAckCseq]
      trivial
  · trivial

theorem Sound.retransmits (sound : dialog.Sound) (resp : Response) (asUas : Bool) :
    Checked.Safe (dialog.retransmits resp asUas) fun _ => True := by
  unfold Dialog.retransmits
  split
  · trivial
  · exact sound.handle200Ok resp

/-- A Contact with a SIP URI replaces the remote target of an established dialog. -/
theorem Built.refreshTarget (built : dialog.Built) {contact : Option HeaderAddress}
    (usable : contact.all (·.usable) = true) :
    Checked.Safe (dialog.refreshTarget contact) fun after => dialog.Establishes after := by
  obtain ⟨target, hasTarget, targeted⟩ := built.retarget usable
  obtain ⟨callId, localParty, remoteParty, localTag, old, hasOld, oldUsable⟩ := complete_iff.mp built.complete
  cases contact with
  | none => exact ⟨built, rfl, rfl, rfl, rfl, rfl⟩
  | some contact =>
      cases hasTarget
      simp only [Dialog.refreshTarget, hasOld, Checked.deref_some, Checked.ok_bind]
      exact ⟨targeted, rfl, rfl, rfl, rfl, rfl⟩

theorem Establishes.unread (establishes : before.Establishes middle)
    (same : (after.isServer, after.state, after.callId, after.localParty, after.remoteParty, after.localTag,
        after.remoteTag, after.remoteTarget, after.timer200OkEnd, after.lastOutInvite, after.lastOutAck,
        after.queuedCt) =
      (middle.isServer, middle.state, middle.callId, middle.localParty, middle.remoteParty, middle.localTag,
        middle.remoteTag, middle.remoteTarget, middle.timer200OkEnd, middle.lastOutInvite, middle.lastOutAck,
        middle.queuedCt)) (state : before.state = .confirmed) : before.Follows after := by
  simp only [Prod.mk.injEq] at same
  obtain ⟨role, sameState, callId, localParty, remoteParty, localTag, remoteTag, target, timer, invite, ack, queue⟩ :=
      same
  have built : after.Built := establishes.built.unread (by simp [*])
  have confirmed : after.state = .confirmed := sameState.trans (establishes.state.trans state)
  exact Confirms.follows ⟨built, role.trans establishes.role, confirmed, queue.trans establishes.queue⟩

theorem Sound.updateReinvite (sound : dialog.Sound) (state : dialog.state = .confirmed) {asUas : Bool}
    (invite : req.method = "INVITE") (admitted : admitsRefresh req resp asUas = true) :
    Checked.Safe (dialog.updateReinvite req resp asUas) fun (after, _) => dialog.Follows after := by
  have built := sound.built (sound.confirmed state)
  unfold Dialog.updateReinvite
  split
  · next accepted =>
      simp only [admitsRefresh, Bool.or_eq_true, Bool.and_eq_true, decide_eq_true_eq, invite, ne_eq,
        not_true_eq_false, false_or] at admitted
      obtain ⟨usable, numbered⟩ : (if asUas then req.contact else resp.contact).all (·.usable) = true ∧
          (asUas = true ∨ req.cseq.isSome = true) := by
        rcases admitted with (low | high) | admitted
        · omega
        · omega
        · exact admitted
      have sent : ∃ kept, kept = (if asUas then dialog else dialog.setLastOutInvite req) ∧ dialog.Establishes kept := by
        refine ⟨_, rfl, ?_⟩
        split
        · exact ⟨built, rfl, rfl, rfl, rfl, rfl⟩
        · next asUac =>
            refine ⟨⟨built.complete, built.server, ?_, built.acked⟩, rfl, rfl, rfl, rfl, rfl⟩
            intro last sent
            cases sent
            exact numbered.resolve_left asUac
      obtain ⟨kept, isKept, keeps⟩ := sent
      rw [← isKept]
      apply Checked.safe_bind.mpr
      apply (keeps.built.refreshTarget usable).mono
      intro refreshed refreshes
      have follows := (keeps.trans refreshes).unread rfl state
      apply Checked.safe_bind.mpr
      apply (follows.sound.retransmits resp asUas).mono
      intro retransmission _
      split
      · exact follows
      · exact (keeps.trans refreshes).unread rfl state
  · split
    · exact (Establishes.unread ⟨built, rfl, rfl, rfl, rfl, rfl⟩ rfl state)
    · exact sound.refl

theorem Sound.updateState (sound : dialog.Sound) {resp : Option Response} {terminated asUas : Bool}
    (admitted : dialog.admits req resp asUas = true)
    (tagged : dialog.state = .null → dialog.isServer = true → ∀ response, resp = some response →
      100 < response.statusCode → response.toHeader.any (·.tag.isSome) = true) :
    Checked.Safe (dialog.updateState req resp terminated asUas) fun (after, _) => dialog.Follows after := by
  have bye : dialog.state = .confirmed → dialog.Follows dialog.updateBye.1 := fun state =>
    Establishes.unread ⟨sound.built (sound.confirmed state), rfl, rfl, rfl, rfl, rfl⟩ rfl state
  unfold Dialog.updateState
  split
  · next resp new =>
      simp only [admits, new, Option.all_some] at admitted
      exact sound.updateNull new admitted fun server code => tagged new server resp rfl code
  · next resp early =>
      simp only [admits, early, Option.all_some] at admitted
      exact sound.updateEarly early admitted
  · next resp confirmed =>
      simp only [admits, confirmed, Option.all_some] at admitted
      split
      · next invite => exact sound.updateReinvite confirmed invite admitted
      · split
        · exact bye confirmed
        · exact sound.refl
  · next confirmed =>
      split
      · exact bye confirmed
      · exact sound.refl
  · exact sound.refl

/-- An update keeps the invariant when the dialog admits the messages of the transaction. -/
theorem Sound.update (sound : dialog.Sound) {transaction : TransactionId} {resp : Option Response}
    {terminated asUas : Bool} (admitted : dialog.admits req resp asUas = true)
    (numbered : asUas = true → req.cseq.isSome = true)
    (tagged : dialog.state = .null → dialog.isServer = true → ∀ response, resp = some response →
      100 < response.statusCode → response.toHeader.any (·.tag.isSome) = true) :
    Checked.Safe (dialog.update transaction req resp terminated asUas) fun (after, _) =>
      dialog.Follows after := by
  have updated : ∀ touched : Dialog, dialog.Follows touched → touched.state = dialog.state →
      touched.admits req resp asUas = true →
      Checked.Safe (do
        let (after, verdict) ← touched.updateState req resp terminated asUas
        return after.settle verdict) fun (after, _) => dialog.Follows after := by
    intro touched touches state stillAdmitted
    apply Checked.safe_bind.mpr
    have tags := tagged
    rw [← state, ← touches.role] at tags
    apply (touches.sound.updateState stillAdmitted tags).mono
    rintro ⟨after, verdict⟩ follows
    exact Sound.settle (touches.trans follows) verdict
  unfold Dialog.update touch
  cases asUas with
  | false => exact updated _ (sound.unread rfl (Or.inl rfl)) rfl admitted
  | true =>
      obtain ⟨cseq, hasCseq⟩ := Option.isSome_iff_exists.mp (numbered rfl)
      rw [hasCseq]
      exact updated _ (sound.unread rfl (Or.inl rfl)) rfl admitted

/-- The fields of a complete dialog make a request. -/
theorem Built.buildRequest (complete : dialog.complete = true) (method : String) (full : Bool) :
    Checked.Safe (dialog.buildRequest method full) fun req =>
      req.method = method ∧ req.cseq.isSome = true ∧ req.dialogQueued = false := by
  obtain ⟨callId, localParty, remoteParty, -, target, hasTarget, usable⟩ := complete_iff.mp complete
  obtain ⟨callId, hasCallId⟩ := Option.isSome_iff_exists.mp callId
  obtain ⟨localParty, hasLocalParty⟩ := Option.isSome_iff_exists.mp localParty
  obtain ⟨remoteParty, hasRemoteParty⟩ := Option.isSome_iff_exists.mp remoteParty
  obtain ⟨uri, hasUri⟩ := Option.isSome_iff_exists.mp usable
  unfold Dialog.buildRequest
  rw [hasTarget, hasCallId, hasLocalParty, hasRemoteParty]
  simp only [Checked.deref_some, Checked.ok_bind, hasUri]
  exact ⟨rfl, rfl, rfl⟩

theorem Sound.updateLocalCseq (sound : dialog.Sound) (method : String) :
    dialog.Follows (dialog.updateLocalCseq method) := sound.unread rfl (Or.inl rfl)

theorem mayCreate_visible {pending : Bool} {method : String} (may : dialog.mayCreate pending method = true) :
    dialog.visible = true := by
  simp only [mayCreate, Bool.and_eq_true, Bool.or_eq_true, decide_eq_true_eq] at may
  simp only [Dialog.visible, Bool.or_eq_true, decide_eq_true_eq]
  exact may.1.symm

/-- A request that a complete dialog has made at once. -/
structure Made (dialog : Dialog) (method : String) (req : Request) : Prop where
  complete : dialog.complete = true
  method : req.method = method
  unqueued : req.dialogQueued = false

theorem Sound.createRequest (sound : dialog.Sound) (pending : Bool) (method : String) :
    Checked.Safe (dialog.createRequest pending method) fun (after, req) =>
      dialog.Follows after ∧ (dialog.mayCreate pending method = true → req.isSome) ∧
        ∀ made, req = some made → after.Made method made := by
  unfold Dialog.createRequest
  split
  · next may =>
      have follows := sound.updateLocalCseq method
      have complete := follows.complete (sound.complete (mayCreate_visible may))
      apply Checked.safe_bind.mpr
      apply (Built.buildRequest complete method true).mono
      rintro req ⟨named, -, unqueued⟩
      refine ⟨follows, fun _ => rfl, ?_⟩
      rintro made ⟨⟩
      exact ⟨complete, named, unqueued⟩
  · next mayNot => exact ⟨sound.refl, fun may => absurd may mayNot, fun made none => by cases none⟩

theorem createQueuedRequest_safe {method : String} (ready : establishes method = true ∨ dialog.complete = true) :
    Checked.Safe (dialog.createQueuedRequest method) fun req =>
      req.all (fun req => req.cseq.isSome) = true ∧ (req.isSome → dialog.complete = true) := by
  unfold Dialog.createQueuedRequest
  split
  · exact ⟨rfl, fun none => by cases none⟩
  · next other =>
      have complete := ready.resolve_left other
      apply Checked.safe_bind.mpr
      apply (Built.buildRequest complete method false).mono
      rintro req ⟨-, numbered, -⟩
      exact ⟨by simpa using numbered, fun _ => complete⟩

theorem Sound.createAck (sound : dialog.Sound) (cseq : Nat) :
    Checked.Safe (dialog.createAck cseq) fun _ => True := by
  unfold Dialog.createAck
  split
  · trivial
  · next invite last =>
      obtain ⟨numbered, complete⟩ := sound.invited invite last
      obtain ⟨inviteCseq, hasCseq⟩ := Option.isSome_iff_exists.mp numbered
      rw [hasCseq]
      simp only [Checked.deref_some, Checked.ok_bind]
      split
      · trivial
      · apply Checked.safe_bind.mpr
        exact (Built.buildRequest complete "ACK" true).mono fun _ _ => trivial

theorem Sound.sendAck (sound : dialog.Sound) {ack : Request}
    (numbered : dialog.needsAck = true → ack.cseq.isSome = true) : dialog.Follows (dialog.sendAck ack) := by
  unfold Dialog.sendAck
  split
  · next waiting =>
      refine ⟨⟨sound.complete, sound.server, sound.client, sound.fresh, ?_, sound.timed, sound.invited, ?_⟩,
        fun complete => complete, rfl, fun new => new, Or.inl rfl⟩
      · intro waits
        cases waits
      · intro last sent
        cases sent
        exact numbered waiting
  · exact sound.refl

theorem Sound.handleAck (sound : dialog.Sound) {ack : Request} (numbered : ack.cseq.isSome) :
    Checked.Safe (dialog.handleAck ack) fun (after, _) => dialog.Follows after := by
  obtain ⟨cseq, hasCseq⟩ := Option.isSome_iff_exists.mp numbered
  unfold Dialog.handleAck
  rw [hasCseq]
  simp only [Checked.deref_some, Checked.ok_bind]
  split
  · split
    · refine ⟨⟨sound.complete, sound.server, sound.client, sound.fresh, ?_, ?_, sound.invited, sound.acked⟩,
        fun complete => complete, rfl, fun new => new, Or.inl rfl⟩
      · intro waits
        cases waits
      · intro timer
        cases timer
    · exact sound.refl
  · exact sound.refl

/-- The BYE of a dialog that may still send one is never null. -/
theorem Sound.checkAckSent (sound : dialog.Sound) (pending : Bool)
    (alive : dialog.needsAck = true → dialog.state ≠ .terminated) :
    Checked.Safe (dialog.checkAckSent pending) fun (after, bye) =>
      dialog.Follows after ∧ ∀ made, bye = some made → after.Made "BYE" made := by
  unfold Dialog.checkAckSent
  split
  · next waiting =>
      have confirmed := (sound.waits waiting).resolve_right (alive waiting)
      apply Checked.safe_bind.mpr
      apply (sound.createRequest pending "BYE").mono
      rintro ⟨after, bye⟩ ⟨follows, created, made⟩
      obtain ⟨bye, isBye⟩ := Option.isSome_iff_exists.mp (created (by simp [mayCreate, confirmed]))
      subst isBye
      exact ⟨follows, made⟩
  · exact ⟨sound.refl, fun made none => by cases none⟩

theorem Sound.on200OkEnd (sound : dialog.Sound) (pending : Bool) (armed : dialog.timer200OkEnd = true) :
    Checked.Safe (dialog.on200OkEnd pending) fun (after, bye) =>
      dialog.Follows after ∧ after.Made "BYE" bye := by
  have confirmed := sound.timed armed
  have stopped : dialog.Follows { dialog.stop200OkRetrans with state := .confirmed } := by
    apply Confirms.follows
    exact ⟨(sound.built (sound.confirmed confirmed)).unread rfl, rfl, rfl, rfl⟩
  unfold Dialog.on200OkEnd
  apply Checked.safe_bind.mpr
  apply (stopped.sound.createRequest pending "BYE").mono
  rintro ⟨after, bye⟩ ⟨follows, created, made⟩
  obtain ⟨bye, isBye⟩ := Option.isSome_iff_exists.mp (created (by simp [mayCreate]))
  subst isBye
  exact ⟨stopped.trans follows, made bye rfl⟩

theorem Sound.updateRequest (sound : dialog.Sound) (complete : dialog.complete = true) (numbered : req.cseq.isSome) :
    Checked.Safe (dialog.updateRequest req) fun (after, sent) =>
      dialog.Follows after ∧ sent.cseq.isSome = true ∧ sent.dialogQueued = req.dialogQueued := by
  obtain ⟨cseq, hasCseq⟩ := Option.isSome_iff_exists.mp numbered
  have follows := sound.updateLocalCseq req.method
  obtain ⟨-, -, -, -, target, hasTarget, -⟩ := complete_iff.mp (follows.complete complete)
  unfold Dialog.updateRequest
  rw [hasCseq]
  simp only [Checked.deref_some, Checked.ok_bind, hasTarget]
  exact ⟨follows, rfl, rfl⟩

end Dialog

end BelleSip
