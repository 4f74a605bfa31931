import BelleSip.Dialog.Identity

/-
This file states what the functions of a dialog do to the parties, the tags, and the route set, which the requests of
the dialog are built from.
-/

namespace BelleSip

open Foundation
open Foundation.Checked (OnReturn)

/-- What one end of a call puts into the requests of its dialog. -/
structure Naming where
  callId : String
  own : TaggedAddress
  peer : TaggedAddress
  routes : List HeaderAddress
  ownTagged : own.tag.isSome = true
  peerTagged : peer.tag.isSome = true

/-- The other end has the parties and the routes the other way round. -/
def Naming.mirror (naming : Naming) : Naming where
  callId := naming.callId
  own := naming.peer
  peer := naming.own
  routes := naming.routes.reverse
  ownTagged := naming.peerTagged
  peerTagged := naming.ownTagged

theorem Naming.mirror_mirror (naming : Naming) : naming.mirror.mirror = naming := by
  simp [mirror]

namespace Dialog

/-- The dialog has its Call-ID, its parties with their tags, and its route set. -/
structure Bears (naming : Naming) (dialog : Dialog) : Prop where
  callId : dialog.callId = some naming.callId
  localParty : dialog.localParty = some naming.own
  remoteParty : dialog.remoteParty = some naming.peer
  localTag : dialog.localTag = naming.own.tag
  remoteTag : dialog.remoteTag = naming.peer.tag
  routeSet : dialog.routeSet = naming.routes

/-- The parties and the routes stay, and so do the tags once they are there. -/
structure Remains (before after : Dialog) : Prop where
  isServer : after.isServer = before.isServer
  callId : after.callId = before.callId
  localParty : after.localParty = before.localParty
  remoteParty : after.remoteParty = before.remoteParty
  routeSet : after.routeSet = before.routeSet
  localTag : ∀ tag, before.localTag = some tag → after.localTag = some tag
  remoteTag : ∀ tag, before.remoteTag = some tag → after.remoteTag = some tag
  established : after.state = .null → before.state = .null

namespace Remains

variable {first second third : Dialog}

theorem refl (dialog : Dialog) : Remains dialog dialog :=
  ⟨rfl, rfl, rfl, rfl, rfl, fun _ same => same, fun _ same => same, id⟩

theorem trans (before : Remains first second) (after : Remains second third) : Remains first third where
  isServer := after.isServer.trans before.isServer
  callId := after.callId.trans before.callId
  localParty := after.localParty.trans before.localParty
  remoteParty := after.remoteParty.trans before.remoteParty
  routeSet := after.routeSet.trans before.routeSet
  localTag := fun tag same => after.localTag tag (before.localTag tag same)
  remoteTag := fun tag same => after.remoteTag tag (before.remoteTag tag same)
  established := fun new => before.established (after.established new)

/-- A change of other fields. -/
theorem other (isServer : second.isServer = first.isServer) (callId : second.callId = first.callId)
    (localParty : second.localParty = first.localParty) (remoteParty : second.remoteParty = first.remoteParty)
    (routeSet : second.routeSet = first.routeSet) (localTag : second.localTag = first.localTag)
    (remoteTag : second.remoteTag = first.remoteTag) (established : second.state = .null → first.state = .null) :
    Remains first second :=
  ⟨isServer, callId, localParty, remoteParty, routeSet, fun _ same => localTag.trans same,
    fun _ same => remoteTag.trans same, established⟩

theorem bears {naming : Naming} (remains : Remains first second) (bears : first.Bears naming) :
    second.Bears naming where
  callId := remains.callId.trans bears.callId
  localParty := remains.localParty.trans bears.localParty
  remoteParty := remains.remoteParty.trans bears.remoteParty
  localTag := by
    obtain ⟨tag, own⟩ := Option.isSome_iff_exists.mp naming.ownTagged
    rw [own]
    exact remains.localTag tag (bears.localTag.trans own)
  remoteTag := by
    obtain ⟨tag, peer⟩ := Option.isSome_iff_exists.mp naming.peerTagged
    rw [peer]
    exact remains.remoteTag tag (bears.remoteTag.trans peer)
  routeSet := remains.routeSet.trans bears.routeSet

end Remains

theorem setToTag_remains (dialog : Dialog) (toHeader : Option TaggedAddress) :
    OnReturn (dialog.setToTag toHeader) (Remains dialog) := by
  unfold setToTag
  apply Checked.onReturn_bind.mpr
  apply Checked.onReturn_deref.mpr
  intro header _
  split
  · refine Checked.onReturn_pure.mpr ⟨rfl, rfl, rfl, rfl, rfl, fun tag same => ?_, fun _ same => same, id⟩
    simp [same]
  · refine Checked.onReturn_pure.mpr ⟨rfl, rfl, rfl, rfl, rfl, fun _ same => same, fun tag same => ?_, id⟩
    simp [same]

/-- A change of the state to another one than the first. -/
theorem setState_remains (dialog : Dialog) {state : DialogState} (established : state ≠ .null) :
    Remains dialog (dialog.setState state) :=
  .other rfl rfl rfl rfl rfl rfl rfl fun new => absurd new established

theorem establishFull_remains (dialog : Dialog) (req : Request) (resp : Response) :
    OnReturn (dialog.establishFull req resp) fun (after, _) => Remains dialog after := by
  have confirmed : ∀ middle, Remains dialog middle →
      OnReturn (middle.setToTag resp.toHeader >>= fun tagged => pure (tagged.setState .confirmed, true))
        fun (after, _) => Remains dialog after := by
    intro middle remains
    apply Checked.onReturn_bind.mpr
    apply (setToTag_remains middle resp.toHeader).mono
    intro after tagged
    exact Checked.onReturn_pure.mpr ((remains.trans tagged).trans (setState_remains after nofun))
  have marked : Remains dialog (if req.method = "INVITE" then { dialog with needsAck := true } else dialog) := by
    split
    · exact .other rfl rfl rfl rfl rfl rfl rfl id
    · exact .refl dialog
  unfold establishFull
  dsimp only
  generalize (if req.method = "INVITE" then { dialog with needsAck := true } else dialog) = middle at marked ⊢
  split
  · apply confirmed
    split
    · exact marked.trans (.other rfl rfl rfl rfl rfl rfl rfl id)
    · exact marked
  · split
    · exact Checked.onReturn_pure.mpr marked
    · exact confirmed _ (marked.trans (.other rfl rfl rfl rfl rfl rfl rfl id))

theorem updateEarly_remains (dialog : Dialog) (req : Request) (resp : Response) :
    OnReturn (dialog.updateEarly req resp) fun (after, _) => Remains dialog after := by
  unfold updateEarly
  split
  · exact Checked.onReturn_pure.mpr (.refl dialog)
  · split
    · apply Checked.onReturn_bind.mpr
      apply (establishFull_remains dialog req resp).mono
      intro (after, success) remains
      exact Checked.onReturn_pure.mpr remains
    · exact Checked.onReturn_pure.mpr (.refl dialog)

theorem updateReinvite_remains (dialog : Dialog) (req : Request) (resp : Response) (asUas : Bool) :
    OnReturn (dialog.updateReinvite req resp asUas) fun (after, _) => Remains dialog after := by
  unfold updateReinvite
  split
  · have marked : Remains dialog (if asUas then dialog else dialog.setLastOutInvite req) := by
      split
      · exact .refl dialog
      · exact .other rfl rfl rfl rfl rfl rfl rfl id
    apply Checked.onReturn_bind.mpr
    generalize (if asUas then dialog else dialog.setLastOutInvite req) = invited at marked ⊢
    have refreshed : OnReturn (invited.refreshTarget (if asUas then req.contact else resp.contact))
        (Remains dialog) := by
      unfold refreshTarget
      split
      · exact Checked.onReturn_pure.mpr marked
      · simp only [Checked.onReturn_bind, Checked.onReturn_deref, Checked.onReturn_pure]
        intro _ _
        exact marked.trans (.other rfl rfl rfl rfl rfl rfl rfl id)
    apply refreshed.mono
    intro refreshed remains
    apply Checked.onReturn_bind.mpr
    generalize refreshed.retransmits resp asUas = retransmission
    cases retransmission with
    | error fault => trivial
    | ok retransmission =>
        apply Checked.onReturn_ok.mpr
        cases retransmission with
        | true => exact Checked.onReturn_pure.mpr remains
        | false => exact Checked.onReturn_pure.mpr (remains.trans (.other rfl rfl rfl rfl rfl rfl rfl id))
  · split
    · exact Checked.onReturn_pure.mpr (.other rfl rfl rfl rfl rfl rfl rfl id)
    · exact Checked.onReturn_pure.mpr (.refl dialog)

variable {naming : Naming} {dialog : Dialog} {req : Request} {resp : Response}

/-- The parties of a dialog that is not new stay. -/
theorem updateState_remains (established : dialog.state ≠ .null) (req : Request) (resp : Option Response)
    (terminated asUas : Bool) :
    OnReturn (dialog.updateState req resp terminated asUas) fun (after, _) => Remains dialog after := by
  have bye : Remains dialog dialog.updateBye.1 := .other rfl rfl rfl rfl rfl rfl rfl id
  unfold updateState
  split
  · next new => exact absurd new established
  · next resp _ => exact updateEarly_remains dialog req resp
  · next resp _ =>
      split
      · exact updateReinvite_remains dialog req resp asUas
      · split
        · exact Checked.onReturn_pure.mpr bye
        · exact Checked.onReturn_pure.mpr (.refl dialog)
  · split
    · exact Checked.onReturn_pure.mpr bye
    · exact Checked.onReturn_pure.mpr (.refl dialog)
  · exact Checked.onReturn_pure.mpr (.refl dialog)

/-- A request and a response from which a new dialog takes its names. -/
structure Opens (naming : Naming) (isServer : Bool) (req : Request) (resp : Response) : Prop where
  callId : req.callId = some naming.callId
  cseq : req.cseq.isSome = true
  vias : req.vias.head?.isSome = true
  contact : isServer = true → req.contact.isSome = true
  toHeader : resp.toHeader = some (if isServer then naming.own else naming.peer)
  routes : naming.routes = if isServer then req.recordRoutes else resp.recordRoutes.reverse

/-- A new dialog has what its INVITE has given it. -/
structure Awaits (naming : Naming) (dialog : Dialog) : Prop where
  party : if dialog.isServer then dialog.remoteParty = some naming.peer ∧ dialog.remoteTag = naming.peer.tag
    else dialog.localParty = some naming.own ∧ dialog.localTag = naming.own.tag
  tag : if dialog.isServer then dialog.localTag = none ∨ dialog.localTag = naming.own.tag
    else dialog.remoteTag = none ∨ dialog.remoteTag = naming.peer.tag

/-- A dialog that is new has what its INVITE has given it, and an established one has its names. -/
structure Suits (naming : Naming) (dialog : Dialog) : Prop where
  awaits : dialog.state = .null → dialog.Awaits naming
  bears : dialog.callId.isSome = true → dialog.Bears naming

/-- A dialog that has its names keeps them, and one that gets names gets the right ones. -/
structure Evolves (naming : Naming) (before after : Dialog) : Prop where
  isServer : after.isServer = before.isServer
  suits : after.Suits naming
  named : before.callId.isSome = true → after.callId.isSome = true
  established : before.state ≠ .null → after.state ≠ .null

theorem Evolves.trans {first second third : Dialog} (before : Evolves naming first second)
    (after : Evolves naming second third) : Evolves naming first third where
  isServer := after.isServer.trans before.isServer
  suits := after.suits
  named := fun named => after.named (before.named named)
  established := fun established => after.established (before.established established)

theorem Suits.evolves (suits : dialog.Suits naming) :
    Evolves naming dialog dialog := ⟨rfl, suits, id, id⟩

theorem Remains.evolves {before after : Dialog} (remains : Remains before after) (suits : before.Suits naming)
    (established : before.state ≠ .null) : Evolves naming before after where
  isServer := remains.isServer
  suits :=
    { awaits := fun new => absurd (remains.established new) established
      bears := fun named => remains.bears (suits.bears (remains.callId ▸ named)) }
  named := fun named => remains.callId ▸ named
  established := fun _ new => established (remains.established new)

/-- The initialisation gives a new dialog the party that it lacks, and the routes. -/
structure Initiates (naming : Naming) (before after : Dialog) : Prop where
  isServer : after.isServer = before.isServer
  state : after.state = before.state
  callId : after.callId = before.callId
  tags : after.localTag = before.localTag ∧ after.remoteTag = before.remoteTag
  localParty : after.localParty = if before.isServer then some naming.own else before.localParty
  remoteParty : after.remoteParty = if before.isServer then before.remoteParty else some naming.peer
  routeSet : after.routeSet = naming.routes

theorem initAsUas_initiates (server : dialog.isServer = true) (opens : Opens naming true req resp) :
    OnReturn (dialog.initAsUas req resp) fun initialised =>
      ∃ after, initialised = some after ∧ Initiates naming dialog after := by
  obtain ⟨cseq, numbered⟩ := Option.isSome_iff_exists.mp opens.cseq
  obtain ⟨via, routed⟩ := Option.isSome_iff_exists.mp opens.vias
  obtain ⟨contact, reached⟩ := Option.isSome_iff_exists.mp (opens.contact rfl)
  have toHeader : resp.toHeader = some naming.own := opens.toHeader
  unfold initAsUas
  simp only [reached, toHeader, numbered, routed, Checked.onReturn_bind, checkSecure_eq]
  exact Checked.onReturn_pure.mpr ⟨_, rfl, rfl, rfl, rfl, ⟨rfl, rfl⟩, by simp [server], by simp [server],
    opens.routes.symm⟩

theorem initAsUac_initiates (client : dialog.isServer = false) (opens : Opens naming false req resp) :
    OnReturn (dialog.initAsUac req resp) fun initialised =>
      ∃ after, initialised = some after ∧ Initiates naming dialog after := by
  obtain ⟨cseq, numbered⟩ := Option.isSome_iff_exists.mp opens.cseq
  obtain ⟨via, routed⟩ := Option.isSome_iff_exists.mp opens.vias
  have toHeader : resp.toHeader = some naming.peer := opens.toHeader
  unfold initAsUac
  simp only [toHeader, numbered, routed, Checked.onReturn_bind, checkSecure_eq]
  refine Checked.onReturn_pure.mpr ⟨_, rfl, ?_⟩
  split
  · exact ⟨rfl, rfl, rfl, ⟨rfl, rfl⟩, by simp [client, setLastOutInvite], by simp [client, setLastOutInvite],
      opens.routes.symm⟩
  · exact ⟨rfl, rfl, rfl, ⟨rfl, rfl⟩, by simp [client], by simp [client], opens.routes.symm⟩

/-- The tag of the response completes the names of a dialog that has been initialised. -/
theorem setToTag_bears (awaits : dialog.Awaits naming) {initialised : Dialog}
    (initiates : Initiates naming { dialog with callId := some naming.callId } initialised) 
    {toHeader : Option TaggedAddress}
    (tagged : toHeader = some (if dialog.isServer then naming.own else naming.peer)) :
    OnReturn (initialised.setToTag toHeader) fun after =>
      after.Bears naming ∧ after.isServer = dialog.isServer ∧ after.state = dialog.state := by
  obtain ⟨isServer, state, callId, ⟨localTag, remoteTag⟩, localParty, remoteParty, routeSet⟩ := initiates
  obtain ⟨party, tag⟩ := awaits
  unfold setToTag
  rw [tagged, isServer]
  cases server : dialog.isServer with
  | true =>
      simp only [server, if_true] at party tag isServer localParty remoteParty ⊢
      refine Checked.onReturn_pure.mpr ⟨⟨callId, localParty, remoteParty.trans party.1, ?_, remoteTag.trans party.2,
        routeSet⟩, rfl, state⟩
      have same : initialised.localTag.or naming.own.tag = naming.own.tag := by
        rw [localTag]
        rcases tag with none | own
        · simp [none]
        · rw [own, Option.or_self]
      exact same
  | false =>
      simp only [server, Bool.false_eq_true, if_false] at party tag isServer localParty remoteParty ⊢
      refine Checked.onReturn_pure.mpr ⟨⟨callId, localParty.trans party.1, remoteParty, localTag.trans party.2, ?_,
        routeSet⟩, rfl, state⟩
      have same : initialised.remoteTag.or naming.peer.tag = naming.peer.tag := by
        rw [remoteTag]
        rcases tag with none | peer
        · simp [none]
        · rw [peer, Option.or_self]
      exact same

/-- A response establishes a new dialog with its names. -/
theorem establish_bears (awaits : dialog.Awaits naming) (new : dialog.state = .null)
    (opens : Opens naming dialog.isServer req resp) :
    OnReturn (dialog.establish req resp) fun (after, _) =>
      after.Bears naming ∧ after.isServer = dialog.isServer ∧ after.state = dialog.state := by
  have completed : ∀ initialised, Initiates naming { dialog with callId := some naming.callId } initialised →
      OnReturn (initialised.setToTag resp.toHeader >>= fun tagged => pure (tagged, true)) fun (after, _) =>
        after.Bears naming ∧ after.isServer = dialog.isServer ∧ after.state = dialog.state := by
    intro initialised initiates
    apply Checked.onReturn_bind.mpr
    apply (setToTag_bears awaits initiates opens.toHeader).mono
    intro tagged bears
    exact Checked.onReturn_pure.mpr bears
  unfold establish
  rw [if_neg (fun differs => differs new), opens.callId]
  dsimp only
  split
  · next server =>
      rw [server] at opens
      have side : Dialog.isServer { dialog with callId := some naming.callId } = true := server
      apply Checked.onReturn_bind.mpr
      apply (initAsUas_initiates side opens).mono
      intro _ ⟨initialised, made, initiates⟩
      rw [made]
      exact completed initialised initiates
  · next client =>
      rw [Bool.eq_false_iff.mpr client] at opens
      have side : Dialog.isServer { dialog with callId := some naming.callId } = false := Bool.eq_false_iff.mpr client
      apply Checked.onReturn_bind.mpr
      apply (initAsUac_initiates side opens).mono
      intro _ ⟨initialised, made, initiates⟩
      rw [made]
      exact completed initialised initiates

/-- A dialog that has got its names. -/
theorem Bears.evolves {before after : Dialog} (bears : after.Bears naming) (isServer : after.isServer = before.isServer)
    (new : before.state = .null) : Evolves naming before after where
  isServer := isServer
  suits :=
    { awaits := fun _ => by
        constructor
        · split
          · exact ⟨bears.remoteParty, bears.remoteTag⟩
          · exact ⟨bears.localParty, bears.localTag⟩
        · split
          · exact Or.inr bears.localTag
          · exact Or.inr bears.remoteTag
      bears := fun _ => bears }
  named := fun _ => by rw [bears.callId]; rfl
  established := fun established => absurd new established

/-- A change of fields that hold no names. -/
theorem Suits.other {before after : Dialog} (suits : before.Suits naming) (isServer : after.isServer = before.isServer)
    (callId : after.callId = before.callId) (localParty : after.localParty = before.localParty)
    (remoteParty : after.remoteParty = before.remoteParty) (routeSet : after.routeSet = before.routeSet)
    (localTag : after.localTag = before.localTag) (remoteTag : after.remoteTag = before.remoteTag)
    (established : after.state = .null → before.state = .null) :
    Evolves naming before after where
  isServer := isServer
  suits :=
    { awaits := fun new => by
        obtain ⟨party, tag⟩ := suits.awaits (established new)
        constructor
        · rw [isServer, localParty, remoteParty, localTag, remoteTag]
          exact party
        · rw [isServer, localTag, remoteTag]
          exact tag
      bears := fun named =>
        (Remains.other isServer callId localParty remoteParty routeSet localTag remoteTag established).bears
          (suits.bears (callId ▸ named)) }
  named := fun named => callId ▸ named
  established := fun earlier new => earlier (established new)

/-- An update of a new dialog by a response to its INVITE. -/
theorem updateNull_evolves (suits : dialog.Suits naming) (new : dialog.state = .null)
    (opens : 100 < resp.statusCode → resp.statusCode < 300 → Opens naming dialog.isServer req resp) :
    OnReturn (dialog.updateNull req resp) fun (after, _) => Evolves naming dialog after := by
  unfold updateNull
  split
  · next establishing =>
      apply Checked.onReturn_bind.mpr
      apply (establish_bears (suits.awaits new) new (opens establishing.2.1 establishing.2.2)).mono
      intro (established, success) ⟨bears, isServer, _⟩
      dsimp only
      split
      · have remains : Remains established (established.setState .early) := setState_remains established nofun
        exact Checked.onReturn_pure.mpr ((remains.bears bears).evolves isServer new)
      · apply (updateEarly_remains established req resp).mono
        intro (after, verdict) remains
        exact (remains.bears bears).evolves (remains.isServer.trans isServer) new
  · next ordinary =>
      unfold updateEarly
      split
      · exact Checked.onReturn_pure.mpr suits.evolves
      · next unsuccessful =>
          rw [if_neg fun final => ?_]
          · exact Checked.onReturn_pure.mpr suits.evolves
          · by_cases refused : 300 ≤ resp.statusCode
            · exact unsuccessful ⟨final.1, refused⟩
            · exact ordinary ⟨final.1, by omega, by omega⟩

theorem settle_evolves (suits : dialog.Suits naming) (verdict : Verdict) :
    Evolves naming dialog (dialog.settle verdict).1 := by
  cases verdict with
  | keep => exact suits.other rfl rfl rfl rfl rfl rfl rfl id
  | delete => exact suits.other rfl rfl rfl rfl rfl rfl rfl nofun
  | retransmission => exact suits.evolves

theorem touch_evolves (suits : dialog.Suits naming) (transaction : TransactionId) (req : Request) (asUas : Bool) :
    OnReturn (dialog.touch transaction req asUas) fun after =>
      Evolves naming dialog after ∧ after.state = dialog.state := by
  unfold touch
  split
  · apply Checked.onReturn_bind.mpr
    apply Checked.onReturn_deref.mpr
    intro cseq _
    exact Checked.onReturn_pure.mpr ⟨suits.other rfl rfl rfl rfl rfl rfl rfl id, rfl⟩
  · exact Checked.onReturn_pure.mpr ⟨suits.other rfl rfl rfl rfl rfl rfl rfl id, rfl⟩

/-- An update gives a new dialog its names, if it establishes it, and an established one keeps them. -/
theorem update_evolves (suits : dialog.Suits naming) {resp : Option Response}
    (opens : ∀ answer, resp = some answer → dialog.state = .null → 100 < answer.statusCode →
      answer.statusCode < 300 → Opens naming dialog.isServer req answer) (transaction : TransactionId)
    (terminated asUas : Bool) :
    OnReturn (dialog.update transaction req resp terminated asUas) fun (after, _) => Evolves naming dialog after := by
  apply Checked.onReturn_bind.mpr
  apply (touch_evolves suits transaction req asUas).mono
  intro touched ⟨evolves, state⟩
  apply Checked.onReturn_bind.mpr
  have updated : OnReturn (touched.updateState req resp terminated asUas) fun (after, _) =>
      Evolves naming touched after := by
    by_cases new : touched.state = .null
    · unfold updateState
      rw [new]
      cases resp with
      | none => exact Checked.onReturn_pure.mpr evolves.suits.evolves
      | some answer =>
          apply updateNull_evolves evolves.suits new
          intro provisional successful
          rw [evolves.isServer]
          exact opens answer rfl (state ▸ new) provisional successful
    · apply (updateState_remains new req resp terminated asUas).mono
      intro (after, verdict) remains
      exact remains.evolves evolves.suits new
  apply updated.mono
  intro (moved, verdict) more
  exact Checked.onReturn_pure.mpr ((evolves.trans more).trans (settle_evolves more.suits verdict))

end Dialog

/-- The request has the names that its sender puts into it. -/
structure Request.Speaks (naming : Naming) (req : Request) : Prop where
  callId : req.callId = some naming.callId
  fromHeader : req.fromHeader = some naming.own
  toHeader : req.toHeader = some naming.peer

/-- The response has the names that its receiver puts into its requests. -/
structure Response.Answers (naming : Naming) (resp : Response) : Prop where
  callId : resp.callId = some naming.callId
  fromHeader : resp.fromHeader = some naming.own
  toHeader : resp.toHeader = some naming.peer

namespace Dialog

/-- The dialog makes a request with its names and the given routes. -/
structure Makes (naming : Naming) (dialog : Dialog) (routes : List HeaderAddress) (req : Request) : Prop where
  targeted : dialog.remoteTarget.isSome = true
  named : dialog.callId.isSome = true
  speaks : req.Speaks naming
  routes : req.routes = routes

variable {naming : Naming} {dialog : Dialog}

theorem buildRequest_makes (suits : dialog.Suits naming) (method : String) (full : Bool) :
    OnReturn (dialog.buildRequest method full) (Makes naming dialog (if full then naming.routes else [])) := by
  unfold buildRequest
  simp only [Checked.onReturn_bind, Checked.onReturn_deref, Checked.onReturn_pure]
  intro target targeted uri _ callId named localParty own remoteParty peer
  have isNamed : dialog.callId.isSome = true := by rw [named]; rfl
  have bears := suits.bears isNamed
  refine ⟨by rw [targeted]; rfl, isNamed, ⟨?_, ?_, ?_⟩, ?_⟩
  · exact named.symm.trans bears.callId
  · exact own.symm.trans bears.localParty
  · exact peer.symm.trans bears.remoteParty
  · rw [bears.routeSet]

theorem createRequest_makes (suits : dialog.Suits naming) (pending : Bool) (method : String) :
    OnReturn (dialog.createRequest pending method) fun (after, req) => Evolves naming dialog after ∧
      ∀ made ∈ req, Makes naming dialog naming.routes made := by
  unfold createRequest
  split
  · have counted : Evolves naming dialog (dialog.updateLocalCseq method) :=
      suits.other rfl rfl rfl rfl rfl rfl rfl id
    apply Checked.onReturn_bind.mpr
    apply (buildRequest_makes counted.suits method true).mono
    intro req ⟨targeted, named, speaks, routes⟩
    refine Checked.onReturn_pure.mpr ⟨counted, fun made same => ?_⟩
    rw [← Option.some.inj same]
    exact ⟨targeted, named, speaks, routes⟩
  · exact Checked.onReturn_pure.mpr ⟨suits.evolves, fun made same => absurd same (by simp)⟩

/-- A queued request gets its routes when it is sent. -/
theorem createQueuedRequest_makes (suits : dialog.Suits naming) (method : String) :
    OnReturn (dialog.createQueuedRequest method) fun req => ∀ made ∈ req, Makes naming dialog [] made := by
  unfold createQueuedRequest
  split
  · exact Checked.onReturn_pure.mpr fun made same => absurd same (by simp)
  · apply Checked.onReturn_bind.mpr
    apply (buildRequest_makes suits method false).mono
    intro req ⟨targeted, named, speaks, routes⟩
    refine Checked.onReturn_pure.mpr fun made same => ?_
    rw [← Option.some.inj same]
    exact ⟨targeted, named, ⟨speaks.callId, speaks.fromHeader, speaks.toHeader⟩, routes⟩

theorem updateRequest_makes (suits : dialog.Suits naming) (named : dialog.callId.isSome = true) {req : Request}
    (speaks : req.Speaks naming) (routeless : req.routes = []) :
    OnReturn (dialog.updateRequest req) fun (after, new) =>
      Evolves naming dialog after ∧ new.Speaks naming ∧ new.routes = naming.routes := by
  apply Checked.onReturn_bind.mpr
  apply Checked.onReturn_deref.mpr
  intro cseq _
  apply Checked.onReturn_bind.mpr
  apply Checked.onReturn_deref.mpr
  intro target _
  refine Checked.onReturn_pure.mpr ⟨suits.other rfl rfl rfl rfl rfl rfl rfl id,
    ⟨speaks.callId, speaks.fromHeader, speaks.toHeader⟩, ?_⟩
  show req.routes ++ dialog.routeSet = naming.routes
  rw [routeless, List.nil_append, (suits.bears named).routeSet]

theorem createAck_makes (suits : dialog.Suits naming) (cseq : Nat) :
    OnReturn (dialog.createAck cseq) fun ack => ∀ made ∈ ack, Makes naming dialog naming.routes made := by
  unfold createAck
  split
  · exact Checked.onReturn_pure.mpr fun made same => absurd same (by simp)
  · apply Checked.onReturn_bind.mpr
    apply Checked.onReturn_deref.mpr
    intro inviteCseq _
    split
    · exact Checked.onReturn_pure.mpr fun made same => absurd same (by simp)
    · apply Checked.onReturn_bind.mpr
      apply (buildRequest_makes suits "ACK" true).mono
      intro req makes
      refine Checked.onReturn_pure.mpr fun made same => ?_
      rw [← Option.some.inj same]
      exact makes

theorem sendAck_evolves (suits : dialog.Suits naming) (ack : Request) :
    Evolves naming dialog (dialog.sendAck ack) := by
  unfold sendAck
  split
  · exact suits.other rfl rfl rfl rfl rfl rfl rfl id
  · exact suits.evolves

theorem handleAck_evolves (suits : dialog.Suits naming) (ack : Request) :
    OnReturn (dialog.handleAck ack) fun (after, _) => Evolves naming dialog after := by
  unfold handleAck
  split
  · apply Checked.onReturn_bind.mpr
    apply Checked.onReturn_deref.mpr
    intro cseq _
    split
    · exact Checked.onReturn_pure.mpr (suits.other rfl rfl rfl rfl rfl rfl rfl id)
    · exact Checked.onReturn_pure.mpr suits.evolves
  · exact Checked.onReturn_pure.mpr suits.evolves

theorem checkAckSent_makes (suits : dialog.Suits naming) (pending : Bool) :
    OnReturn (dialog.checkAckSent pending) fun (after, bye) => Evolves naming dialog after ∧
      ∀ made ∈ bye, Makes naming dialog naming.routes made := by
  unfold checkAckSent
  split
  · apply Checked.onReturn_bind.mpr
    apply (createRequest_makes suits pending "BYE").mono
    intro (after, req) ⟨evolves, makes⟩
    apply Checked.onReturn_bind.mpr
    apply Checked.onReturn_deref.mpr
    intro bye made
    refine Checked.onReturn_pure.mpr ⟨evolves, fun sent same => ?_⟩
    exact makes sent (made.trans same)
  · exact Checked.onReturn_pure.mpr ⟨suits.evolves, fun made same => absurd same (by simp)⟩

/-- The BYE of a dialog that has waited for an ACK in vain. -/
theorem on200OkEnd_makes (suits : dialog.Suits naming) (pending : Bool) :
    OnReturn (dialog.on200OkEnd pending) fun (after, bye) => Evolves naming dialog after ∧
      Makes naming dialog naming.routes bye := by
  have confirmed : Evolves naming dialog { dialog.stop200OkRetrans with state := .confirmed } :=
    suits.other rfl rfl rfl rfl rfl rfl rfl nofun
  unfold on200OkEnd
  apply Checked.onReturn_bind.mpr
  apply (createRequest_makes confirmed.suits pending "BYE").mono
  intro (after, req) ⟨evolves, makes⟩
  apply Checked.onReturn_bind.mpr
  apply Checked.onReturn_deref.mpr
  intro bye made
  obtain ⟨targeted, named, speaks, routes⟩ := makes bye made
  exact Checked.onReturn_pure.mpr ⟨confirmed.trans evolves, targeted, named, speaks, routes⟩

/-- A dialog recognises the messages that have its names. -/
theorem Bears.matches (bears : dialog.Bears naming) (seen : dialog.state ≠ .null) {message : Headers} (asUas : Bool)
    (callId : message.callId = some naming.callId)
    (fromHeader : message.fromHeader = some (if asUas then naming.peer else naming.own))
    (toHeader : message.toHeader = some (if asUas then naming.own else naming.peer)) :
    dialog.matchMessage message asUas = .ok true := by
  obtain ⟨ownTag, own⟩ := Option.isSome_iff_exists.mp naming.ownTagged
  obtain ⟨peerTag, peer⟩ := Option.isSome_iff_exists.mp naming.peerTagged
  have matched : dialog.matchTags (some naming.callId) (some ownTag) (some peerTag) = .ok true := by
    unfold matchTags
    rw [if_neg seen, bears.callId, bears.localTag, bears.remoteTag, own, peer]
    simp [Checked.sameText, bind, Except.bind]
  unfold matchMessage
  rw [callId, fromHeader, toHeader]
  cases asUas <;> simpa [own, peer] using matched

theorem Bears.matches_request (bears : dialog.Bears naming) (seen : dialog.state ≠ .null) {req : Request}
    (speaks : req.Speaks naming.mirror) :
    dialog.matchMessage req.toHeaders true = .ok true :=
  bears.matches seen true speaks.callId speaks.fromHeader speaks.toHeader

theorem Bears.matches_response (bears : dialog.Bears naming) (seen : dialog.state ≠ .null) {resp : Response}
    (answers : resp.Answers naming) :
    dialog.matchMessage resp.toHeaders false = .ok true :=
  bears.matches seen false answers.callId answers.fromHeader answers.toHeader

end Dialog

end BelleSip
