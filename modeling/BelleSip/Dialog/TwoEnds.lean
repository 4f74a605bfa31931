import BelleSip.Dialog.Naming
import BelleSip.Provider.State

/-
This file models a call between two ends that run this library. Each end has a dialog, and the network between them
loses, repeats, and reorders messages.
-/

namespace BelleSip

open Foundation
open Foundation.Checked (OnReturn)

/-- The network keeps the headers that the ends compare, whatever proxies do to the other ones. -/
def Request.relays (sent arrived : Request) : Bool :=
  arrived.method = sent.method && arrived.callId = sent.callId && arrived.cseq = sent.cseq &&
    arrived.fromHeader = sent.fromHeader && arrived.toHeader = sent.toHeader

def Response.relays (sent arrived : Response) : Bool :=
  arrived.statusCode = sent.statusCode && arrived.callId = sent.callId && arrived.cseq = sent.cseq &&
    arrived.fromHeader = sent.fromHeader && arrived.toHeader = sent.toHeader && arrived.recordRoutes = sent.recordRoutes

/-- The request that begins a call, as it is sent and as it arrives with the Record-Route headers of the proxies. -/
structure Invitation where
  sent : Request
  arrived : Request
  callId : String
  caller : TaggedAddress
  callee : TaggedAddress
  /-- The tag that the server transaction has drawn. -/
  toTag : String
  called : sent.callId = some callId
  fromHeader : sent.fromHeader = some caller
  tagged : caller.tag.isSome = true
  toHeader : sent.toHeader = some callee
  relayed : sent.relays arrived = true
  numbered : sent.cseq.isSome = true
  routed : sent.vias.head?.isSome = true ∧ arrived.vias.head?.isSome = true
  reachable : arrived.contact.isSome = true

/-- What one end has in its memory and has sent. -/
structure CallEnd where
  dialog : Dialog
  /-- The requests that wait in the queue of the dialog. -/
  waiting : List Request := []
  requests : List Request := []
  /-- The responses to requests of the other end. -/
  responses : List (Request × Response) := []

namespace CallEnd

variable (callEnd : CallEnd)

/-- The application adds a Contact to a request that the dialog has created. -/
def create (pending : Bool) (method : String) (contact : Option HeaderAddress) : Checked CallEnd := do
  let (dialog, req) ← callEnd.dialog.createRequest pending method
  return { callEnd with
    dialog := dialog
    requests := callEnd.requests ++ (req.map fun req => { req with contact := contact }).toList }

def queue (method : String) : Checked CallEnd := do
  let req ← callEnd.dialog.createQueuedRequest method
  return { callEnd with waiting := callEnd.waiting ++ req.toList }

/-- A request of the queue is sent with the next number. -/
def dequeue (place : Nat) : Checked CallEnd :=
  match callEnd.waiting[place]? with
  | none => return callEnd
  | some req => do
      let (dialog, req) ← callEnd.dialog.updateRequest req
      return { callEnd with
        dialog := dialog
        waiting := callEnd.waiting.eraseIdx place
        requests := callEnd.requests ++ [req] }

def ack (cseq : Nat) : Checked CallEnd := do
  match ← callEnd.dialog.createAck cseq with
  | none => return callEnd
  | some ack => return { callEnd with dialog := callEnd.dialog.sendAck ack, requests := callEnd.requests ++ [ack] }

def checkAckSent (pending : Bool) : Checked CallEnd := do
  let (dialog, bye) ← callEnd.dialog.checkAckSent pending
  return { callEnd with dialog := dialog, requests := callEnd.requests ++ bye.toList }

def on200OkEnd (pending : Bool) : Checked CallEnd :=
  if callEnd.dialog.timer200OkEnd then do
    let (dialog, bye) ← callEnd.dialog.on200OkEnd pending
    return { callEnd with dialog := dialog, requests := callEnd.requests ++ [bye] }
  else return callEnd

def update (id : TransactionId) (req : Request) (resp : Option Response) (terminated asUas : Bool) :
    Checked CallEnd := do
  let (dialog, _) ← callEnd.dialog.update id req resp terminated asUas
  return { callEnd with dialog := dialog }

/-- The response that a server transaction of the dialog sends. -/
def response (toTag : String) (arrived : Request) (statusCode : Nat) (contact : Option HeaderAddress) :
    Checked Response :=
  Provider.fillResponse { isClient := false, request := arrived, dialog := some 0, toTag := toTag }
    { Response.createFromRequest arrived statusCode with contact := contact }

/-- The update by a client transaction, which compares a response to an INVITE with the dialog first. -/
def answered (id : TransactionId) (req : Request) (resp : Response) (terminated : Bool) : Checked CallEnd :=
  if req.method = "INVITE" && 101 ≤ resp.statusCode && resp.statusCode < 300 && callEnd.dialog.visible then do
    if ← callEnd.dialog.matchMessage resp.toHeaders false then callEnd.update id req (some resp) terminated false
    -- the response of another branch of a fork
    else return callEnd
  else callEnd.update id req (some resp) terminated false

def handleAck (ack : Request) : Checked CallEnd := do
  let (dialog, _) ← callEnd.dialog.handleAck ack
  return { callEnd with dialog := dialog }

end CallEnd

inductive Side where
  | caller
  | callee
deriving DecidableEq, Repr

def Side.other : Side → Side
  | .caller => .callee
  | .callee => .caller

/-- Both ends of a call, with the responses to its INVITE. -/
structure TwoEnds where
  caller : CallEnd
  callee : CallEnd
  inviteResponses : List Response

namespace TwoEnds

def get (ends : TwoEnds) : Side → CallEnd
  | .caller => ends.caller
  | .callee => ends.callee

def set (ends : TwoEnds) (side : Side) (callEnd : CallEnd) : TwoEnds :=
  match side with
  | .caller => { ends with caller := callEnd }
  | .callee => { ends with callee := callEnd }

/-- What an end does, or what reaches it from the other one. -/
inductive Event where
  | create (side : Side) (pending : Bool) (method : String) (contact : Option HeaderAddress)
  | queue (side : Side) (method : String)
  | dequeue (side : Side) (place : Nat)
  | ack (side : Side) (cseq : Nat)
  | ackChecked (side : Side) (pending : Bool)
  | timer200OkEnd (side : Side) (pending : Bool)
  | terminateOnBye (side : Side) (value : Bool)
  | deleted (side : Side)
  /-- The INVITE transaction of an end updates its dialog with the response that it has. -/
  | inviteUpdated (side : Side) (id : TransactionId) (resp : Option Response) (terminated asUas : Bool)
  | inviteResponded (id : TransactionId) (statusCode : Nat) (contact : Option HeaderAddress) (terminated : Bool)
  | inviteAnswered (id : TransactionId) (resp : Response) (terminated : Bool)
  /-- A transaction of the dialog updates it with the response that it has. -/
  | updated (side : Side) (id : TransactionId) (req : Request) (resp : Option Response) (terminated asUas : Bool)
  | responded (side : Side) (id : TransactionId) (toTag : String) (sent arrived : Request) (statusCode : Nat)
      (contact : Option HeaderAddress) (terminated : Bool)
  | answered (side : Side) (id : TransactionId) (req : Request) (resp : Response) (terminated : Bool)
  | ackArrived (side : Side) (sent arrived : Request)

variable (invitation : Invitation) (ends : TwoEnds)

/-- The request is one of the other end, for which the provider has found the dialog. -/
def receives (side : Side) (sent arrived : Request) : Bool :=
  sent ∈ (ends.get side.other).requests && sent.relays arrived && (ends.get side).dialog.state ≠ .null

/-- The response has come to a request of this end. -/
def returned (side : Side) (req : Request) (resp : Response) : Bool :=
  req ∈ (ends.get side).requests &&
    (ends.get side.other).responses.any fun answer => answer.1 = req && answer.2.relays resp

/-- The request and the last response of the INVITE transaction of an end. -/
def inviteHas (side : Side) (resp : Option Response) : Bool :=
  match side with
  | .caller => resp.all fun resp => ends.inviteResponses.any (·.relays resp)
  | .callee => resp.all (· ∈ ends.inviteResponses)

def inviteOf : Side → Request
  | .caller => invitation.sent
  | .callee => invitation.arrived

/-- A transaction of an end has a request of its own or of the other end. -/
def transactionHas (side : Side) (req : Request) (resp : Option Response) : Bool :=
  (req ∈ (ends.get side).requests && resp.all fun resp => ends.returned side req resp) ||
    (ends.get side.other).requests.any fun sent => ends.receives side sent req &&
      resp.all fun resp => (sent, resp) ∈ (ends.get side).responses

def handle : Event → Checked TwoEnds
  | .create side pending method contact => do
      return ends.set side (← (ends.get side).create pending method contact)
  | .queue side method => do return ends.set side (← (ends.get side).queue method)
  | .dequeue side place => do return ends.set side (← (ends.get side).dequeue place)
  | .ack side cseq => do return ends.set side (← (ends.get side).ack cseq)
  | .ackChecked side pending => do return ends.set side (← (ends.get side).checkAckSent pending)
  | .timer200OkEnd side pending => do return ends.set side (← (ends.get side).on200OkEnd pending)
  | .terminateOnBye side value =>
      let callEnd := ends.get side
      return ends.set side { callEnd with dialog := { callEnd.dialog with terminateOnBye := value } }
  | .deleted side =>
      let callEnd := ends.get side
      return ends.set side { callEnd with dialog := callEnd.dialog.delete }
  | .inviteUpdated side id resp terminated asUas =>
      if ends.inviteHas side resp then do
        return ends.set side (← (ends.get side).update id (inviteOf invitation side) resp terminated asUas)
      else return ends
  | .inviteResponded id statusCode contact terminated => do
      let resp ← CallEnd.response invitation.toTag invitation.arrived statusCode contact
      let callee ← ends.callee.update id invitation.arrived (some resp) terminated true
      return { ends with callee := callee, inviteResponses := ends.inviteResponses ++ [resp] }
  | .inviteAnswered id resp terminated =>
      if ends.inviteHas .caller (some resp) then do
        return { ends with caller := ← ends.caller.answered id invitation.sent resp terminated }
      else return ends
  | .updated side id req resp terminated asUas =>
      if ends.transactionHas side req resp then do
        return ends.set side (← (ends.get side).update id req resp terminated asUas)
      else return ends
  | .responded side id toTag sent arrived statusCode contact terminated =>
      if ends.receives side sent arrived then do
        let resp ← CallEnd.response toTag arrived statusCode contact
        let callEnd ← (ends.get side).update id arrived (some resp) terminated true
        return ends.set side { callEnd with responses := callEnd.responses ++ [(sent, resp)] }
      else return ends
  | .answered side id req resp terminated =>
      if ends.returned side req resp then do
        return ends.set side (← (ends.get side).answered id req resp terminated)
      else return ends
  | .ackArrived side sent arrived =>
      if ends.receives side sent arrived then do return ends.set side (← (ends.get side).handleAck arrived)
      else return ends

def run : TwoEnds → List Event → Checked TwoEnds
  | ends, [] => .ok ends
  | ends, event :: rest => do
      let ends ← ends.handle invitation event
      run ends rest

/-- Both dialogs have been created, and the server transaction has sent its first response. -/
def start : Option TwoEnds := do
  let trying := Response.createFromRequest invitation.arrived 100
  let caller ← Dialog.new false invitation.sent none
  let callee ← Dialog.new true invitation.arrived (some trying)
  return { caller := { dialog := caller }, callee := { dialog := callee }, inviteResponses := [trying] }

end TwoEnds

/-- What each end puts into its requests. -/
def Invitation.naming (invitation : Invitation) : Side → Naming
  | .caller =>
      { callId := invitation.callId
        own := invitation.caller
        peer := { invitation.callee with tag := invitation.callee.tag.or (some invitation.toTag) }
        routes := invitation.arrived.recordRoutes.reverse
        ownTagged := invitation.tagged
        peerTagged := by cases invitation.callee.tag <;> rfl }
  | .callee =>
      { callId := invitation.callId
        own := { invitation.callee with tag := invitation.callee.tag.or (some invitation.toTag) }
        peer := invitation.caller
        routes := invitation.arrived.recordRoutes
        ownTagged := by cases invitation.callee.tag <;> rfl
        peerTagged := invitation.tagged }

theorem Invitation.naming_other (invitation : Invitation) (side : Side) :
    invitation.naming side.other = (invitation.naming side).mirror := by
  cases side with
  | caller => simp [naming, Side.other, Naming.mirror]
  | callee => rfl

namespace CallEnd

/-- An end whose messages have its names. -/
structure Coherent (naming : Naming) (isServer : Bool) (callEnd : CallEnd) : Prop where
  isServer : callEnd.dialog.isServer = isServer
  proper : callEnd.dialog.Proper
  suits : callEnd.dialog.Suits naming
  requests : ∀ req ∈ callEnd.requests,
    req.Speaks naming ∧ req.routes = naming.routes ∧ callEnd.dialog.state ≠ .null
  waiting : ∀ req ∈ callEnd.waiting,
    req.Speaks naming ∧ req.routes = [] ∧ callEnd.dialog.callId.isSome = true ∧ callEnd.dialog.state ≠ .null
  responses : ∀ answer ∈ callEnd.responses, answer.2.Answers naming.mirror

namespace Coherent

variable {naming : Naming} {isServer : Bool} {callEnd : CallEnd}

theorem evolve (coherent : callEnd.Coherent naming isServer) {dialog : Dialog}
    (evolves : Dialog.Evolves naming callEnd.dialog dialog) (proper : dialog.Proper) :
    Coherent naming isServer { callEnd with dialog := dialog } where
  isServer := evolves.isServer.trans coherent.isServer
  proper := proper
  suits := evolves.suits
  requests := fun req sent =>
    have ⟨speaks, routes, established⟩ := coherent.requests req sent
    ⟨speaks, routes, evolves.established established⟩
  waiting := fun req waits =>
    have ⟨speaks, routes, named, established⟩ := coherent.waiting req waits
    ⟨speaks, routes, evolves.named named, evolves.established established⟩
  responses := coherent.responses

theorem send (coherent : callEnd.Coherent naming isServer) {sent : List Request}
    (new : ∀ req ∈ sent, req.Speaks naming ∧ req.routes = naming.routes ∧ callEnd.dialog.state ≠ .null) :
    Coherent naming isServer { callEnd with requests := callEnd.requests ++ sent } where
  isServer := coherent.isServer
  proper := coherent.proper
  suits := coherent.suits
  requests := fun req among => (List.mem_append.mp among).elim (coherent.requests req) (new req)
  waiting := coherent.waiting
  responses := coherent.responses

/-- Only an established dialog makes a request. -/
theorem established (coherent : callEnd.Coherent naming isServer) {routes : List HeaderAddress} {req : Request}
    (makes : Dialog.Makes naming callEnd.dialog routes req) : callEnd.dialog.state ≠ .null := by
  intro new
  have targeted := makes.targeted
  rw [coherent.proper.targetless new] at targeted
  exact absurd targeted (by decide)

theorem create (coherent : callEnd.Coherent naming isServer) (pending : Bool) (method : String)
    (contact : Option HeaderAddress) :
    OnReturn (callEnd.create pending method contact) (Coherent naming isServer) := by
  apply Checked.onReturn_bind.mpr
  apply ((Dialog.createRequest_makes coherent.suits pending method).and
    (Dialog.createRequest_keeps callEnd.dialog pending method)).mono
  intro (dialog, made) ⟨⟨evolves, makes⟩, keeps, _⟩
  apply Checked.onReturn_pure.mpr
  apply (coherent.evolve evolves (keeps.proper coherent.proper)).send
  intro req among
  obtain ⟨bare, same, rfl⟩ := Option.map_eq_some_iff.mp (Option.mem_toList.mp among)
  have bareMakes := makes bare same
  exact ⟨⟨bareMakes.speaks.callId, bareMakes.speaks.fromHeader, bareMakes.speaks.toHeader⟩, bareMakes.routes,
    evolves.established (coherent.established bareMakes)⟩

theorem queue (coherent : callEnd.Coherent naming isServer) (method : String) :
    OnReturn (callEnd.queue method) (Coherent naming isServer) := by
  apply Checked.onReturn_bind.mpr
  apply (Dialog.createQueuedRequest_makes coherent.suits method).mono
  intro made makes
  refine Checked.onReturn_pure.mpr { coherent with waiting := fun req among => ?_ }
  rcases List.mem_append.mp among with waits | added
  · exact coherent.waiting req waits
  · have addedMakes := makes req (Option.mem_toList.mp added)
    exact ⟨addedMakes.speaks, addedMakes.routes, addedMakes.named, coherent.established addedMakes⟩

theorem dequeue (coherent : callEnd.Coherent naming isServer) (place : Nat) :
    OnReturn (callEnd.dequeue place) (Coherent naming isServer) := by
  unfold CallEnd.dequeue
  cases waits : callEnd.waiting[place]? with
  | none => exact Checked.onReturn_pure.mpr coherent
  | some req =>
      obtain ⟨speaks, routeless, named, established⟩ := coherent.waiting req (List.mem_of_getElem? waits)
      apply Checked.onReturn_bind.mpr
      apply ((Dialog.updateRequest_makes coherent.suits named speaks routeless).and
        (Dialog.updateRequest_keeps callEnd.dialog req)).mono
      intro (dialog, new) ⟨⟨evolves, newSpeaks, routes⟩, keeps, _⟩
      have evolved := coherent.evolve evolves (keeps.proper coherent.proper)
      have sent : ∀ other ∈ [new], other.Speaks naming ∧ other.routes = naming.routes ∧ dialog.state ≠ .null := by
        intro other among
        rw [List.mem_singleton.mp among]
        exact ⟨newSpeaks, routes, evolves.established established⟩
      exact Checked.onReturn_pure.mpr { evolved.send sent with
        waiting := fun other among => evolved.waiting other (List.mem_of_mem_eraseIdx among) }

theorem ack (coherent : callEnd.Coherent naming isServer) (cseq : Nat) :
    OnReturn (callEnd.ack cseq) (Coherent naming isServer) := by
  apply Checked.onReturn_bind.mpr
  apply (Dialog.createAck_makes coherent.suits cseq).mono
  intro made makes
  cases made with
  | none => exact Checked.onReturn_pure.mpr coherent
  | some ack =>
      have evolves := Dialog.sendAck_evolves coherent.suits ack
      have ackMakes := makes ack rfl
      apply Checked.onReturn_pure.mpr
      apply (coherent.evolve evolves ((Dialog.sendAck_keeps callEnd.dialog ack).proper coherent.proper)).send
      intro req among
      rw [List.mem_singleton.mp among]
      exact ⟨ackMakes.speaks, ackMakes.routes, evolves.established (coherent.established ackMakes)⟩

theorem checkAckSent (coherent : callEnd.Coherent naming isServer) (pending : Bool) :
    OnReturn (callEnd.checkAckSent pending) (Coherent naming isServer) := by
  apply Checked.onReturn_bind.mpr
  apply ((Dialog.checkAckSent_makes coherent.suits pending).and
    (Dialog.checkAckSent_keeps callEnd.dialog pending)).mono
  intro (dialog, bye) ⟨⟨evolves, makes⟩, keeps, _⟩
  apply Checked.onReturn_pure.mpr
  apply (coherent.evolve evolves (keeps.proper coherent.proper)).send
  intro req among
  have byeMakes := makes req (Option.mem_toList.mp among)
  exact ⟨byeMakes.speaks, byeMakes.routes, evolves.established (coherent.established byeMakes)⟩

theorem on200OkEnd (coherent : callEnd.Coherent naming isServer) (pending : Bool) :
    OnReturn (callEnd.on200OkEnd pending) (Coherent naming isServer) := by
  unfold CallEnd.on200OkEnd
  split
  · next armed =>
      apply Checked.onReturn_bind.mpr
      apply ((Dialog.on200OkEnd_makes coherent.suits pending).and
        (Dialog.on200OkEnd_keeps coherent.proper armed pending)).mono
      intro (dialog, bye) ⟨⟨evolves, makes⟩, keeps⟩
      apply Checked.onReturn_pure.mpr
      apply (coherent.evolve evolves (keeps.proper coherent.proper)).send
      intro req among
      rw [List.mem_singleton.mp among]
      exact ⟨makes.speaks, makes.routes, evolves.established (coherent.established makes)⟩
  · exact Checked.onReturn_pure.mpr coherent

theorem handleAck (coherent : callEnd.Coherent naming isServer) (ack : Request) :
    OnReturn (callEnd.handleAck ack) (Coherent naming isServer) := by
  apply Checked.onReturn_bind.mpr
  apply ((Dialog.handleAck_evolves coherent.suits ack).and (Dialog.handleAck_keeps callEnd.dialog ack)).mono
  intro (dialog, recognised) ⟨evolves, keeps⟩
  exact Checked.onReturn_pure.mpr (coherent.evolve evolves (keeps.proper coherent.proper))

/-- An update of a new dialog comes from the INVITE of the call. -/
theorem update (coherent : callEnd.Coherent naming isServer) {req : Request} {resp : Option Response}
    (opens : ∀ answer, resp = some answer → callEnd.dialog.state = .null → 100 < answer.statusCode →
      answer.statusCode < 300 → Dialog.Opens naming isServer req answer)
    (id : TransactionId) (terminated asUas : Bool) :
    OnReturn (callEnd.update id req resp terminated asUas) (Coherent naming isServer) := by
  have nameable : ∀ answer, resp = some answer → callEnd.dialog.establishing req resp = true →
      callEnd.dialog.nameable req answer = true := by
    intro answer answered establishing
    subst answered
    simp only [Dialog.establishing, Option.any_some, Bool.and_eq_true, decide_eq_true_eq] at establishing
    have opening := opens answer rfl establishing.1.1 establishing.2.1 establishing.2.2
    have tagged : answer.toHeader.any (·.tag.isSome) = true := by
      rw [opening.toHeader]
      cases isServer with
      | true => exact naming.ownTagged
      | false => exact naming.peerTagged
    have contact : (!callEnd.dialog.isServer || req.contact.isSome) = true := by
      rw [coherent.isServer]
      cases isServer with
      | true => exact opening.contact rfl
      | false => rfl
    unfold Dialog.nameable
    rw [opening.callId, opening.cseq, opening.vias, tagged, contact]
    rfl
  apply Checked.onReturn_bind.mpr
  apply ((Dialog.update_evolves coherent.suits (coherent.isServer.symm ▸ opens) id terminated asUas).and
    (Dialog.update_identifies coherent.proper nameable id terminated asUas)).mono
  rintro ⟨dialog, _⟩ ⟨evolves, identifies⟩
  have proper : dialog.Proper := by
    rcases identifies with keeps | ⟨_, answer, _, names⟩
    · exact keeps.proper coherent.proper
    · exact names.proper
  exact Checked.onReturn_pure.mpr (coherent.evolve evolves proper)

theorem answered (coherent : callEnd.Coherent naming isServer) {req : Request} {resp : Response}
    (opens : callEnd.dialog.state = .null → 100 < resp.statusCode → resp.statusCode < 300 →
      Dialog.Opens naming isServer req resp)
    (id : TransactionId) (terminated : Bool) :
    OnReturn (callEnd.answered id req resp terminated) (Coherent naming isServer) := by
  have updated : OnReturn (callEnd.update id req (some resp) terminated false) (Coherent naming isServer) := by
    apply coherent.update
    intro answer same
    rw [← Option.some.inj same]
    exact opens
  unfold CallEnd.answered
  split
  · apply Checked.onReturn_bind.mpr
    cases callEnd.dialog.matchMessage resp.toHeaders false with
    | error fault => trivial
    | ok matched =>
        cases matched with
        | true => exact updated
        | false => exact Checked.onReturn_pure.mpr coherent
  · exact updated

end Coherent

/-- The response of a server transaction goes back to the sender of the request, with a tag and with the routes. -/
theorem response_fills (toTag : String) (arrived : Request) (statusCode : Nat) (contact : Option HeaderAddress) :
    OnReturn (response toTag arrived statusCode contact) fun resp =>
      resp.statusCode = statusCode ∧ resp.callId = arrived.callId ∧ resp.fromHeader = arrived.fromHeader ∧
      (statusCode ≠ 100 → ∃ header, arrived.toHeader = some header ∧
        resp.toHeader = some { header with tag := header.tag.or (some toTag) }) ∧
      (statusCode = 100 → resp.toHeader = arrived.toHeader) ∧
      (100 < statusCode → statusCode < 300 → resp.recordRoutes = arrived.recordRoutes) := by
  unfold response Provider.fillResponse
  split
  · next trying =>
      have trying : statusCode = 100 := trying
      exact Checked.onReturn_pure.mpr ⟨rfl, rfl, rfl, fun other => absurd trying other, fun _ => rfl,
        fun more => absurd trying (by omega)⟩
  · next other =>
      have other : statusCode ≠ 100 := other
      apply Checked.onReturn_bind.mpr
      apply Checked.onReturn_deref.mpr
      intro header has
      have has : arrived.toHeader = some header := has
      dsimp only
      split
      · exact Checked.onReturn_pure.mpr ⟨rfl, rfl, rfl, fun _ => ⟨header, has, rfl⟩, fun trying => absurd trying other,
          fun _ _ => rfl⟩
      · next plain =>
          refine Checked.onReturn_pure.mpr ⟨rfl, rfl, rfl, fun _ => ⟨header, has, rfl⟩, fun trying =>
            absurd trying other, fun more less => absurd ?_ plain⟩
          simp [Response.createFromRequest, more, less]

end CallEnd

theorem Request.Speaks.relays {naming : Naming} {sent arrived : Request} (speaks : sent.Speaks naming)
    (relayed : sent.relays arrived = true) : arrived.Speaks naming := by
  simp only [Request.relays, Bool.and_eq_true, decide_eq_true_eq] at relayed
  obtain ⟨⟨⟨⟨_, callId⟩, _⟩, fromHeader⟩, toHeader⟩ := relayed
  exact ⟨callId.trans speaks.callId, fromHeader.trans speaks.fromHeader, toHeader.trans speaks.toHeader⟩

namespace Invitation

variable {invitation : Invitation}

/-- A response to the INVITE, from which the caller takes its names. -/
structure Answers (invitation : Invitation) (resp : Response) : Prop where
  callId : resp.callId = some invitation.callId
  fromHeader : resp.fromHeader = some invitation.caller
  toHeader : resp.statusCode ≠ 100 → resp.toHeader = some (invitation.naming .caller).peer
  routes : 100 < resp.statusCode → resp.statusCode < 300 →
    resp.recordRoutes = invitation.arrived.recordRoutes

theorem Answers.relays {sent arrived : Response} (answers : invitation.Answers sent)
    (relayed : sent.relays arrived = true) : invitation.Answers arrived := by
  simp only [Response.relays, Bool.and_eq_true, decide_eq_true_eq] at relayed
  obtain ⟨⟨⟨⟨⟨statusCode, callId⟩, _⟩, fromHeader⟩, toHeader⟩, recordRoutes⟩ := relayed
  refine ⟨callId.trans answers.callId, fromHeader.trans answers.fromHeader, fun other => ?_, fun more less => ?_⟩
  · exact toHeader.trans (answers.toHeader (statusCode ▸ other))
  · exact recordRoutes.trans (answers.routes (statusCode ▸ more) (statusCode ▸ less))

theorem Answers.opens_caller {resp : Response} (answers : invitation.Answers resp) (provisional : 100 < resp.statusCode)
    (successful : resp.statusCode < 300) : Dialog.Opens (invitation.naming .caller) false invitation.sent resp where
  callId := invitation.called
  cseq := invitation.numbered
  vias := invitation.routed.1
  contact := nofun
  toHeader := answers.toHeader (by omega)
  routes := congrArg List.reverse (answers.routes provisional successful).symm

theorem Answers.opens_callee {resp : Response} (answers : invitation.Answers resp)
    (provisional : 100 < resp.statusCode) :
    Dialog.Opens (invitation.naming .callee) true invitation.arrived resp := by
  have relayed := invitation.relayed
  simp only [Request.relays, Bool.and_eq_true, decide_eq_true_eq] at relayed
  obtain ⟨⟨⟨⟨_, callId⟩, cseq⟩, _⟩, _⟩ := relayed
  exact
    { callId := callId.trans invitation.called
      cseq := cseq ▸ invitation.numbered
      vias := invitation.routed.2
      contact := fun _ => invitation.reachable
      toHeader := answers.toHeader (by omega)
      routes := rfl }

/-- The server transaction of the INVITE answers it. -/
theorem response_answers (statusCode : Nat) (contact : Option HeaderAddress) :
    OnReturn (CallEnd.response invitation.toTag invitation.arrived statusCode contact) invitation.Answers := by
  have relayed := invitation.relayed
  simp only [Request.relays, Bool.and_eq_true, decide_eq_true_eq] at relayed
  obtain ⟨⟨⟨⟨_, sameCallId⟩, _⟩, sameFrom⟩, sameTo⟩ := relayed
  apply (CallEnd.response_fills invitation.toTag invitation.arrived statusCode contact).mono
  intro resp ⟨status, callId, fromHeader, toHeader, _, routes⟩
  refine ⟨callId.trans (sameCallId.trans invitation.called), fromHeader.trans (sameFrom.trans invitation.fromHeader),
    fun other => ?_, fun more less => routes (status ▸ more) (status ▸ less)⟩
  obtain ⟨header, has, filled⟩ := toHeader (status ▸ other)
  have same : header = invitation.callee := Option.some.inj (has.symm.trans (sameTo.trans invitation.toHeader))
  rw [filled, same]
  rfl

end Invitation

/-- The end that has been called is the server of the dialog. -/
def Side.isServer : Side → Bool
  | .caller => false
  | .callee => true

namespace TwoEnds

/-- Both ends have their names, and the responses to the INVITE have them too. -/
structure Coherent (invitation : Invitation) (ends : TwoEnds) : Prop where
  get (side : Side) : (ends.get side).Coherent (invitation.naming side) side.isServer
  answers : ∀ resp ∈ ends.inviteResponses, invitation.Answers resp

variable {invitation : Invitation} {ends : TwoEnds}

namespace Coherent

theorem set (coherent : ends.Coherent invitation) {side : Side} {callEnd : CallEnd}
    (new : callEnd.Coherent (invitation.naming side) side.isServer) : (ends.set side callEnd).Coherent invitation where
  get := fun other => by
    cases side <;> cases other <;> first | exact new | exact coherent.get _
  answers := by
    cases side <;> exact coherent.answers

/-- An operation of one end. -/
theorem local_step (coherent : ends.Coherent invitation) {side : Side} {operation : Checked CallEnd}
    (keeps : OnReturn operation fun callEnd => callEnd.Coherent (invitation.naming side) side.isServer) :
    OnReturn (operation >>= fun callEnd => pure (ends.set side callEnd)) (Coherent invitation) := by
  apply Checked.onReturn_bind.mpr
  apply keeps.mono
  intro callEnd new
  exact Checked.onReturn_pure.mpr (coherent.set new)

/-- A request that comes from the other end has its names. -/
theorem received (coherent : ends.Coherent invitation) {side : Side} {sent arrived : Request}
    (receives : ends.receives side sent arrived = true) :
    arrived.Speaks (invitation.naming side).mirror ∧ (ends.get side).dialog.state ≠ .null := by
  simp only [TwoEnds.receives, Bool.and_eq_true, decide_eq_true_eq] at receives
  obtain ⟨⟨among, relayed⟩, established⟩ := receives
  have speaks := ((coherent.get side.other).requests sent among).1
  rw [invitation.naming_other] at speaks
  exact ⟨speaks.relays relayed, established⟩

/-- The response of a dialog goes back to the sender of the request. -/
theorem responds {naming : Naming} {arrived : Request} (speaks : arrived.Speaks naming) (toTag : String)
    (statusCode : Nat) (contact : Option HeaderAddress) :
    OnReturn (CallEnd.response toTag arrived statusCode contact) (Response.Answers naming) := by
  apply (CallEnd.response_fills toTag arrived statusCode contact).mono
  intro resp ⟨_, callId, fromHeader, toHeader, trying, _⟩
  refine ⟨callId.trans speaks.callId, fromHeader.trans speaks.fromHeader, ?_⟩
  by_cases immediate : statusCode = 100
  · exact (trying immediate).trans speaks.toHeader
  · obtain ⟨header, has, filled⟩ := toHeader immediate
    have same : header = naming.peer := Option.some.inj (has.symm.trans speaks.toHeader)
    obtain ⟨tag, tagged⟩ := Option.isSome_iff_exists.mp naming.peerTagged
    rw [filled, same, tagged, Option.some_or, ← tagged]

/-- A transaction of the dialog has a request that was made or received by an established dialog. -/
theorem established (coherent : ends.Coherent invitation) {side : Side} {req : Request} {resp : Option Response}
    (has : ends.transactionHas side req resp = true) : (ends.get side).dialog.state ≠ .null := by
  simp only [TwoEnds.transactionHas, Bool.or_eq_true, Bool.and_eq_true, decide_eq_true_eq, List.any_eq_true] at has
  rcases has with ⟨sent, _⟩ | ⟨_, _, receives, _⟩
  · exact ((coherent.get side).requests req sent).2.2
  · exact (coherent.received receives).2

/-- The response that the INVITE transaction of an end has opens its dialog. -/
theorem opens (coherent : ends.Coherent invitation) {side : Side} {resp : Response}
    (has : ends.inviteHas side (some resp) = true) (provisional : 100 < resp.statusCode)
    (successful : resp.statusCode < 300) :
    Dialog.Opens (invitation.naming side) side.isServer (inviteOf invitation side) resp := by
  cases side with
  | caller =>
      simp only [TwoEnds.inviteHas, Option.all_some, List.any_eq_true] at has
      obtain ⟨sent, among, relayed⟩ := has
      exact ((coherent.answers sent among).relays relayed).opens_caller provisional successful
  | callee =>
      simp only [TwoEnds.inviteHas, Option.all_some, decide_eq_true_eq] at has
      exact (coherent.answers resp has).opens_callee provisional

theorem handle (coherent : ends.Coherent invitation) (event : Event) :
    OnReturn (ends.handle invitation event) (Coherent invitation) := by
  cases event with
  | create side pending method contact => exact coherent.local_step ((coherent.get side).create pending method contact)
  | queue side method => exact coherent.local_step ((coherent.get side).queue method)
  | dequeue side place => exact coherent.local_step ((coherent.get side).dequeue place)
  | ack side cseq => exact coherent.local_step ((coherent.get side).ack cseq)
  | ackChecked side pending => exact coherent.local_step ((coherent.get side).checkAckSent pending)
  | timer200OkEnd side pending => exact coherent.local_step ((coherent.get side).on200OkEnd pending)
  | terminateOnBye side value =>
      have old := coherent.get side
      have evolves : Dialog.Evolves (invitation.naming side) (ends.get side).dialog
          { (ends.get side).dialog with terminateOnBye := value } :=
        old.suits.other rfl rfl rfl rfl rfl rfl rfl id
      have keeps : Dialog.Keeps (ends.get side).dialog { (ends.get side).dialog with terminateOnBye := value } :=
        .unread rfl rfl rfl id fun _ => rfl
      exact Checked.onReturn_pure.mpr (coherent.set (old.evolve evolves (keeps.proper old.proper)))
  | deleted side =>
      have old := coherent.get side
      have evolves : Dialog.Evolves (invitation.naming side) (ends.get side).dialog (ends.get side).dialog.delete :=
        old.suits.other rfl rfl rfl rfl rfl rfl rfl nofun
      have keeps := Dialog.Keeps.delete (ends.get side).dialog
      exact Checked.onReturn_pure.mpr (coherent.set (old.evolve evolves (keeps.proper old.proper)))
  | inviteUpdated side id resp terminated asUas =>
      change OnReturn (ite _ _ _) _
      split
      · next has =>
          apply coherent.local_step
          apply (coherent.get side).update
          intro answer same _ provisional successful
          exact coherent.opens (same ▸ has) provisional successful
      · exact Checked.onReturn_pure.mpr coherent
  | inviteResponded id statusCode contact terminated =>
      apply Checked.onReturn_bind.mpr
      apply (Invitation.response_answers statusCode contact).mono
      intro resp answers
      have opens : ∀ answer, some resp = some answer → ends.callee.dialog.state = .null → 100 < answer.statusCode →
          answer.statusCode < 300 → Dialog.Opens (invitation.naming .callee) true invitation.arrived answer := by
        intro answer same _ provisional _
        rw [← Option.some.inj same] at provisional ⊢
        exact answers.opens_callee provisional
      apply Checked.onReturn_bind.mpr
      apply ((coherent.get .callee).update opens id terminated true).mono
      intro callee new
      refine Checked.onReturn_pure.mpr ⟨(coherent.set new).get, fun other among => ?_⟩
      rcases List.mem_append.mp among with earlier | latest
      · exact coherent.answers other earlier
      · rw [List.mem_singleton.mp latest]
        exact answers
  | inviteAnswered id resp terminated =>
      change OnReturn (ite _ _ _) _
      split
      · next has =>
          exact coherent.local_step ((coherent.get .caller).answered
            (fun _ provisional successful => coherent.opens has provisional successful) id terminated)
      · exact Checked.onReturn_pure.mpr coherent
  | updated side id req resp terminated asUas =>
      change OnReturn (ite _ _ _) _
      split
      · next has =>
          apply coherent.local_step
          apply (coherent.get side).update
          exact fun _ _ new => absurd new (coherent.established has)
      · exact Checked.onReturn_pure.mpr coherent
  | responded side id toTag sent arrived statusCode contact terminated =>
      change OnReturn (ite _ _ _) _
      split
      · next receives =>
          obtain ⟨speaks, established⟩ := coherent.received receives
          apply Checked.onReturn_bind.mpr
          apply (responds speaks toTag statusCode contact).mono
          intro resp answers
          apply Checked.onReturn_bind.mpr
          apply ((coherent.get side).update (fun _ _ new => absurd new established) id terminated true).mono
          intro callEnd new
          apply Checked.onReturn_pure.mpr
          apply coherent.set
          refine { new with responses := fun answer among => ?_ }
          rcases List.mem_append.mp among with earlier | latest
          · exact new.responses answer earlier
          · rw [List.mem_singleton.mp latest]
            exact answers
      · exact Checked.onReturn_pure.mpr coherent
  | answered side id req resp terminated =>
      change OnReturn (ite _ _ _) _
      split
      · next returned =>
          simp only [TwoEnds.returned, Bool.and_eq_true, decide_eq_true_eq] at returned
          have established := ((coherent.get side).requests req returned.1).2.2
          exact coherent.local_step ((coherent.get side).answered (fun new => absurd new established) id terminated)
      · exact Checked.onReturn_pure.mpr coherent
  | ackArrived side sent arrived =>
      change OnReturn (ite _ _ _) _
      split
      · exact coherent.local_step ((coherent.get side).handleAck arrived)
      · exact Checked.onReturn_pure.mpr coherent

theorem run (coherent : ends.Coherent invitation) (events : List Event) :
    OnReturn (ends.run invitation events) (Coherent invitation) := by
  induction events generalizing ends with
  | nil => exact coherent
  | cons event rest ih =>
      apply Checked.onReturn_bind.mpr
      apply (coherent.handle event).mono
      intro next coherent
      exact ih coherent

end Coherent

/-- An end whose dialog has just been created. -/
theorem new_coherent {naming : Naming} {isServer : Bool} {dialog : Dialog} (side : dialog.isServer = isServer)
    (awaits : dialog.Awaits naming) (unnamed : dialog.callId = none) (new : dialog.state = .null)
    (targetless : dialog.remoteTarget = none) (unarmed : dialog.timer200OkEnd = false) :
    CallEnd.Coherent naming isServer { dialog := dialog } where
  isServer := side
  proper :=
    { named := fun seen => by simp [Dialog.visible, new] at seen
      party := by
        have party := awaits.party
        split
        · next server =>
            rw [if_pos server] at party
            rw [party.2]
            exact naming.peerTagged
        · next client =>
            rw [if_neg client] at party
            rw [party.2]
            exact naming.ownTagged
      armed := fun armed => by simp [unarmed] at armed
      targetless := fun _ => targetless }
  suits :=
    { awaits := fun _ => awaits
      bears := fun named => by simp [unnamed] at named }
  requests := fun req among => absurd among List.not_mem_nil
  waiting := fun req among => absurd among List.not_mem_nil
  responses := fun answer among => absurd among List.not_mem_nil

theorem start_coherent (invitation : Invitation) : ∃ ends, start invitation = some ends ∧ ends.Coherent invitation := by
  obtain ⟨fromTag, tagged⟩ := Option.isSome_iff_exists.mp invitation.tagged
  have relayed := invitation.relayed
  simp only [Request.relays, Bool.and_eq_true, decide_eq_true_eq] at relayed
  obtain ⟨⟨⟨⟨_, sameCallId⟩, _⟩, sameFrom⟩, sameTo⟩ := relayed
  have fromHeader : invitation.arrived.fromHeader = some invitation.caller := sameFrom.trans invitation.fromHeader
  have toHeader : invitation.arrived.toHeader = some invitation.callee := sameTo.trans invitation.toHeader
  have caller : Dialog.new false invitation.sent none = some
      { isServer := false, localTag := some fromTag, localParty := some invitation.caller,
        routeSet := invitation.sent.routes } := by
    simp [Dialog.new, invitation.fromHeader, tagged]
  have callee : Dialog.new true invitation.arrived (some (Response.createFromRequest invitation.arrived 100)) = some
      { isServer := true, remoteTag := some fromTag, localTag := invitation.callee.tag,
        remoteParty := some invitation.caller } := by
    simp [Dialog.new, Response.createFromRequest, fromHeader, toHeader, tagged]
  have drawn : invitation.callee.tag = none ∨ invitation.callee.tag = (invitation.naming .callee).own.tag := by
    cases own : invitation.callee.tag <;> simp [Invitation.naming, own]
  refine ⟨_, by rw [start, caller, callee]; rfl, fun side => ?_, fun resp among => ?_⟩
  · cases side with
    | caller =>
        show CallEnd.Coherent (invitation.naming .caller) false
          { dialog :=
              { isServer := false, localTag := some fromTag, localParty := some invitation.caller,
                routeSet := invitation.sent.routes } }
        refine new_coherent rfl ⟨?_, ?_⟩ rfl rfl rfl rfl
        · exact ⟨rfl, tagged.symm⟩
        · exact Or.inl rfl
    | callee =>
        show CallEnd.Coherent (invitation.naming .callee) true
          { dialog :=
              { isServer := true, remoteTag := some fromTag, localTag := invitation.callee.tag,
                remoteParty := some invitation.caller } }
        refine new_coherent rfl ⟨?_, ?_⟩ rfl rfl rfl rfl
        · exact ⟨rfl, tagged.symm⟩
        · exact drawn
  · rw [List.mem_singleton.mp among]
    exact ⟨sameCallId.trans invitation.called, fromHeader, fun other => absurd rfl other, fun more =>
      absurd more (Nat.lt_irrefl 100)⟩

/-- Each dialog has as its own what is the peer's in the other one, and the routes in the other order. -/
structure Mirrors (caller callee : Dialog) : Prop where
  callId : callee.callId = caller.callId
  localTag : callee.localTag = caller.remoteTag
  remoteTag : callee.remoteTag = caller.localTag
  localParty : callee.localParty = caller.remoteParty
  remoteParty : callee.remoteParty = caller.localParty
  routeSet : callee.routeSet = caller.routeSet.reverse

/-- A dialog that the provider finds has its names. -/
theorem coherent_bears {naming : Naming} {isServer : Bool} {callEnd : CallEnd}
    (coherent : callEnd.Coherent naming isServer) (seen : callEnd.dialog.visible = true) :
    callEnd.dialog.Bears naming ∧ callEnd.dialog.state ≠ .null := by
  refine ⟨coherent.suits.bears (coherent.proper.named seen).1, fun new => ?_⟩
  rw [Dialog.visible, new] at seen
  exact absurd seen (by decide)

/--
Whatever the two ends of a call do, and whatever the network loses, repeats, and reorders: the dialogs that the ends
find mirror each other, each request of one end is recognised by the dialog of the other end and carries the routes of
its own dialog, and each response other than the 100 Trying is recognised by the dialog of the end that it answers.
-/
theorem ends_agree (invitation : Invitation) : ∃ ends, start invitation = some ends ∧ ∀ events,
    OnReturn (ends.run invitation events) fun after =>
      (after.caller.dialog.visible = true → after.callee.dialog.visible = true →
        Mirrors after.caller.dialog after.callee.dialog) ∧
      (∀ side, ∀ req ∈ (after.get side).requests,
        ((after.get side).dialog.visible = true → req.routes = (after.get side).dialog.routeSet) ∧
        ((after.get side.other).dialog.visible = true →
          (after.get side.other).dialog.matchMessage req.toHeaders true = .ok true)) ∧
      (∀ side, ∀ answer ∈ (after.get side).responses, (after.get side.other).dialog.visible = true →
        (after.get side.other).dialog.matchMessage answer.2.toHeaders false = .ok true) ∧
      ∀ resp ∈ after.inviteResponses, resp.statusCode ≠ 100 → after.caller.dialog.visible = true →
        after.caller.dialog.matchMessage resp.toHeaders false = .ok true := by
  obtain ⟨ends, begun, coherent⟩ := start_coherent invitation
  refine ⟨ends, begun, fun events => (coherent.run events).mono fun after coherent => ⟨?_, ?_, ?_, ?_⟩⟩
  · intro callerSeen calleeSeen
    have caller := (coherent_bears (coherent.get .caller) callerSeen).1
    have callee := (coherent_bears (coherent.get .callee) calleeSeen).1
    exact
      { callId := callee.callId.trans caller.callId.symm
        localTag := callee.localTag.trans caller.remoteTag.symm
        remoteTag := callee.remoteTag.trans caller.localTag.symm
        localParty := callee.localParty.trans caller.remoteParty.symm
        remoteParty := callee.remoteParty.trans caller.localParty.symm
        routeSet := by
          have routes : after.caller.dialog.routeSet = invitation.arrived.recordRoutes.reverse := caller.routeSet
          rw [routes, List.reverse_reverse]
          exact callee.routeSet }
  · intro side req among
    obtain ⟨speaks, routes, _⟩ := (coherent.get side).requests req among
    refine ⟨fun seen => ?_, fun seen => ?_⟩
    · exact routes.trans (coherent_bears (coherent.get side) seen).1.routeSet.symm
    · obtain ⟨bears, established⟩ := coherent_bears (coherent.get side.other) seen
      apply bears.matches_request established
      rw [invitation.naming_other, Naming.mirror_mirror]
      exact speaks
  · intro side answer among seen
    obtain ⟨bears, established⟩ := coherent_bears (coherent.get side.other) seen
    apply bears.matches_response established
    rw [invitation.naming_other]
    exact (coherent.get side).responses answer among
  · intro resp among other seen
    obtain ⟨bears, established⟩ := coherent_bears (coherent.get .caller) seen
    have answers := coherent.answers resp among
    exact bears.matches_response established ⟨answers.callId, answers.fromHeader, answers.toHeader other⟩

/-- An INVITE through two proxies. -/
def proxiedInvitation : Invitation :=
  let invite : Request :=
    { method := "INVITE"
      callId := some "call"
      cseq := some { seqNumber := 20, method := "INVITE" }
      fromHeader := some { tag := some "alice" }
      toHeader := some {}
      vias := [{}]
      contact := some { uri := some { text := "sip:alice@home" } } }
  { sent := invite
    arrived := { invite with
      recordRoutes := [{ uri := some { text := "sip:outer" } }, { uri := some { text := "sip:inner" } }] }
    callId := "call"
    caller := { tag := some "alice" }
    callee := {}
    toTag := "bob"
    called := rfl
    fromHeader := rfl
    tagged := rfl
    toHeader := rfl
    relayed := by decide
    numbered := rfl
    routed := ⟨rfl, rfl⟩
    reachable := rfl }

/-- The callee answers, its answer arrives twice, the caller sends an ACK, and the callee an INFO. -/
def answeredCall : List Event :=
  let contact : HeaderAddress := { uri := some { text := "sip:bob@work" } }
  let answer : Response :=
    { statusCode := 200
      callId := some "call"
      cseq := some { seqNumber := 20, method := "INVITE" }
      fromHeader := some { tag := some "alice" }
      toHeader := some { tag := some "bob" }
      contact := some contact
      recordRoutes := proxiedInvitation.arrived.recordRoutes }
  [.inviteUpdated .caller 0 none false false, .inviteResponded 0 180 none false,
    .inviteResponded 0 200 (some contact) false, .inviteAnswered 0 answer false, .inviteAnswered 0 answer false,
    .ack .caller 20, .create .callee false "INFO" none]

/-- The two ends after the call. -/
def answered : Option TwoEnds := do
  let ends ← start proxiedInvitation
  (ends.run proxiedInvitation answeredCall).toOption

/-- Both dialogs are confirmed and mirror each other, the requests take the route of the proxies, and what has been sent
is recognised. -/
theorem ends_agree_proxied : ∃ after, answered = some after ∧
    after.caller.dialog.state = .confirmed ∧ after.callee.dialog.state = .confirmed ∧
    after.caller.requests.map (·.routes) = [proxiedInvitation.arrived.recordRoutes.reverse] ∧
    after.callee.requests.map (·.routes) = [proxiedInvitation.arrived.recordRoutes] ∧
    after.inviteResponses.map (·.statusCode) = [100, 180, 200] ∧
    Mirrors after.caller.dialog after.callee.dialog ∧
    (∀ side, ∀ req ∈ (after.get side).requests,
      (after.get side.other).dialog.matchMessage req.toHeaders true = .ok true) ∧
    ∀ resp ∈ after.inviteResponses, resp.statusCode ≠ 100 →
      after.caller.dialog.matchMessage resp.toHeaders false = .ok true := by
  have evaluated : answered.map (fun after =>
      ([after.caller.dialog.state, after.callee.dialog.state], after.caller.requests.map (·.routes),
        after.callee.requests.map (·.routes), after.inviteResponses.map (·.statusCode))) =
      some ([.confirmed, .confirmed], [proxiedInvitation.arrived.recordRoutes.reverse],
        [proxiedInvitation.arrived.recordRoutes], [100, 180, 200]) := by
    decide +kernel
  obtain ⟨after, isAnswered, fields⟩ := Option.map_eq_some_iff.mp evaluated
  simp only [Prod.mk.injEq, List.cons.injEq, and_true] at fields
  obtain ⟨⟨caller, callee⟩, sent, received, responses⟩ := fields
  have callerSeen : after.caller.dialog.visible = true := by rw [Dialog.visible, caller]; rfl
  have calleeSeen : after.callee.dialog.visible = true := by rw [Dialog.visible, callee]; rfl
  obtain ⟨ends, begun, agree⟩ := ends_agree proxiedInvitation
  have ran : ends.run proxiedInvitation answeredCall = .ok after := by
    rw [answered, begun] at isAnswered
    have same : (ends.run proxiedInvitation answeredCall).toOption = some after := isAnswered
    cases ended : ends.run proxiedInvitation answeredCall with
    | error fault =>
        rw [ended] at same
        cases same
    | ok last =>
        rw [ended] at same
        exact congrArg Except.ok (Option.some.inj same)
  obtain ⟨mirrors, requests, _, answers⟩ := (agree answeredCall).elim ran
  refine ⟨after, isAnswered, caller, callee, sent, received, responses, mirrors callerSeen calleeSeen, ?_, ?_⟩
  · intro side req among
    apply (requests side req among).2
    cases side with
    | caller => exact calleeSeen
    | callee => exact callerSeen
  · exact fun resp among other => answers resp among other callerSeen

end TwoEnds

end BelleSip
