import BelleSip.Sip.Message

/-
This file defines the correction of the Via of a received request and the hop of its responses. It
characterizes the Via headers for which the responses return to the source of the request.
-/

namespace BelleSip

/-- The source address of a received message, as `getnameinfo` writes it without a v4 mapping. -/
structure SourceAddress where
  ip : String
  port : UInt16
deriving DecidableEq, Repr

/-- This is `belle_sip_hop_t`, without its `cname`, which is null for a response. -/
structure Hop where
  transport : String
  host : String
  port : Int
deriving DecidableEq, Repr

/-- This is `belle_sip_listening_point_get_well_known_port`. -/
def getWellKnownPort (transport : String) : Int :=
  if strcasecmp transport "UDP" || strcasecmp transport "TCP" then 5060
  else if strcasecmp transport "DTLS" || strcasecmp transport "TLS" then 5061
  else -1

theorem getWellKnownPort_ne_zero (transport : String) : getWellKnownPort transport ≠ 0 := by
  unfold getWellKnownPort
  split
  · decide
  · split <;> decide

namespace HeaderVia

/-- This is `belle_sip_header_via_get_listening_port`. -/
def getListeningPort (via : HeaderVia) : Int :=
  if via.port = 0 then getWellKnownPort via.transport else via.port

theorem getListeningPort_ne_zero (via : HeaderVia) : via.getListeningPort ≠ 0 := by
  unfold getListeningPort
  split
  · exact getWellKnownPort_ne_zero via.transport
  · assumption

/-- This is `belle_sip_header_via_get_transport_lowercase`. -/
def getTransportLowercase (via : HeaderVia) : String :=
  if strcasecmp "udp" via.transport then "udp"
  else if strcasecmp "tcp" via.transport then "tcp"
  else if strcasecmp "tls" via.transport then "tls"
  else if strcasecmp "dtls" via.transport then "dtls"
  else via.transport

/-- This is `belle_sip_header_via_get_rport`. -/
def getRport (via : HeaderVia) : Int := via.parameters.getInt "rport"

/-- This is `belle_sip_header_via_set_rport`. -/
def setRport (via : HeaderVia) (value : Int) : HeaderVia :=
  if value = -1 then { via with parameters := via.parameters.setParameter "rport" none }
  else if 0 < value ∧ value < 65536 then
    { via with parameters := via.parameters.setParameter "rport" (some value.toNat.repr) }
  else via

/-- This is the part of `fix_incoming_via` on `received`. -/
def fixReceived (via : HeaderVia) (origin : SourceAddress) : HeaderVia :=
  if via.host ≠ origin.ip then { via with received := some origin.ip } else via

/-- This is the part of `fix_incoming_via` on `rport`. -/
def fixRport (via : HeaderVia) (origin : SourceAddress) : HeaderVia :=
  if via.parameters.hasParameter "rport" ∧ (origin.port.toNat : Int) ≠ via.getListeningPort then
    via.setRport origin.port.toNat
  else via

def fixIncoming (via : HeaderVia) (origin : SourceAddress) : HeaderVia :=
  (via.fixReceived origin).fixRport origin

/-- The hop that `belle_sip_response_get_return_hop` builds from the topmost Via. -/
def returnHop (via : HeaderVia) : Hop where
  transport := via.getTransportLowercase
  host := via.received.getD via.host
  port := if 0 < via.getRport then via.getRport else via.getListeningPort

end HeaderVia

/-- This is `fix_incoming_via`; the origin is unknown when the channel has no peer or `getnameinfo` fails. -/
def Request.fixIncomingVia (req : Request) (origin : Option SourceAddress) : Request :=
  match origin, req.vias with
  | some origin, via :: rest => { req with vias := via.fixIncoming origin :: rest }
  | _, _ => req

/-- This is `belle_sip_response_get_return_hop`. -/
def Response.getReturnHop (resp : Response) : Option Hop := resp.vias.head?.map HeaderVia.returnHop

namespace HeaderVia

@[simp] theorem fixReceived_parameters (via : HeaderVia) (origin : SourceAddress) :
    (via.fixReceived origin).parameters = via.parameters := by
  unfold fixReceived
  split <;> rfl

@[simp] theorem fixReceived_listeningPort (via : HeaderVia) (origin : SourceAddress) :
    (via.fixReceived origin).getListeningPort = via.getListeningPort := by
  unfold fixReceived
  split <;> rfl

theorem setRport_frame (via : HeaderVia) (value : Int) :
    (via.setRport value).received = via.received ∧ (via.setRport value).host = via.host ∧
      (via.setRport value).getListeningPort = via.getListeningPort := by
  unfold setRport
  split
  · exact ⟨rfl, rfl, rfl⟩
  · split <;> exact ⟨rfl, rfl, rfl⟩

theorem getRport_setRport (via : HeaderVia) {port : UInt16} (used : port ≠ 0) :
    (via.setRport port.toNat).getRport = port.toNat := by
  have bounded : port.toNat < UInt16.size := port.toNat_lt
  have positive : 0 < port.toNat := by
    apply Nat.pos_of_ne_zero
    intro zero
    exact used (UInt16.toNat_inj.mp zero)
  have range : UInt16.size = 65536 := rfl
  rw [setRport, if_neg (by omega), if_pos (by omega), getRport]
  exact Parameters.getInt_setParameter _ _ bounded

theorem fixRport_frame (via : HeaderVia) (origin : SourceAddress) :
    (via.fixRport origin).received = via.received ∧ (via.fixRport origin).host = via.host ∧
      (via.fixRport origin).getListeningPort = via.getListeningPort := by
  unfold fixRport
  split
  · exact setRport_frame via origin.port.toNat
  · exact ⟨rfl, rfl, rfl⟩

/-- The responses reach the host that sent the request. -/
theorem returnHop_host (via : HeaderVia) (origin : SourceAddress) :
    (via.fixIncoming origin).returnHop.host = origin.ip ↔
      (via.host = origin.ip → via.received = none ∨ via.received = some origin.ip) := by
  obtain ⟨received, host, _⟩ := fixRport_frame (via.fixReceived origin) origin
  change (via.fixIncoming origin).received.getD (via.fixIncoming origin).host = origin.ip ↔ _
  rw [fixIncoming, received, host]
  by_cases same : via.host = origin.ip
  · rw [fixReceived, if_neg (not_not_intro same)]
    cases written : via.received with
    | none => simp [same]
    | some address => simp [same]
  · rw [fixReceived, if_pos same]
    simp [same]

/-- The port that a response has to reach, by the parameters of the topmost Via. -/
def responsePort (via : HeaderVia) (origin : SourceAddress) : Int :=
  if via.parameters.hasParameter "rport" then origin.port.toNat else via.getListeningPort

/-- The value of `rport` after the correction. -/
theorem getRport_fixIncoming (via : HeaderVia) (origin : SourceAddress) :
    (via.fixIncoming origin).getRport =
      if via.parameters.hasParameter "rport" ∧ (origin.port.toNat : Int) ≠ via.getListeningPort ∧
          origin.port ≠ 0 then (origin.port.toNat : Int)
      else via.getRport := by
  unfold fixIncoming fixRport
  rw [fixReceived_parameters, fixReceived_listeningPort]
  by_cases written : via.parameters.hasParameter "rport" ∧
      (origin.port.toNat : Int) ≠ via.getListeningPort
  · rw [if_pos written]
    by_cases used : origin.port = 0
    · rw [used, if_neg (fun all => all.2.2 rfl)]
      exact congrArg (Parameters.getInt · "rport") (fixReceived_parameters via origin)
    · rw [if_pos ⟨written.1, written.2, used⟩, getRport_setRport _ used]
  · rw [if_neg written, if_neg (fun all => written ⟨all.1, all.2.1⟩)]
    exact congrArg (Parameters.getInt · "rport") (fixReceived_parameters via origin)

/-- The responses reach the port that the Via asks for. -/
theorem returnHop_port (via : HeaderVia) (origin : SourceAddress) :
    (via.fixIncoming origin).returnHop.port = via.responsePort origin ↔
      (via.parameters.hasParameter "rport" → origin.port ≠ 0 ∧
        (via.getListeningPort = origin.port.toNat → 0 < via.getRport →
          via.getRport = origin.port.toNat)) := by
  obtain ⟨_, _, listening⟩ := fixRport_frame (via.fixReceived origin) origin
  have reached : (via.fixIncoming origin).returnHop.port =
      if 0 < (via.fixIncoming origin).getRport then (via.fixIncoming origin).getRport
      else via.getListeningPort := by
    rw [returnHop, fixIncoming, listening, fixReceived_listeningPort]
  rw [reached, getRport_fixIncoming, responsePort]
  have listens := via.getListeningPort_ne_zero
  by_cases asked : via.parameters.hasParameter "rport"
  · by_cases unused : origin.port = 0
    · have zero : (origin.port.toNat : Int) = 0 := by rw [unused]; rfl
      simp only [asked, unused, ne_eq, not_true_eq_false, and_false, if_false, if_true,
        false_and, imp_false, iff_false]
      rw [unused] at zero
      split <;> omega
    · have positive : origin.port.toNat ≠ 0 := fun zero => unused (UInt16.toNat_inj.mp zero)
      by_cases same : (origin.port.toNat : Int) = via.getListeningPort
      · simp only [asked, same, unused, ne_eq, not_true_eq_false, false_and, and_false, if_false, if_true,
          not_false_eq_true, true_and, forall_const]
        split <;> omega
      · have different : via.getListeningPort ≠ (origin.port.toNat : Int) := Ne.symm same
        simp [asked, same, different, unused, positive]
  · have absent : via.getRport = -1 := Parameters.getInt_of_absent (by simpa using asked)
    simp [asked, absent]

end HeaderVia

/-- The sender of the request wrote into the topmost Via nothing that the correction leaves to
misdirect the responses. -/
structure HeaderVia.Harmless (via : HeaderVia) (origin : SourceAddress) : Prop where
  received : via.host = origin.ip → via.received = none ∨ via.received = some origin.ip
  sourcePort : via.parameters.hasParameter "rport" → origin.port ≠ 0
  rport : via.parameters.hasParameter "rport" → via.getListeningPort = origin.port.toNat →
    0 < via.getRport → via.getRport = origin.port.toNat

/-- The hop of a response is the source of the request and the port that the Via asks for. -/
def Response.Returns (resp : Response) (via : HeaderVia) (origin : SourceAddress) : Prop :=
  ∃ hop, resp.getReturnHop = some hop ∧ hop.host = origin.ip ∧ hop.port = via.responsePort origin

/-- The responses of a received request return to its source exactly when its topmost Via is harmless. -/
theorem createFromRequest_returns_iff (req : Request) (via : HeaderVia) (rest : List HeaderVia)
    (origin : SourceAddress) (statusCode : Nat) :
    (Response.createFromRequest (({ req with vias := via :: rest } : Request).fixIncomingVia (some origin))
      statusCode).Returns via origin ↔ via.Harmless origin := by
  have hop : (Response.createFromRequest
      (({ req with vias := via :: rest } : Request).fixIncomingVia (some origin))
      statusCode).getReturnHop = some (via.fixIncoming origin).returnHop := rfl
  constructor
  · rintro ⟨reached, found, host, port⟩
    cases hop.symm.trans found
    have asked := (via.returnHop_port origin).mp port
    exact ⟨(via.returnHop_host origin).mp host, fun has => (asked has).1, fun has => (asked has).2⟩
  · intro harmless
    refine ⟨_, hop, (via.returnHop_host origin).mpr harmless.received, ?_⟩
    apply (via.returnHop_port origin).mpr
    intro asked
    exact ⟨harmless.sourcePort asked, harmless.rport asked⟩

/-- The sender names its own address as the host and a third party in `received` and `rport`. -/
def redirectingVia : HeaderVia where
  host := "192.0.2.1"
  port := 5062
  received := some "203.0.113.9"
  parameters := ⟨[("rport", some "9")], by decide⟩

/-- The response to a redirecting Via goes to the third party. -/
theorem createFromRequest_redirected :
    (Response.createFromRequest
        (({ method := "OPTIONS", vias := [redirectingVia] } : Request).fixIncomingVia
          (some ⟨"192.0.2.1", 5062⟩)) 200).getReturnHop = some ⟨"udp", "203.0.113.9", 9⟩ ∧
      ¬ (Response.createFromRequest
        (({ method := "OPTIONS", vias := [redirectingVia] } : Request).fixIncomingVia
          (some ⟨"192.0.2.1", 5062⟩)) 200).Returns redirectingVia ⟨"192.0.2.1", 5062⟩ := by
  have hop : (Response.createFromRequest
        (({ method := "OPTIONS", vias := [redirectingVia] } : Request).fixIncomingVia
          (some ⟨"192.0.2.1", 5062⟩)) 200).getReturnHop = some ⟨"udp", "203.0.113.9", 9⟩ := by decide
  constructor
  · exact hop
  · rintro ⟨reached, found, host, port⟩
    rw [hop] at found
    cases found
    exact absurd host (by decide)

end BelleSip
