import BelleSip.Sip.ReturnHop

/-
This file models the correction of a Contact by the Via of a response, and proves when the Contact gets the address that
the Via reports.
-/

namespace BelleSip

/-- The parts of a Contact URI that `belle_sip_response_fix_contact` reads and writes. -/
structure ContactUri where
  host : Option String := none
  /-- The port is 0 when none is written. -/
  port : Int := 0
  secure : Bool := false
  params : Parameters := .empty
deriving DecidableEq, Repr

namespace ContactUri

def getTransportParam (uri : ContactUri) : Option String := uri.params.getParameter "transport"

/-- This is `belle_sip_uri_set_transport_param`. -/
def setTransportParam (uri : ContactUri) (value : Option String) : ContactUri :=
  if uri.params.hasParameter "transport" && value.isNone then
    { uri with params := uri.params.removeParameter "transport" }
  else { uri with params := uri.params.setParameter "transport" value }

/-- This is `belle_sip_uri_get_listening_port`. -/
def getListeningPort (uri : ContactUri) : Int :=
  if uri.port = 0 then getWellKnownPort (uri.getTransportParam.getD (if uri.secure then "tls" else "udp"))
  else uri.port

/-- The part of `belle_sip_response_fix_contact` on the port. -/
def fixPort (uri : ContactUri) (via : HeaderVia) : ContactUri :=
  if 0 < via.getRport then
    if via.getRport + uri.port ≠ 5060 then { uri with port := via.getRport } else uri
  else if via.port + uri.port ≠ 5060 then { uri with port := via.port }
  else uri

/-- The part of `belle_sip_response_fix_contact` on the transport. -/
def fixTransport (uri : ContactUri) (via : HeaderVia) : ContactUri :=
  if strcasecmp via.transport "UDP" then
    if uri.getTransportParam.isSome then uri.setTransportParam none else uri
  else if uri.getTransportParam.all fun transport => !strcasecmp transport via.transport then
    uri.setTransportParam (some via.getTransportLowercase)
  else uri

/-- This is `belle_sip_response_fix_contact`. -/
def fixContact (uri : ContactUri) (via : HeaderVia) : ContactUri :=
  ({ uri with host := some (via.received.getD via.host) }.fixPort via).fixTransport via

end ContactUri

/-- The port that the response reports: `rport`, or the port of the Via or its default. -/
def HeaderVia.reportedPort (via : HeaderVia) : Int := if 0 < via.getRport then via.getRport else via.getListeningPort

/-- The port that is written into the Contact. -/
def HeaderVia.writtenPort (via : HeaderVia) : Int := if 0 < via.getRport then via.getRport else via.port

/-- The default port of a Contact with the transport of the Via. -/
def HeaderVia.contactPort (via : HeaderVia) (secure : Bool) : Int :=
  if strcasecmp via.transport "UDP" then if secure then 5061 else 5060 else getWellKnownPort via.transport

/-- The old and the new port have the sum 5060 only if they are the same or one of them is absent and 5060 is the
default; and a port is written, or the default port of the Contact is the one of the Via. -/
def HeaderVia.Agrees (via : HeaderVia) (uri : ContactUri) : Prop :=
  if via.writtenPort + uri.port = 5060 then
    via.writtenPort = uri.port ∨ (uri.port = 0 ∧ via.contactPort uri.secure = 5060) ∨
      (via.writtenPort = 0 ∧ getWellKnownPort via.transport = 5060)
  else via.writtenPort ≠ 0 ∨ via.contactPort uri.secure = getWellKnownPort via.transport

namespace ContactUri

variable {uri : ContactUri} {via : HeaderVia}

theorem getWellKnownPort_congr {one other : String} (same : strcasecmp one other = true) :
    getWellKnownPort one = getWellKnownPort other := by
  have letters : one.toList.map Char.toLower = other.toList.map Char.toLower := of_decide_eq_true same
  have tests : ∀ third, strcasecmp one third = strcasecmp other third := by
    intro third
    rw [strcasecmp, strcasecmp, letters]
  simp only [getWellKnownPort, tests]

theorem setTransportParam_frame (uri : ContactUri) (value : Option String) :
    (uri.setTransportParam value).host = uri.host ∧ (uri.setTransportParam value).port = uri.port ∧
      (uri.setTransportParam value).secure = uri.secure ∧ (uri.setTransportParam value).getTransportParam = value := by
  rw [setTransportParam]
  split
  · next removed =>
      simp only [Bool.and_eq_true, Option.isNone_iff_eq_none] at removed
      refine ⟨rfl, rfl, rfl, ?_⟩
      rw [removed.2]
      exact Parameters.getParameter_removeParameter ..
  · exact ⟨rfl, rfl, rfl, Parameters.getParameter_setParameter ..⟩

theorem getTransportLowercase_same (via : HeaderVia) : strcasecmp via.getTransportLowercase via.transport = true := by
  rw [HeaderVia.getTransportLowercase]
  repeat' split
  all_goals first | assumption | exact decide_eq_true rfl

/-- The transport is corrected without the host and the port, and the default port is the one of the transport. -/
theorem fixTransport_facts (uri : ContactUri) (via : HeaderVia) :
    (uri.fixTransport via).host = uri.host ∧ (uri.fixTransport via).getListeningPort =
      if uri.port = 0 then via.contactPort uri.secure else uri.port := by
  obtain ⟨keepsHost, keepsPort, keepsSecure, cleared⟩ := uri.setTransportParam_frame none
  obtain ⟨alsoHost, alsoPort, alsoSecure, written⟩ := uri.setTransportParam_frame (some via.getTransportLowercase)
  rw [fixTransport, HeaderVia.contactPort]
  by_cases udp : strcasecmp via.transport "UDP" = true
  · rw [if_pos udp, if_pos udp]
    have defaults : getWellKnownPort (if uri.secure then "tls" else "udp") = if uri.secure then 5061 else 5060 := by
      cases uri.secure <;> decide
    split
    · rw [getListeningPort, keepsPort, keepsSecure, cleared, Option.getD_none, defaults]
      exact ⟨keepsHost, rfl⟩
    · next absent =>
        rw [Option.not_isSome_iff_eq_none] at absent
        rw [getListeningPort, absent, Option.getD_none, defaults]
        exact ⟨rfl, rfl⟩
  · rw [if_neg udp, if_neg udp]
    split
    · rw [getListeningPort, alsoPort, written, Option.getD_some,
        getWellKnownPort_congr (getTransportLowercase_same via)]
      exact ⟨alsoHost, rfl⟩
    · next kept =>
        obtain ⟨transport, present, same⟩ : ∃ transport, uri.getTransportParam = some transport ∧
            strcasecmp transport via.transport = true := by
          cases found : uri.getTransportParam with
          | none => exact absurd (by rw [found]; rfl) kept
          | some transport => exact ⟨transport, rfl, by simpa [found] using kept⟩
        rw [getListeningPort, present, Option.getD_some, getWellKnownPort_congr same]
        exact ⟨rfl, rfl⟩

theorem fixPort_facts (uri : ContactUri) (via : HeaderVia) :
    (uri.fixPort via).host = uri.host ∧ (uri.fixPort via).secure = uri.secure ∧
      (uri.fixPort via).port = if via.writtenPort + uri.port = 5060 then uri.port else via.writtenPort := by
  rw [fixPort, HeaderVia.writtenPort]
  repeat' split
  all_goals first | exact ⟨rfl, rfl, rfl⟩ | contradiction

/-- The Contact gets the reported host, and the reported port when the ports agree. -/
theorem fixContact_reported (uri : ContactUri) (via : HeaderVia) :
    ((uri.fixContact via).host = some (via.received.getD via.host) ∧
      (uri.fixContact via).getListeningPort = via.reportedPort) ↔ via.Agrees uri := by
  obtain ⟨host, port⟩ := ({ uri with host := some (via.received.getD via.host) }.fixPort via).fixTransport_facts via
  obtain ⟨portHost, secure, number⟩ := { uri with host := some (via.received.getD via.host) }.fixPort_facts via
  have reported : via.reportedPort =
      if via.writtenPort = 0 then getWellKnownPort via.transport else via.writtenPort := by
    rw [HeaderVia.reportedPort, HeaderVia.writtenPort, HeaderVia.getListeningPort]
    split
    · rw [if_neg (by omega)]
    · rfl
  rw [fixContact, host, portHost, port, secure, number, reported, HeaderVia.Agrees]
  simp only [true_and]
  split
  · split
    · split <;> omega
    · split <;> omega
  · next apart =>
      by_cases absent : via.writtenPort = 0
      · simp [absent]
      · simp [absent]

/-- The source of the request has the port 2560, and the Contact the port 2500. -/
theorem not_fixContact_reported :
    (ContactUri.fixContact { host := some "10.0.0.1", port := 2500 }
      { host := "10.0.0.1", received := some "192.0.2.1"
        parameters := .setParameter .empty "rport" (some "2560") }).getListeningPort ≠ 2560 := by
  decide

end ContactUri

end BelleSip
