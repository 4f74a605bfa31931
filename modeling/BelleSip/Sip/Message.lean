import BelleSip.Foundation.Checked
import BelleSip.Sip.Parameters

/-
This file defines the parsed messages that the provider, the dialogs, and the transactions read.

A header is null when the message lacks it: `belle_header_create` drops a known header that its
grammar rejects.
-/

namespace BelleSip

/-- This is `strcasecmp`, as a test of equality. -/
def strcasecmp (first second : String) : Bool :=
  first.toList.map Char.toLower = second.toList.map Char.toLower

structure Uri where
  text : String
  secure : Bool := false
deriving DecidableEq, Repr

/-- This is `belle_sip_header_address_t`. -/
structure HeaderAddress where
  /-- The SIP URI, null when the address holds a URI of another scheme or none. -/
  uri : Option Uri := none
deriving DecidableEq, Repr

/-- These are `belle_sip_header_from_t` and `belle_sip_header_to_t`. -/
structure TaggedAddress extends HeaderAddress where
  tag : Option String := none
deriving DecidableEq, Repr

structure HeaderVia where
  protocolName : String := "SIP"
  protocolVersion : String := "2.0"
  transport : String := "UDP"
  host : String := "127.0.0.1"
  /-- The port of `sent_by`, 0 when it is absent. -/
  port : Int := 0
  received : Option String := none
  branch : Option String := none
  /-- The parameters other than the branch. -/
  parameters : Parameters := .empty
deriving DecidableEq, Repr

/-- The grammar stores the protocol as name, slash, and version. -/
def HeaderVia.protocol (via : HeaderVia) : String :=
  String.ofList (via.protocolName.toList ++ '/' :: via.protocolVersion.toList)

/-- A protocol contains a slash, so it is never the name of a transport. -/
theorem HeaderVia.protocol_not_tls (via : HeaderVia) : strcasecmp via.protocol "TLS" = false := by
  apply decide_eq_false
  intro same
  have slash : '/' ∈ via.protocol.toList.map Char.toLower := by
    apply List.mem_map.mpr
    exact ⟨'/', by simp [HeaderVia.protocol], by decide⟩
  rw [same] at slash
  exact absurd slash (by decide)

structure HeaderCseq where
  seqNumber : Nat
  method : String
deriving DecidableEq, Repr

/-- The header section of a message. -/
structure Headers where
  callId : Option String := none
  cseq : Option HeaderCseq := none
  fromHeader : Option TaggedAddress := none
  toHeader : Option TaggedAddress := none
  /-- The Via headers, topmost first. -/
  vias : List HeaderVia := []
  contact : Option HeaderAddress := none
  maxForwards : Bool := false
  recordRoutes : List HeaderAddress := []
  routes : List HeaderAddress := []
deriving DecidableEq, Repr

structure Request extends Headers where
  method : String
  /-- The request URI, null when it is not a SIP URI. -/
  uri : Option Uri := none
  dialogQueued : Bool := false
deriving DecidableEq, Repr

structure Response extends Headers where
  statusCode : Nat
deriving DecidableEq, Repr

/-- The header names of the table `mandatory_headers`. -/
inductive HeaderName where
  | callId
  | contact
  | cseq
  | fromHeader
  | maxForwards
  | toHeader
  | via
deriving DecidableEq, Repr

/-- This is `belle_sip_message_get_header` with a name of the table, as a test for null. -/
def Headers.has (headers : Headers) : HeaderName → Bool
  | .callId => headers.callId.isSome
  | .contact => headers.contact.isSome
  | .cseq => headers.cseq.isSome
  | .fromHeader => headers.fromHeader.isSome
  | .maxForwards => headers.maxForwards
  | .toHeader => headers.toHeader.isSome
  | .via => !headers.vias.isEmpty

def mandatoryHeaders : List (String × List HeaderName) :=
  [("REGISTER", [.callId, .cseq, .fromHeader, .maxForwards, .toHeader, .via]),
    ("INVITE", [.contact, .callId, .cseq, .fromHeader, .maxForwards, .toHeader, .via]),
    ("CANCEL", [.callId, .cseq, .fromHeader, .maxForwards, .toHeader, .via]),
    ("BYE", [.callId, .cseq, .fromHeader, .maxForwards, .toHeader, .via]),
    ("ACK", [.callId, .cseq, .fromHeader, .maxForwards, .toHeader, .via]),
    ("*", [.toHeader, .fromHeader, .cseq, .via])]

/-- This is `belle_sip_message_check_headers` on a request. -/
def Request.checkHeaders (req : Request) : Bool :=
  match mandatoryHeaders.find? fun entry => strcasecmp req.method entry.1 || entry.1 = "*" with
  | some entry => entry.2.all req.has
  | none => req.vias.head?.any fun via => via.branch.isSome

/-- Every request that passes the check carries the headers of the last entry of the table. -/
theorem Request.checkHeaders_catchAll {req : Request} (checked : req.checkHeaders = true) :
    req.toHeader.isSome ∧ req.fromHeader.isSome ∧ req.cseq.isSome ∧ req.vias ≠ [] := by
  unfold Request.checkHeaders at checked
  split at checked
  · next entry found =>
      have listed := List.mem_of_find?_eq_some found
      have all := List.all_eq_true.mp checked
      have catchAll : ∀ name ∈ [HeaderName.toHeader, .fromHeader, .cseq, .via], req.has name = true := by
        intro name among
        apply all
        have : ∀ entry ∈ mandatoryHeaders,
            ∀ name ∈ [HeaderName.toHeader, .fromHeader, .cseq, .via], name ∈ entry.2 := by decide
        exact this entry listed name among
      simpa [Headers.has] using catchAll
  · next missing =>
      have last := List.find?_eq_none.mp missing ("*", [.toHeader, .fromHeader, .cseq, .via])
        (by simp [mandatoryHeaders])
      simp at last

/-- An INVITE that passes the check also carries a Contact and a Call-ID. -/
theorem Request.checkHeaders_invite {req : Request} (invite : req.method = "INVITE")
    (checked : req.checkHeaders = true) : req.contact.isSome ∧ req.callId.isSome := by
  have entry : mandatoryHeaders.find?
      (fun entry => strcasecmp req.method entry.1 || entry.1 = "*") =
      some ("INVITE", [.contact, .callId, .cseq, .fromHeader, .maxForwards, .toHeader, .via]) := by
    rw [invite]
    decide
  unfold Request.checkHeaders at checked
  rw [entry] at checked
  have all := List.all_eq_true.mp checked
  exact ⟨all .contact (by decide), all .callId (by decide)⟩

/-- This is `belle_sip_response_create_from_request`. -/
def Response.createFromRequest (req : Request) (statusCode : Nat) : Response where
  statusCode := statusCode
  vias := req.vias
  fromHeader := req.fromHeader
  toHeader := req.toHeader
  callId := req.callId
  cseq := req.cseq

end BelleSip
