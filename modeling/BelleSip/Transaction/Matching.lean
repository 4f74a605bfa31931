import BelleSip.Foundation.Machine
import BelleSip.Sip.Message

/-
This file defines how the provider finds the server transaction that a request belongs to.

The text of the MD5 digest that stands for the branch of an RFC 2543 request is a parameter.
-/

namespace BelleSip

open Foundation

/-- A request from the network. -/
structure IncomingRequest extends Request where
  /-- The text that `belle_sip_object_to_string` makes of the From header. -/
  fromText : String := ""
  /-- The branch that the provider has computed for a request of an old stack. -/
  rfc2543Branch : Option String := none
deriving DecidableEq, Repr

/-- This is `BELLE_SIP_BRANCH_MAGIC_COOKIE`. -/
def magicCookie : String := "z9hG4bK"

/-- The bytes of a C string. -/
def textBytes (text : String) : List UInt8 := text.toList.flatMap String.utf8EncodeChar

/-- The bytes of an `unsigned int` in memory. -/
def wordBytes (word : Nat) : List UInt8 :=
  [word.toUInt8, (word / 256).toUInt8, (word / 65536).toUInt8, (word / 16777216).toUInt8]

namespace IncomingRequest

/-- The branch of the topmost Via. -/
def branch (req : IncomingRequest) : Option String := req.vias.head?.bind (·.branch)

/-- The host and the port that the topmost Via has been sent by. -/
def sentBy (req : IncomingRequest) : Option (String × Int) := req.vias.head?.map fun via => (via.host, via.port)

/-- The branch of the topmost Via if it is that of an RFC 3261 stack. -/
def cookieBranch (req : IncomingRequest) : Option String :=
  req.branch.filter fun branch => magicCookie.toList.isPrefixOf branch.toList

/-- The bytes that `compute_rfc2543_branch` gives to the digest. -/
def rfc2543Bytes (req : IncomingRequest) : Checked (List UInt8) := do
  let cseq ← Checked.deref req.cseq
  let callId ← Checked.deref req.callId
  let via ← Checked.deref req.vias.head?
  let _ ← Checked.deref req.fromHeader
  let toHeader ← Checked.deref req.toHeader
  let uri ← Checked.deref toHeader.uri
  return textBytes req.fromText ++ textBytes uri.text ++ textBytes callId ++ wordBytes cseq.seqNumber ++
    via.branch.elim [] textBytes

/-- This is `compute_rfc2543_branch`. -/
def computeRfc2543Branch (digest : List UInt8 → String) (req : IncomingRequest) : Checked String := do
  let bytes ← req.rfc2543Bytes
  return digest bytes

end IncomingRequest

/-- A server transaction with the field `branch_id`. -/
structure ServerTransaction where
  request : IncomingRequest
  branchId : String
deriving DecidableEq, Repr

/-- This is `transaction_match`. -/
def transactionMatch (branchid method : String) (transaction : ServerTransaction) : Bool :=
  let isAckOrCancel : Bool := method = "ACK" ∨ method = "CANCEL"
  branchid = transaction.branchId &&
    (method = transaction.request.method || (isAckOrCancel && transaction.request.method = "INVITE"))

/-- The branch that a request is looked up by, and the request as the look-up leaves it. -/
def lookupBranch (digest : List UInt8 → String) (req : IncomingRequest) : Checked (String × IncomingRequest) :=
  match req.cookieBranch with
  | some branch => return (branch, req)
  | none => do
      let token ← req.computeRfc2543Branch digest
      return (token, { req with rfc2543Branch := some token })

/-- This is `belle_sip_provider_find_matching_transaction`; the result is a position in the list. -/
def findMatchingTransaction (digest : List UInt8 → String) (transactions : List ServerTransaction)
    (req : IncomingRequest) : Checked (Option Nat × IncomingRequest) := do
  let (branchid, req) ← lookupBranch digest req
  return (transactions.findIdx? (transactionMatch branchid req.method), req)

/-- This is `belle_sip_server_transaction_init`. -/
def ServerTransaction.init (req : IncomingRequest) : Checked ServerTransaction := do
  let _ ← Checked.deref req.vias.head?
  match req.cookieBranch with
  | some branch => return { request := req, branchId := branch }
  | none =>
      match req.rfc2543Branch with
      | none => .error .fatal
      | some branch => return { request := req, branchId := branch }

/-- The server transactions of a provider, latest first, and the requests that it may create more for. -/
structure ServerSide where
  transactions : List ServerTransaction := []
  given : List IncomingRequest := []
deriving DecidableEq, Repr

namespace ServerSide

inductive Event where
  | requestReceived (req : IncomingRequest)
  /-- The application or the provider calls `belle_sip_provider_create_server_transaction`. -/
  | createServerTransaction (req : IncomingRequest)
  /-- A transaction terminates and is removed. -/
  | removeServerTransaction (position : Nat)
deriving DecidableEq, Repr

/-- The look-up of a request that has passed the check; an ACK and a CANCEL are passed on by their transaction. -/
def dispatchRequest (digest : List UInt8 → String) (side : ServerSide) (req : IncomingRequest) :
    Checked ServerSide := do
  let (found, req) ← findMatchingTransaction digest side.transactions req
  if found = none ∨ req.method = "ACK" ∨ req.method = "CANCEL" then
    return { side with given := req :: side.given }
  else return side

/-- This is `belle_sip_provider_create_server_transaction`. -/
def createServerTransaction (side : ServerSide) (req : IncomingRequest) : Checked ServerSide :=
  if req.method = "ACK" then return side
  else do
    let transaction ← ServerTransaction.init req
    return { side with transactions := transaction :: side.transactions }

def handle (digest : List UInt8 → String) (side : ServerSide) : Event → Checked ServerSide
  | .requestReceived req =>
      if req.checkHeaders then side.dispatchRequest digest { req with rfc2543Branch := none } else return side
  | .createServerTransaction req => if req ∈ side.given then side.createServerTransaction req else return side
  | .removeServerTransaction position => return { side with transactions := side.transactions.eraseIdx position }

/-- One event of the provider; nothing happens after a fault. -/
def step (digest : List UInt8 → String) (state : Checked ServerSide) (event : Event) : Checked ServerSide := do
  let side ← state
  side.handle digest event

end ServerSide

/-- The transaction at the position is the one that the request is matched to. -/
def MatchedTo (digest : List UInt8 → String) (transactions : List ServerTransaction) (req : IncomingRequest)
    (position : Nat) : Prop :=
  Checked.Returns (findMatchingTransaction digest transactions req) fun (found, _) => found = some position

/-- The header values that a retransmission, a CANCEL, and an ACK of a failure have in common with their request. -/
structure Echoes (req other : IncomingRequest) : Prop where
  sentBy : other.sentBy = req.sentBy
  branch : other.branch = req.branch
  callId : other.callId = req.callId
  seqNumber : other.cseq.map (·.seqNumber) = req.cseq.map (·.seqNumber)
  fromHeader : other.fromHeader = req.fromHeader
  fromText : other.fromText = req.fromText
  toUri : other.toHeader.bind (·.uri) = req.toHeader.bind (·.uri)

/-- The other request is a retransmission of the request, its CANCEL, or the ACK of a failure. -/
def Follows (req other : IncomingRequest) : Prop :=
  Echoes req other ∧
    (other.method = req.method ∨ other.method = "CANCEL" ∨ other.method = "ACK" ∧ req.method = "INVITE")

/-- The other request has another sent-by or another branch. -/
def Foreign (req other : IncomingRequest) : Prop := other.sentBy ≠ req.sentBy ∨ other.branch ≠ req.branch

/-- What belongs to the request is matched to its transaction, and what comes from elsewhere is not. -/
def Separates (digest : List UInt8 → String) (transactions : List ServerTransaction) (position : Nat)
    (req other : IncomingRequest) : Prop :=
  (Follows req other → MatchedTo digest transactions other position) ∧
    (Foreign req other → ¬MatchedTo digest transactions other position)

/-- Both branches have the cookie and are equal, or neither has it and the bytes for the digest are equal. In the
mixed case, the branch is the text of the digest. -/
def SameKey (digest : List UInt8 → String) (req other : IncomingRequest) : Prop :=
  match req.cookieBranch, other.cookieBranch with
  | some own, some branch => branch = own
  | none, none => ∃ bytes, req.rfc2543Bytes = .ok bytes ∧ other.rfc2543Bytes = .ok bytes
  | some own, none => ∃ bytes, other.rfc2543Bytes = .ok bytes ∧ digest bytes = own
  | none, some branch => ∃ bytes, req.rfc2543Bytes = .ok bytes ∧ digest bytes = branch

/-- The methods are equal, or an ACK or a CANCEL goes to an INVITE. -/
def SuitsMethod (req other : IncomingRequest) : Prop :=
  other.method = req.method ∨ (other.method = "ACK" ∨ other.method = "CANCEL") ∧ req.method = "INVITE"

/-- No later transaction takes the request. -/
def Undisturbed (digest : List UInt8 → String) (transactions : List ServerTransaction) (position : Nat)
    (other : IncomingRequest) : Prop :=
  ∀ later < position, ∀ transaction, transactions[later]? = some transaction →
    ¬(SameKey digest transaction.request other ∧ SuitsMethod transaction.request other)

/-- The branch of a transaction is the one that its request is looked up by. -/
structure Keyed (digest : List UInt8 → String) (side : ServerSide) : Prop where
  transactions : ∀ transaction ∈ side.transactions,
    Checked.Returns (lookupBranch digest transaction.request) fun (branch, _) => branch = transaction.branchId
  given : ∀ req ∈ side.given, req.cookieBranch = none →
    Checked.Returns (req.computeRfc2543Branch digest) fun token => req.rfc2543Branch = some token

end BelleSip
