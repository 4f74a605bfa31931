import BelleSip.Transaction.Matching

/-
This file proves which requests the provider matches to a server transaction.
-/

namespace BelleSip

open Foundation

variable {digest : List UInt8 → String} {transaction : ServerTransaction} {req other : IncomingRequest}

theorem IncomingRequest.computeRfc2543Branch_eq {req : IncomingRequest} {bytes : List UInt8}
    (computed : req.rfc2543Bytes = .ok bytes) :
    req.computeRfc2543Branch digest = .ok (digest bytes) := by
  unfold IncomingRequest.computeRfc2543Branch
  rw [computed]
  rfl

/-- The bytes depend on what a retransmission, a CANCEL, and an ACK have in common with their request. -/
theorem IncomingRequest.rfc2543Bytes_eq (req : IncomingRequest) :
    req.rfc2543Bytes = (do
      let number ← Checked.deref (req.cseq.map (·.seqNumber))
      let callId ← Checked.deref req.callId
      let branch ← Checked.deref (req.vias.head?.map (·.branch))
      let _ ← Checked.deref req.fromHeader
      let uri ← Checked.deref (req.toHeader.bind (·.uri))
      return textBytes req.fromText ++ textBytes uri.text ++ textBytes callId ++ wordBytes number ++
        branch.elim [] textBytes) := by
  unfold IncomingRequest.rfc2543Bytes
  cases req.cseq with
  | none => rfl
  | some cseq =>
      cases req.vias.head? with
      | none => cases req.callId <;> rfl
      | some via =>
          cases req.toHeader with
          | none => cases req.callId <;> cases req.fromHeader <;> rfl
          | some toHeader => rfl

theorem Echoes.topBranch (echoes : Echoes req other) :
    other.vias.head?.map (·.branch) = req.vias.head?.map (·.branch) := by
  have sentBy := echoes.sentBy
  have branch := echoes.branch
  unfold IncomingRequest.sentBy at sentBy
  unfold IncomingRequest.branch at branch
  cases own : req.vias.head? with
  | none =>
      rw [own, Option.map_none, Option.map_eq_none_iff] at sentBy
      rw [sentBy]
  | some via =>
      rw [own, Option.map_some, Option.map_eq_some_iff] at sentBy
      obtain ⟨again, present, -⟩ := sentBy
      rw [present, own, Option.bind_some, Option.bind_some] at branch
      rw [present, Option.map_some, Option.map_some, branch]

theorem Echoes.rfc2543Bytes (echoes : Echoes req other) :
    other.rfc2543Bytes = req.rfc2543Bytes := by
  rw [other.rfc2543Bytes_eq, req.rfc2543Bytes_eq, echoes.seqNumber, echoes.callId, echoes.topBranch,
    echoes.fromHeader, echoes.fromText, echoes.toUri]

theorem Echoes.cookieBranch (echoes : Echoes req other) :
    other.cookieBranch = req.cookieBranch := by
  unfold IncomingRequest.cookieBranch
  rw [echoes.branch]

/-- The key of a keyed transaction is equal to the branch of the look-up exactly when the requests have one key. -/
theorem sameKey_iff (injective : Function.Injective digest) {other looked : IncomingRequest} {branch : String}
    (keyed : Checked.Returns (lookupBranch digest transaction.request) fun (key, _) => key = transaction.branchId)
    (lookup : lookupBranch digest other = .ok (branch, looked)) :
    SameKey digest transaction.request other ↔ branch = transaction.branchId := by
  obtain ⟨⟨own, req⟩, ownLookup, isKey⟩ := keyed
  dsimp only at isKey
  subst isKey
  have read : ∀ {req again : IncomingRequest} {key : String}, req.cookieBranch = none →
      lookupBranch digest req = .ok (key, again) →
        ∃ bytes, req.rfc2543Bytes = .ok bytes ∧ digest bytes = key := by
    intro req again key old lookup
    unfold lookupBranch IncomingRequest.computeRfc2543Branch at lookup
    rw [old] at lookup
    cases computed : req.rfc2543Bytes with
    | error fault =>
        rw [computed] at lookup
        cases lookup
    | ok bytes =>
        rw [computed] at lookup
        cases lookup
        exact ⟨bytes, rfl, rfl⟩
  have cookie : ∀ {req again : IncomingRequest} {key branch : String}, req.cookieBranch = some branch →
      lookupBranch digest req = .ok (key, again) → branch = key := by
    intro req again key branch new lookup
    unfold lookupBranch at lookup
    rw [new] at lookup
    cases lookup
    rfl
  unfold SameKey
  split
  · next ownBranch otherBranch ownCookie otherCookie =>
      rw [cookie ownCookie ownLookup, cookie otherCookie lookup]
  · next ownOld otherOld =>
      obtain ⟨bytes, computed, isOwn⟩ := read ownOld ownLookup
      obtain ⟨otherBytes, otherComputed, isBranch⟩ := read otherOld lookup
      rw [computed, otherComputed, ← isOwn, ← isBranch]
      constructor
      · rintro ⟨same, ⟨⟩, ⟨⟩⟩
        rfl
      · intro same
        exact ⟨bytes, rfl, congrArg _ (injective same)⟩
  · next ownBranch ownCookie otherOld =>
      obtain ⟨otherBytes, otherComputed, isBranch⟩ := read otherOld lookup
      rw [cookie ownCookie ownLookup, otherComputed, ← isBranch]
      constructor
      · rintro ⟨bytes, ⟨⟩, same⟩
        exact same
      · exact fun same => ⟨otherBytes, rfl, same⟩
  · next otherBranch ownOld otherCookie =>
      obtain ⟨bytes, computed, isOwn⟩ := read ownOld ownLookup
      rw [cookie otherCookie lookup, computed, ← isOwn]
      constructor
      · rintro ⟨again, ⟨⟩, same⟩
        exact same.symm
      · exact fun same => ⟨bytes, rfl, same.symm⟩

/-- A request of an old stack that has no key has the key of no transaction. -/
theorem SameKey.returns (same : SameKey digest req other) :
    ∃ branch looked, lookupBranch digest other = .ok (branch, looked) := by
  unfold SameKey at same
  unfold lookupBranch
  split at same
  · next otherCookie =>
      rw [otherCookie]
      exact ⟨_, _, rfl⟩
  · next otherOld =>
      obtain ⟨bytes, -, computed⟩ := same
      rw [otherOld, IncomingRequest.computeRfc2543Branch_eq computed]
      exact ⟨_, _, rfl⟩
  · next otherOld =>
      obtain ⟨bytes, computed, -⟩ := same
      rw [otherOld, IncomingRequest.computeRfc2543Branch_eq computed]
      exact ⟨_, _, rfl⟩
  · next otherCookie =>
      rw [otherCookie]
      exact ⟨_, _, rfl⟩

theorem lookupBranch_method {req looked : IncomingRequest} {branch : String}
    (lookup : lookupBranch digest req = .ok (branch, looked)) : looked.method = req.method := by
  unfold lookupBranch at lookup
  split at lookup
  · cases lookup
    rfl
  · cases computed : req.computeRfc2543Branch digest with
    | error fault =>
        rw [computed] at lookup
        cases lookup
    | ok token =>
        rw [computed] at lookup
        cases lookup
        rfl

theorem transactionMatch_iff {branchid : String} {other : IncomingRequest} :
    transactionMatch branchid other.method transaction = true ↔
      branchid = transaction.branchId ∧ SuitsMethod transaction.request other := by
  simp [transactionMatch, SuitsMethod]

/-- The first transaction with the key and a method that suits is the one that the provider finds. -/
theorem matchedTo_iff (injective : Function.Injective digest) {side : ServerSide} (keyed : Keyed digest side)
    {position : Nat} (live : side.transactions[position]? = some transaction) (other : IncomingRequest) :
    MatchedTo digest side.transactions other position ↔
      (SameKey digest transaction.request other ∧ SuitsMethod transaction.request other) ∧
        Undisturbed digest side.transactions position other := by
  have keyedAt : ∀ (index : Nat) (own : ServerTransaction), side.transactions[index]? = some own →
      Checked.Returns (lookupBranch digest own.request) fun (key, _) => key = own.branchId :=
    fun index own present => keyed.transactions own (List.mem_of_getElem? present)
  unfold MatchedTo findMatchingTransaction
  rw [Checked.returns_bind]
  cases lookup : lookupBranch digest other with
  | error fault =>
      constructor
      · rintro ⟨result, stopped, -⟩
        cases stopped
      · rintro ⟨⟨same, -⟩, -⟩
        obtain ⟨branch, looked, returned⟩ := same.returns
        cases lookup.symm.trans returned
  | ok result =>
      obtain ⟨branch, looked⟩ := result
      rw [Checked.returns_ok]
      dsimp only
      rw [Checked.returns_pure]
      dsimp only
      rw [lookupBranch_method lookup, List.findIdx?_eq_some_iff_getElem]
      obtain ⟨inside, isLive⟩ := List.getElem?_eq_some_iff.mp live
      have matches_ : ∀ (index : Nat) (own : ServerTransaction), side.transactions[index]? = some own →
          (transactionMatch branch other.method own = true ↔
            SameKey digest own.request other ∧ SuitsMethod own.request other) := by
        intro index own present
        rw [transactionMatch_iff, sameKey_iff injective (keyedAt index own present) lookup]
      constructor
      · rintro ⟨_, found, first⟩
        rw [isLive] at found
        refine ⟨(matches_ position transaction live).mp found, ?_⟩
        intro later before own present takes
        obtain ⟨laterInside, isOwn⟩ := List.getElem?_eq_some_iff.mp present
        apply first later before
        rw [isOwn]
        exact (matches_ later own present).mpr takes
      · rintro ⟨takes, undisturbed⟩
        refine ⟨inside, ?_, ?_⟩
        · rw [isLive]
          exact (matches_ position transaction live).mpr takes
        · intro later before found
          have present := List.getElem?_eq_getElem (Nat.lt_trans before inside)
          exact undisturbed later before _ present ((matches_ later _ present).mp found)

/-- A retransmission, a CANCEL, and an ACK have the key of the transaction. -/
theorem Follows.sameKey {other : IncomingRequest}
    (keyed : Checked.Returns (lookupBranch digest transaction.request) fun (key, _) => key = transaction.branchId)
    (follows : Follows transaction.request other) : SameKey digest transaction.request other := by
  obtain ⟨echoes, -⟩ := follows
  obtain ⟨result, lookup, -⟩ := keyed
  unfold SameKey
  rw [echoes.cookieBranch, echoes.rfc2543Bytes]
  cases own : transaction.request.cookieBranch with
  | some branch => rfl
  | none =>
      unfold lookupBranch IncomingRequest.computeRfc2543Branch at lookup
      rw [own] at lookup
      cases computed : transaction.request.rfc2543Bytes with
      | error fault =>
          rw [computed] at lookup
          cases lookup
      | ok bytes => exact ⟨bytes, rfl, rfl⟩

/-- A CANCEL goes to an INVITE and no later transaction takes what belongs to the request, and what comes from
elsewhere has another key or a method that does not suit, or a later transaction takes it. -/
def Separable (digest : List UInt8 → String) (transactions : List ServerTransaction) (position : Nat)
    (req other : IncomingRequest) : Prop :=
  (Follows req other → SuitsMethod req other ∧ Undisturbed digest transactions position other) ∧
    (Foreign req other → ¬(SameKey digest req other ∧ SuitsMethod req other) ∨
      ¬Undisturbed digest transactions position other)

namespace Keyed

variable {digest : List UInt8 → String} {side : ServerSide}

theorem dispatchRequest (keyed : Keyed digest side) (req : IncomingRequest) :
    Checked.OnReturn (side.dispatchRequest digest req) (Keyed digest) := by
  unfold ServerSide.dispatchRequest findMatchingTransaction
  simp only [Checked.onReturn_bind]
  unfold lookupBranch
  cases cookie : req.cookieBranch with
  | some branch =>
      apply Checked.onReturn_pure.mpr
      apply Checked.onReturn_pure.mpr
      dsimp only
      split
      · refine ⟨keyed.transactions, ?_⟩
        intro other among old
        rcases List.mem_cons.mp among with rfl | among
        · rw [cookie] at old
          cases old
        · exact keyed.given other among old
      · exact keyed
  | none =>
      apply Checked.onReturn_bind.mpr
      cases computed : req.computeRfc2543Branch digest with
      | error fault => trivial
      | ok token =>
          apply Checked.onReturn_ok.mpr
          apply Checked.onReturn_pure.mpr
          apply Checked.onReturn_pure.mpr
          dsimp only
          split
          · refine ⟨keyed.transactions, ?_⟩
            intro other among old
            rcases List.mem_cons.mp among with rfl | among
            · exact ⟨token, computed, rfl⟩
            · exact keyed.given other among old
          · exact keyed

theorem createServerTransaction (keyed : Keyed digest side) {req : IncomingRequest} (given : req ∈ side.given) :
    Checked.OnReturn (side.createServerTransaction req) (Keyed digest) := by
  have added : ∀ transaction : ServerTransaction,
      Checked.Returns (lookupBranch digest transaction.request) (fun (key, _) => key = transaction.branchId) →
        Keyed digest { side with transactions := transaction :: side.transactions } := by
    intro transaction own
    refine ⟨?_, keyed.given⟩
    intro other among
    rcases List.mem_cons.mp among with rfl | among
    · exact own
    · exact keyed.transactions other among
  unfold ServerSide.createServerTransaction
  split
  · exact Checked.onReturn_pure.mpr keyed
  · apply Checked.onReturn_bind.mpr
    unfold ServerTransaction.init
    apply Checked.onReturn_bind.mpr
    apply Checked.onReturn_deref.mpr
    intro via _
    split
    · next branch cookie =>
        apply Checked.onReturn_pure.mpr
        apply added
        unfold lookupBranch
        dsimp only
        rw [cookie]
        exact ⟨_, rfl, rfl⟩
    · next old =>
        obtain ⟨token, computed, isToken⟩ := keyed.given req given old
        rw [isToken]
        apply Checked.onReturn_pure.mpr
        apply added
        unfold lookupBranch
        dsimp only
        rw [old, computed]
        exact ⟨_, rfl, rfl⟩

theorem step {state : Checked ServerSide} (keyed : Checked.OnReturn state (Keyed digest)) (event : ServerSide.Event) :
    Checked.OnReturn (ServerSide.step digest state event) (Keyed digest) := by
  apply Checked.onReturn_bind.mpr
  apply keyed.mono
  intro side keyed
  cases event with
  | requestReceived req =>
      dsimp only [ServerSide.handle]
      split
      · exact keyed.dispatchRequest _
      · exact Checked.onReturn_pure.mpr keyed
  | createServerTransaction req =>
      dsimp only [ServerSide.handle]
      split
      · next given => exact keyed.createServerTransaction given
      · exact Checked.onReturn_pure.mpr keyed
  | removeServerTransaction position =>
      apply Checked.onReturn_pure.mpr
      refine ⟨?_, keyed.given⟩
      intro transaction among
      exact keyed.transactions transaction (List.mem_of_mem_eraseIdx among)

end Keyed

/-- In every run, each server transaction is separated from a request exactly when they are separable. -/
theorem run_separates_iff {digest : List UInt8 → String} (injective : Function.Injective digest)
    {events : List ServerSide.Event} {side : ServerSide}
    (ended : Machine.run (ServerSide.step digest) (.ok {}) events = .ok side) {position : Nat}
    {transaction : ServerTransaction} (live : side.transactions[position]? = some transaction)
    (other : IncomingRequest) :
    Separates digest side.transactions position transaction.request other ↔
      Separable digest side.transactions position transaction.request other := by
  have start : Checked.OnReturn (.ok {}) (Keyed digest) := by
    constructor <;> simp
  have preserved : ∀ (state : Checked ServerSide) (event : ServerSide.Event),
      Checked.OnReturn state (Keyed digest) → Checked.OnReturn (ServerSide.step digest state event) (Keyed digest) :=
    fun _ event keyed => Keyed.step keyed event
  have keyed : Keyed digest side := (Machine.run_preserves preserved start events).elim ended
  have own := keyed.transactions transaction (List.mem_of_getElem? live)
  unfold Separates Separable
  rw [matchedTo_iff injective keyed live other]
  constructor
  · rintro ⟨belongs, elsewhere⟩
    refine ⟨fun follows => ⟨(belongs follows).1.2, (belongs follows).2⟩, fun foreign => ?_⟩
    exact not_and_or.mp (elsewhere foreign)
  · rintro ⟨belongs, elsewhere⟩
    refine ⟨fun follows => ?_, fun foreign => not_and_or.mpr (elsewhere foreign)⟩
    obtain ⟨suits, undisturbed⟩ := belongs follows
    exact ⟨⟨follows.sameKey own, suits⟩, undisturbed⟩

/-- A text with one character for each byte. -/
def latinText (bytes : List UInt8) : String := String.ofList (bytes.map Char.ofUInt8)

theorem latinText_injective : Function.Injective latinText := by
  intro one other same
  apply List.map_injective_iff.mpr _ (String.ofList_injective same)
  intro first second equal
  have words : first.toUInt32 = second.toUInt32 := congrArg Char.val equal
  exact UInt8.toUInt32_inj.mp words

/-- A request with a branch of RFC 3261. -/
def cookieRequest (method callId host : String) : IncomingRequest where
  method := method
  uri := some { text := "sip:bob@10.0.0.9" }
  callId := some callId
  cseq := some { seqNumber := 1, method := method }
  fromHeader := some { uri := some { text := "sip:alice@10.0.0.1" }, tag := some "alice" }
  toHeader := some { uri := some { text := "sip:bob@10.0.0.9" } }
  vias := [{ host := host, port := 5060, branch := some "z9hG4bK.1" }]
  contact := some { uri := some { text := "sip:alice@10.0.0.1" } }
  maxForwards := true
  fromText := "From: <sip:alice@10.0.0.1>;tag=alice"

/-- An INVITE with its server transaction. -/
def invitedSide : List ServerSide.Event :=
  [.requestReceived (cookieRequest "INVITE" "call" "10.0.0.1"),
    .createServerTransaction (cookieRequest "INVITE" "call" "10.0.0.1")]

theorem run_separates_iff_cancel :
    Separates latinText [{ request := cookieRequest "INVITE" "call" "10.0.0.1", branchId := "z9hG4bK.1" }] 0
        (cookieRequest "INVITE" "call" "10.0.0.1") (cookieRequest "CANCEL" "call" "10.0.0.1") ↔
      Separable latinText [{ request := cookieRequest "INVITE" "call" "10.0.0.1", branchId := "z9hG4bK.1" }] 0
        (cookieRequest "INVITE" "call" "10.0.0.1") (cookieRequest "CANCEL" "call" "10.0.0.1") := by
  have ended : Machine.run (ServerSide.step latinText) (.ok {}) invitedSide = .ok {
      transactions := [{ request := cookieRequest "INVITE" "call" "10.0.0.1", branchId := "z9hG4bK.1" }]
      given := [cookieRequest "INVITE" "call" "10.0.0.1"] } := by decide
  have live : [({ request := cookieRequest "INVITE" "call" "10.0.0.1", branchId := "z9hG4bK.1" } :
      ServerTransaction)][0]? = some _ := rfl
  exact run_separates_iff latinText_injective ended live _

/-- An INVITE of another call from another host, with the same branch, is taken for a retransmission. -/
theorem not_separates_host :
    Function.Injective latinText ∧
      Machine.run (ServerSide.step latinText) (.ok {}) invitedSide = .ok {
        transactions := [{ request := cookieRequest "INVITE" "call" "10.0.0.1", branchId := "z9hG4bK.1" }]
        given := [cookieRequest "INVITE" "call" "10.0.0.1"] } ∧
      (cookieRequest "INVITE" "other" "10.0.0.2").checkHeaders = true ∧
      Foreign (cookieRequest "INVITE" "call" "10.0.0.1") (cookieRequest "INVITE" "other" "10.0.0.2") ∧
      MatchedTo latinText [{ request := cookieRequest "INVITE" "call" "10.0.0.1", branchId := "z9hG4bK.1" }]
        (cookieRequest "INVITE" "other" "10.0.0.2") 0 ∧
      ¬Separates latinText [{ request := cookieRequest "INVITE" "call" "10.0.0.1", branchId := "z9hG4bK.1" }] 0
        (cookieRequest "INVITE" "call" "10.0.0.1") (cookieRequest "INVITE" "other" "10.0.0.2") := by
  have foreign : Foreign (cookieRequest "INVITE" "call" "10.0.0.1") (cookieRequest "INVITE" "other" "10.0.0.2") :=
    .inl (by decide)
  have found : MatchedTo latinText
      [{ request := cookieRequest "INVITE" "call" "10.0.0.1", branchId := "z9hG4bK.1" }]
      (cookieRequest "INVITE" "other" "10.0.0.2") 0 := ⟨_, rfl, rfl⟩
  refine ⟨latinText_injective, by decide, by decide, foreign, found, ?_⟩
  intro separates
  exact separates.2 foreign found

end BelleSip
