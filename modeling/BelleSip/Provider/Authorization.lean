import BelleSip.Foundation.Apart
import BelleSip.Foundation.Machine
import BelleSip.Sip.Message

/-
This file defines the authorization contexts of a provider, and it proves when the credentials of a run
count the uses of each nonce and answer each challenge in kind.
-/

namespace BelleSip

namespace Authorization

/-- The headers WWW-Authenticate and Proxy-Authenticate; a challenge names its realm and its nonce. -/
structure Challenge where
  isProxy : Bool
  scheme : Option String := some "Digest"
  realm : String
  nonce : String
  algorithm : Option String := none
  /-- The first `qop` of the list. -/
  qop : Option String := none
  opaqueValue : Option String := none
deriving DecidableEq, Repr

/-- This is `authorization_context_t`. -/
structure Context where
  callId : String
  scheme : Option String
  realm : String
  nonce : String
  qop : Option String
  opaqueValue : Option String
  userId : Option String
  algorithm : Option String
  nonceCount : Int
  isProxy : Bool
deriving DecidableEq, Repr

/-- The headers Authorization and Proxy-Authorization, without the digest. -/
structure Credentials where
  isProxy : Bool
  scheme : Option String
  realm : String
  username : Option String
  nonce : String
  qop : Option String
  opaqueValue : Option String
  algorithm : Option String
  uri : Option Uri
  nonceCount : Option Int
deriving DecidableEq, Repr

/-- What the listeners put into an authentication event. -/
structure Answer where
  username : Option String
  userId : Option String := none
  passwd : Option String := none
  ha1 : Option String := none
deriving DecidableEq, Repr

/-- The arguments of `belle_sip_provider_add_authorization`.

The listeners see the realm and the user of the From URI. The response comes with its Call-ID. -/
structure Call where
  method : String
  callId : String
  uri : Option Uri := none
  /-- The user of `from_uri`, or of the From of the request when that argument is null. -/
  user : Option String := none
  response : Option (String × List Challenge) := none
  realm : Option String := none
  listener : String → Option String → Answer

/-- The provider receives a response to a request with some credentials, or the application asks for
credentials. -/
inductive Event where
  | received (statusCode : Nat) (credentials : List Credentials)
  | addAuthorization (call : Call)

/-- The contexts of a provider, with the credentials that it has built so far, and for each of them that
answers a challenge the kinds of the challenge and of the credentials. -/
structure Book where
  contexts : List Context := []
  built : List Credentials := []
  answered : List (Bool × Bool) := []

/-- The contexts while the challenges of a response are treated, with the positions and the kinds of the
challenges. -/
structure Round where
  contexts : List Context
  filled : List (Nat × Bool) := []

namespace Context

/-- This is `belle_sip_header_call_id_equals`. -/
def ofCall (context : Context) (callId : String) : Bool := strcasecmp context.callId callId

/-- The context belongs to the realm that the application names and to the user of the request. -/
def ofAccount (context : Context) (realm user : Option String) : Bool :=
  realm = some context.realm && user.isSome && context.userId = user

/-- This is `authorization_context_fill_from_auth`. -/
def fillFromAuth (context : Context) (authenticate : Challenge) (user : Option String) : Context :=
  { context with
    realm := authenticate.realm
    nonceCount := if authenticate.nonce ≠ context.nonce then 0 else context.nonceCount
    nonce := authenticate.nonce
    algorithm := authenticate.algorithm
    qop := authenticate.qop
    scheme := authenticate.scheme
    opaqueValue := authenticate.opaqueValue
    userId := user
    isProxy := if authenticate.isProxy then true else context.isProxy }

/-- This is `belle_sip_authorization_create` and the first `authorization_context_fill_from_auth`. -/
def create (callId : String) (authenticate : Challenge) (user : Option String) : Context where
  callId := callId
  realm := authenticate.realm
  nonceCount := 0
  nonce := authenticate.nonce
  algorithm := authenticate.algorithm
  qop := authenticate.qop
  scheme := authenticate.scheme
  opaqueValue := authenticate.opaqueValue
  userId := user
  isProxy := authenticate.isProxy

end Context

/-- This is `belle_sip_provider_get_auth_context_by_realm_or_call_id`, as a test of each context. -/
def selects (contexts : List Context) (callId : String) (user realm : Option String) (context : Context) :
    Bool :=
  if contexts.any (·.ofCall callId) then context.ofCall callId else context.ofAccount realm user

/-- The position of the context that a challenge updates. -/
def target (contexts : List Context) (callId : String) (user realm : Option String)
    (authenticate : Challenge) : Option Nat :=
  contexts.findIdx? fun context =>
    selects contexts callId user realm context && context.realm = authenticate.realm

/-- This is `belle_sip_provider_update_or_create_auth_context`. -/
def updateOrCreate (callId : String) (user realm : Option String) (round : Round)
    (authenticate : Challenge) : Round :=
  match target round.contexts callId user realm authenticate with
  | some position =>
      { contexts := round.contexts.modify position (·.fillFromAuth authenticate user)
        filled := round.filled ++ [(position, authenticate.isProxy)] }
  | none =>
      { contexts := round.contexts ++ [.create callId authenticate user]
        filled := round.filled ++ [(round.contexts.length, authenticate.isProxy)] }

/-- The headers WWW-Authenticate of a response, followed by its headers Proxy-Authenticate. -/
def ordered (authenticates : List Challenge) : List Challenge :=
  authenticates.filter (!·.isProxy) ++ authenticates.filter (·.isProxy)

/-- The contexts after the challenges of the response. -/
def Call.challenge (call : Call) (contexts : List Context) : Round :=
  match call.response with
  | none => { contexts := contexts }
  | some (callId, authenticates) =>
      Foundation.Machine.run (updateOrCreate callId call.user call.realm) { contexts := contexts }
        (ordered authenticates)

/-- The method and the realm suggest a proxy to a request of another call. -/
def Call.guessesProxy (call : Call) (contextCallId contextRealm : String) : Bool :=
  !strcasecmp contextCallId call.callId && call.realm = some contextRealm && call.user.isSome &&
    (call.listener contextRealm call.user).username = call.user && call.method ≠ "REGISTER"

/-- This is `belle_sip_auth_helper_fill_authorization`, as a test of success. -/
def Credentials.fillAuthorization (credentials : Credentials) : Bool :=
  (credentials.scheme = none || credentials.scheme = some "Digest") &&
    (credentials.qop = none || credentials.qop = some "auth" && credentials.nonceCount ≠ some 0) &&
      credentials.uri.isSome

/-- The body of the loop of `belle_sip_provider_add_authorization` for one context. -/
def Call.authorize (call : Call) (context : Context) : Context × Option Credentials :=
  let answer := call.listener context.realm call.user
  if answer.passwd.isSome || answer.ha1.isSome then
    let nonceCount :=
      if context.qop.isSome then (context.nonceCount + 1).bmod UInt32.size else context.nonceCount
    let authorization : Credentials :=
      { isProxy := context.isProxy || call.guessesProxy context.callId context.realm
        scheme := context.scheme
        realm := context.realm
        username := if answer.userId.isSome then answer.userId else answer.username
        nonce := context.nonce
        qop := context.qop
        opaqueValue := context.opaqueValue
        algorithm := context.algorithm
        uri := call.uri
        nonceCount := if context.qop.isSome then some nonceCount else none }
    ({ context with nonceCount := nonceCount },
      if authorization.fillAuthorization then some authorization else none)
  else (context, none)

/-- A context that is not selected stays as it is. -/
def Call.visit (call : Call) (contexts : List Context) (context : Context) : Context × Option Credentials :=
  if selects contexts call.callId call.user call.realm context then call.authorize context
  else (context, none)

/-- The loop of `belle_sip_provider_add_authorization`; the list of contexts is fixed before it. -/
def Call.results (call : Call) (contexts : List Context) : List (Context × Option Credentials) :=
  contexts.map (call.visit contexts)

/-- The kind of a challenge with the kind of the credentials that its context has given. -/
def answer (results : List (Context × Option Credentials)) (challenge : Nat × Bool) : Option (Bool × Bool) :=
  ((results[challenge.1]?).bind Prod.snd).map fun credentials => (challenge.2, credentials.isProxy)

namespace Book

/-- This is `belle_sip_provider_add_authorization`. -/
def addAuthorization (book : Book) (call : Call) : Book :=
  if call.method = "CANCEL" ∨ call.method = "ACK" then book
  else
    let round := call.challenge book.contexts
    let results := call.results round.contexts
    { contexts := results.map Prod.fst
      built := book.built ++ results.filterMap Prod.snd
      answered := book.answered ++ round.filled.filterMap (answer results) }

/-- The first credentials of a request, those for a proxy before the others. -/
def sentNonce (credentials : List Credentials) : Option String :=
  match credentials.find? (·.isProxy) with
  | some authorization => some authorization.nonce
  | none => (credentials.find? (!·.isProxy)).map (·.nonce)

/-- This is the part of `belle_sip_provider_dispatch_response` on the contexts. -/
def dispatchResponse (book : Book) (statusCode : Nat) (credentials : List Credentials) : Book :=
  if statusCode = 401 ∨ statusCode = 403 ∨ statusCode = 407 then
    match sentNonce credentials with
    | none => book
    | some nonce => { book with contexts := book.contexts.filter fun context => context.nonce ≠ nonce }
  else book

def step (book : Book) : Event → Book
  | .received statusCode credentials => book.dispatchResponse statusCode credentials
  | .addAuthorization call => book.addAuthorization call

end Book

/-- There is at most one context for a Call-ID and a realm. -/
def Unique (contexts : List Context) : Prop :=
  Foundation.Apart (fun one other => ¬(one.ofCall other.callId = true ∧ one.realm = other.realm)) contexts

/-- The counts of the credentials for one nonce increase strictly. -/
def Increasing (built : List Credentials) : Prop :=
  built.Pairwise fun earlier later => earlier.nonce = later.nonce → ∀ few more,
    earlier.nonceCount = some few → later.nonceCount = some more → few < more

/-- Each challenge is answered by credentials of its kind. -/
def InKind (answered : List (Bool × Bool)) : Prop := ∀ kinds ∈ answered, kinds.1 = kinds.2

/-- The context that a challenge updates is the only one that counts the nonce of the challenge, and it
has counted all the credentials built with that nonce. -/
structure Fresh (built : List Credentials) (contexts : List Context) (position : Option Nat)
    (authenticate : Challenge) : Prop where
  unshared : ∀ index context, contexts[index]? = some context → context.qop.isSome →
    context.nonce = authenticate.nonce → position = some index
  counted : ∀ credentials ∈ built, credentials.nonce = authenticate.nonce → ∀ count,
    credentials.nonceCount = some count → ∃ index context, position = some index ∧
      contexts[index]? = some context ∧ context.nonce = authenticate.nonce ∧ count ≤ context.nonceCount

/-- A WWW-Authenticate updates no context of a proxy, and the request does not suggest a proxy; a
Proxy-Authenticate updates no context that a WWW-Authenticate of the same response has updated. -/
structure Call.Plain (call : Call) (callId : String) (round : Round) (position : Option Nat)
    (authenticate : Challenge) : Prop where
  web : authenticate.isProxy = false → ∀ index context, position = some index →
    round.contexts[index]? = some context →
      context.isProxy = false ∧ call.guessesProxy context.callId authenticate.realm = false
  created : authenticate.isProxy = false → position = none →
    call.guessesProxy callId authenticate.realm = false
  proxy : authenticate.isProxy = true → ∀ index, position = some index → (index, false) ∉ round.filled

def Call.Admits (call : Call) (built : List Credentials) (callId : String) (round : Round)
    (authenticate : Challenge) : Prop :=
  (authenticate.qop.isSome → Fresh built round.contexts
    (target round.contexts callId call.user call.realm authenticate) authenticate) ∧
  call.Plain callId round (target round.contexts callId call.user call.realm authenticate) authenticate

/-- The largest value of an `int`. -/
def intMax : Int := 2147483647

/-- The challenges of a response are fresh and plain, and no count is exhausted. -/
def Book.Proper (book : Book) : Event → Prop
  | .received _ _ => True
  | .addAuthorization call => (∀ context ∈ book.contexts, context.nonceCount < intMax) ∧
      match call.response with
      | none => True
      | some (callId, authenticates) =>
          Foundation.Machine.Along (updateOrCreate callId call.user call.realm)
            (call.Admits book.built callId) { contexts := book.contexts } (ordered authenticates)

variable {authenticate : Challenge} {user realm : Option String} {contexts : List Context} {callId : String}
  {built : List Credentials} {round : Round} {call : Call}

/-- The context at the target of a challenge is selected and has the realm of the challenge. -/
theorem target_some {position : Nat} (found : target contexts callId user realm authenticate = some position) :
    ∃ context, contexts[position]? = some context ∧ context.realm = authenticate.realm := by
  obtain ⟨inside, holds, _⟩ := List.findIdx?_eq_some_iff_getElem.mp found
  refine ⟨contexts[position], List.getElem?_eq_getElem inside, ?_⟩
  exact of_decide_eq_true (Bool.and_eq_true_iff.mp holds).2

/-- A challenge without target names a realm that is new to its call. -/
theorem target_none (missing : target contexts callId user realm authenticate = none) :
    ∀ context ∈ contexts, ¬(context.ofCall callId = true ∧ context.realm = authenticate.realm) := by
  rintro context among ⟨sameCall, sameRealm⟩
  have called : contexts.any (·.ofCall callId) = true := List.any_eq_true.mpr ⟨context, among, sameCall⟩
  have rejected := List.findIdx?_eq_none_iff.mp missing context among
  simp [selects, called, sameCall, sameRealm] at rejected

theorem strcasecmp_comm (first second : String) : strcasecmp first second = strcasecmp second first := by
  rw [strcasecmp, strcasecmp, decide_eq_decide]
  exact eq_comm

/-- A challenge keeps the contexts unique. -/
theorem updateOrCreate_unique (callId : String) (user realm : Option String) (round : Round)
    (authenticate : Challenge) (unique : Unique round.contexts) :
    Unique (updateOrCreate callId user realm round authenticate).contexts := by
  unfold updateOrCreate
  cases found : target round.contexts callId user realm authenticate with
  | some position =>
      obtain ⟨context, contextAt, sameRealm⟩ := target_some found
      apply unique.modify
      intro index other item different otherAt itemAt
      cases contextAt.symm.trans itemAt
      have apart := Foundation.Apart.iff_positions.mp unique
      have one := apart index position other context different otherAt contextAt
      have two := apart position index context other (Ne.symm different) contextAt otherAt
      rw [sameRealm] at one two
      exact ⟨one, two⟩
  | none =>
      apply unique.append_single
      intro other among
      have missing := target_none found other among
      refine ⟨missing, ?_⟩
      rintro ⟨sameCall, sameRealm⟩
      apply missing
      rw [Context.ofCall, strcasecmp_comm] at sameCall
      exact ⟨sameCall, sameRealm.symm⟩

/-- The loop over the contexts changes only their counts. -/
theorem visit_same (call : Call) (contexts : List Context) (context : Context) :
    (call.visit contexts context).1 =
      { context with nonceCount := (call.visit contexts context).1.nonceCount } := by
  unfold Call.visit Call.authorize
  split
  · dsimp only
    split <;> rfl
  · rfl

/-- Every event keeps the contexts unique. -/
theorem step_unique (book : Book) (event : Event) (unique : Unique book.contexts) :
    Unique (book.step event).contexts := by
  cases event with
  | received statusCode credentials =>
      dsimp only [Book.step, Book.dispatchResponse]
      split
      · split
        · exact unique
        · exact unique.filter _
      · exact unique
  | addAuthorization call =>
      dsimp only [Book.step, Book.addAuthorization]
      split
      · exact unique
      · dsimp only [Call.results]
        rw [List.map_map]
        have challenged : Unique (call.challenge book.contexts).contexts := by
          unfold Call.challenge
          split
          · exact unique
          · exact @Foundation.Machine.run_preserves _ _ _ (fun round : Round => Unique round.contexts)
              (updateOrCreate_unique _ _ _) { contexts := book.contexts } unique _
        apply challenged.map
        intro one other apart
        dsimp only [Function.comp]
        rw [visit_same call _ one, visit_same call _ other]
        exact apart

/-- In every run there is at most one context for a Call-ID and a realm. -/
theorem run_unique (events : List Event) :
    Unique (Foundation.Machine.run Book.step {} events).contexts :=
  @Foundation.Machine.run_preserves _ _ Book.step (fun book => Unique book.contexts) step_unique {}
    Foundation.Apart.nil events

/-- The contexts that count their credentials have different nonces, and no count is behind the
credentials built with its nonce. -/
structure Kept (built : List Credentials) (contexts : List Context) : Prop where
  separate : Foundation.Apart (fun one other => one.qop.isSome → other.qop.isSome →
    one.nonce ≠ other.nonce) contexts
  counted : ∀ context ∈ contexts, context.qop.isSome → ∀ credentials ∈ built,
    credentials.nonce = context.nonce → ∀ count, credentials.nonceCount = some count →
      count ≤ context.nonceCount
  natural : ∀ context ∈ contexts, 0 ≤ context.nonceCount

/-- A context after a challenge is an old one, an updated one, or a new one. -/
theorem mem_updateOrCreate {after : Context}
    (among : after ∈ (updateOrCreate callId user realm round authenticate).contexts) :
    after ∈ round.contexts ∨
      (∃ position context, target round.contexts callId user realm authenticate = some position ∧
        round.contexts[position]? = some context ∧ after = context.fillFromAuth authenticate user) ∨
      (target round.contexts callId user realm authenticate = none ∧
        after = .create callId authenticate user) := by
  unfold updateOrCreate at among
  cases found : target round.contexts callId user realm authenticate with
  | some position =>
      rw [found] at among
      obtain ⟨index, afterAt⟩ := List.mem_iff_getElem?.mp among
      by_cases here : position = index
      · subst here
        obtain ⟨context, contextAt, _⟩ := target_some found
        dsimp only at afterAt
        rw [List.getElem?_modify_eq, contextAt] at afterAt
        cases afterAt
        exact .inr (.inl ⟨position, context, rfl, contextAt, rfl⟩)
      · dsimp only at afterAt
        rw [List.getElem?_modify_ne _ _ here] at afterAt
        exact .inl (List.mem_of_getElem? afterAt)
  | none =>
      rw [found] at among
      rcases List.mem_append.mp among with old | new
      · exact .inl old
      · exact .inr (.inr ⟨rfl, List.mem_singleton.mp new⟩)

/-- A challenge sets a count to 0 or leaves it. -/
theorem updateOrCreate_counts (limits : Int → Prop) (zero : limits 0)
    (within : ∀ context ∈ round.contexts, limits context.nonceCount) :
    ∀ after ∈ (updateOrCreate callId user realm round authenticate).contexts, limits after.nonceCount := by
  intro after among
  rcases mem_updateOrCreate among with old | ⟨position, context, _, contextAt, rfl⟩ | ⟨_, rfl⟩
  · exact within after old
  · dsimp only [Context.fillFromAuth]
    split
    · exact zero
    · exact within context (List.mem_of_getElem? contextAt)
  · exact zero

/-- A fresh challenge keeps the nonces separate. -/
theorem updateOrCreate_separate (kept : Kept built round.contexts) (fresh : authenticate.qop.isSome →
      Fresh built round.contexts (target round.contexts callId user realm authenticate) authenticate) :
    Foundation.Apart (fun one other => one.qop.isSome → other.qop.isSome → one.nonce ≠ other.nonce)
      (updateOrCreate callId user realm round authenticate).contexts := by
  have alone : ∀ index other, round.contexts[index]? = some other →
      target round.contexts callId user realm authenticate ≠ some index → authenticate.qop.isSome →
        other.qop.isSome → other.nonce ≠ authenticate.nonce := by
    intro index other otherAt elsewhere counting otherCounting same
    exact elsewhere ((fresh counting).unshared index other otherAt otherCounting same)
  unfold updateOrCreate
  cases found : target round.contexts callId user realm authenticate with
  | some position =>
      apply kept.separate.modify
      intro index other item different otherAt itemAt
      have apart := alone index other otherAt (by rw [found]; exact fun same => different (Option.some.inj same).symm)
      exact ⟨fun otherCounting counting => apart counting otherCounting,
        fun counting otherCounting same => apart counting otherCounting same.symm⟩
  | none =>
      apply kept.separate.append_single
      intro other among
      obtain ⟨index, otherAt⟩ := List.mem_iff_getElem?.mp among
      have apart := alone index other otherAt (by rw [found]; exact Option.some_ne_none index ∘ Eq.symm)
      exact ⟨fun otherCounting counting => apart counting otherCounting,
        fun counting otherCounting same => apart counting otherCounting same.symm⟩

/-- A fresh challenge keeps the counts. -/
theorem updateOrCreate_kept (kept : Kept built round.contexts) (fresh : authenticate.qop.isSome →
      Fresh built round.contexts (target round.contexts callId user realm authenticate) authenticate) :
    Kept built (updateOrCreate callId user realm round authenticate).contexts := by
  refine ⟨updateOrCreate_separate kept fresh, ?_, updateOrCreate_counts (0 ≤ ·) (Int.le_refl 0) kept.natural⟩
  intro after among counting credentials before same count counts
  rcases mem_updateOrCreate among with old | ⟨position, context, found, contextAt, rfl⟩ | ⟨missing, rfl⟩
  · exact kept.counted after old counting credentials before same count counts
  · obtain ⟨index, holder, reached, holderAt, holds, enough⟩ :=
      (fresh counting).counted credentials before same count counts
    cases found.symm.trans reached
    cases contextAt.symm.trans holderAt
    dsimp only [Context.fillFromAuth]
    rw [if_neg (not_not_intro holds.symm)]
    exact enough
  · obtain ⟨index, holder, reached, _⟩ := (fresh counting).counted credentials before same count counts
    cases missing.symm.trans reached

/-- The context at the position of a treated challenge has the kind of that challenge, and when this is
no proxy, the request does not suggest one. -/
def Call.Matches (call : Call) (round : Round) : Prop :=
  ∀ position isProxy, (position, isProxy) ∈ round.filled → ∃ context,
    round.contexts[position]? = some context ∧ context.isProxy = isProxy ∧
      (isProxy = false → call.guessesProxy context.callId context.realm = false)

/-- A plain challenge keeps the kinds of the treated ones. -/
theorem updateOrCreate_matches (matching : call.Matches round)
    (plain : call.Plain callId round (target round.contexts callId call.user call.realm authenticate)
      authenticate) :
    call.Matches (updateOrCreate callId call.user call.realm round authenticate) := by
  unfold updateOrCreate
  cases found : target round.contexts callId call.user call.realm authenticate with
  | some position =>
      rw [found] at plain
      obtain ⟨context, contextAt, sameRealm⟩ := target_some found
      have filledAt : (round.contexts.modify position (·.fillFromAuth authenticate call.user))[position]? =
          some (context.fillFromAuth authenticate call.user) := by
        rw [List.getElem?_modify_eq, contextAt]
        rfl
      intro index isProxy among
      rcases List.mem_append.mp among with old | new
      · obtain ⟨before, beforeAt, kind, unguessed⟩ := matching index isProxy old
        by_cases here : position = index
        · subst here
          cases contextAt.symm.trans beforeAt
          refine ⟨_, filledAt, ?_, ?_⟩
          · dsimp only [Context.fillFromAuth]
            cases proxy : authenticate.isProxy with
            | false => exact kind
            | true =>
                cases isProxy with
                | true => rfl
                | false => exact absurd old (plain.proxy proxy position rfl)
          · dsimp only [Context.fillFromAuth]
            rw [← sameRealm]
            exact unguessed
        · refine ⟨before, ?_, kind, unguessed⟩
          dsimp only
          rw [List.getElem?_modify_ne _ _ here, beforeAt]
      · cases List.mem_singleton.mp new
        refine ⟨_, filledAt, ?_, ?_⟩
        · dsimp only [Context.fillFromAuth]
          cases proxy : authenticate.isProxy with
          | true => rfl
          | false => exact (plain.web proxy position context rfl contextAt).1
        · intro web
          exact (plain.web web position context rfl contextAt).2
  | none =>
      rw [found] at plain
      intro index isProxy among
      rcases List.mem_append.mp among with old | new
      · obtain ⟨before, beforeAt, kind⟩ := matching index isProxy old
        refine ⟨before, ?_, kind⟩
        dsimp only
        rw [List.getElem?_append_left (List.getElem?_eq_some_iff.mp beforeAt).1]
        exact beforeAt
      · cases List.mem_singleton.mp new
        refine ⟨.create callId authenticate call.user, ?_, rfl, ?_⟩
        · dsimp only
          rw [List.getElem?_append_right (Nat.le_refl _), Nat.sub_self]
          rfl
        · intro web
          exact plain.created web rfl

/-- What the loop over the contexts does to one of them. -/
structure Visited (context after : Context) (credentials : Option Credentials) : Prop where
  qop : after.qop = context.qop
  nonce : after.nonce = context.nonce
  grows : context.nonceCount ≤ after.nonceCount
  uses : ∀ authorization, credentials = some authorization → authorization.nonce = context.nonce
  counts : ∀ authorization count, credentials = some authorization →
    authorization.nonceCount = some count →
      context.qop.isSome ∧ context.nonceCount < count ∧ count ≤ after.nonceCount

theorem visit_visited (call : Call) (contexts : List Context) {context : Context}
    (natural : 0 ≤ context.nonceCount) (bounded : context.nonceCount < intMax) :
    Visited context (call.visit contexts context).1 (call.visit contexts context).2 := by
  have range : UInt32.size = 4294967296 := rfl
  have next : (context.nonceCount + 1).bmod UInt32.size = context.nonceCount + 1 := by
    unfold intMax at bounded
    rw [range]
    apply Int.bmod_eq_of_le <;> omega
  have untouched : Visited context context none := by
    refine ⟨rfl, rfl, Int.le_refl _, ?_, ?_⟩
    · intro authorization absent
      cases absent
    · intro authorization count absent
      cases absent
  unfold Call.visit
  split
  · unfold Call.authorize
    dsimp only
    split
    · cases qop : context.qop with
      | none =>
          refine ⟨qop.symm, rfl, Int.le_refl _, ?_, ?_⟩
          · intro authorization made
            simp only [Option.ite_none_right_eq_some, Option.some.injEq] at made
            rw [← made.2]
          · intro authorization count made counts
            simp only [Option.ite_none_right_eq_some, Option.some.injEq] at made
            rw [← made.2] at counts
            cases counts
      | some kind =>
          simp only [Option.isSome_some, if_true, next]
          refine ⟨qop.symm, rfl, by dsimp only; omega, ?_, ?_⟩
          · intro authorization made
            simp only [Option.ite_none_right_eq_some, Option.some.injEq] at made
            rw [← made.2]
          · intro authorization count made counts
            simp only [Option.ite_none_right_eq_some, Option.some.injEq] at made
            rw [← made.2] at counts
            cases counts
            exact ⟨by rw [qop]; rfl, by omega, Int.le_refl _⟩
    · exact untouched
  · exact untouched

/-- The credentials that one call builds. -/
def Call.credentials (call : Call) (contexts : List Context) : List Credentials :=
  (call.results contexts).filterMap Prod.snd

theorem mem_credentials {credentials : Credentials} (among : credentials ∈ call.credentials contexts) :
    ∃ context ∈ contexts, (call.visit contexts context).2 = some credentials := by
  obtain ⟨result, listed, made⟩ := List.mem_filterMap.mp among
  obtain ⟨context, inside, rfl⟩ := List.mem_map.mp listed
  exact ⟨context, inside, made⟩

/-- New credentials count further than those built before with the same nonce. -/
theorem credentials_increasing (call : Call) (kept : Kept built contexts)
    (bounded : ∀ context ∈ contexts, context.nonceCount < intMax) (increasing : Increasing built) :
    Increasing (built ++ call.credentials contexts) := by
  have visited : ∀ context ∈ contexts,
      Visited context (call.visit contexts context).1 (call.visit contexts context).2 :=
    fun context among => visit_visited call contexts (kept.natural context among) (bounded context among)
  apply List.pairwise_append.mpr
  refine ⟨increasing, ?_, ?_⟩
  · apply List.pairwise_filterMap.mpr
    apply List.pairwise_map.mpr
    apply List.Pairwise.imp_of_mem _ kept.separate
    intro one other oneIn otherIn separate earlier earlierMade later laterMade same few more fewer greater
    have first := visited one oneIn
    have second := visited other otherIn
    have different := separate.1 (first.counts earlier few earlierMade fewer).1
      (second.counts later more laterMade greater).1
    rw [first.uses earlier earlierMade, second.uses later laterMade] at same
    exact absurd same different
  · intro earlier before later among same few more fewer greater
    obtain ⟨context, inside, made⟩ := mem_credentials among
    have visit := visited context inside
    obtain ⟨counting, above, _⟩ := visit.counts later more made greater
    rw [visit.uses later made] at same
    have reached := kept.counted context inside counting earlier before same few fewer
    omega

/-- The counts are kept by the loop over the contexts. -/
theorem results_kept (call : Call) (kept : Kept built contexts)
    (bounded : ∀ context ∈ contexts, context.nonceCount < intMax) :
    Kept (built ++ call.credentials contexts) ((call.results contexts).map Prod.fst) := by
  have visited : ∀ context ∈ contexts,
      Visited context (call.visit contexts context).1 (call.visit contexts context).2 :=
    fun context among => visit_visited call contexts (kept.natural context among) (bounded context among)
  have members : ∀ after ∈ (call.results contexts).map Prod.fst,
      ∃ context ∈ contexts, after = (call.visit contexts context).1 := by
    intro after among
    obtain ⟨result, listed, rfl⟩ := List.mem_map.mp among
    obtain ⟨context, inside, rfl⟩ := List.mem_map.mp listed
    exact ⟨context, inside, rfl⟩
  refine ⟨?_, ?_, ?_⟩
  · rw [Call.results, List.map_map]
    apply kept.separate.map
    intro one other separate
    dsimp only [Function.comp]
    rw [visit_same call _ one, visit_same call _ other]
    exact separate
  · intro after among counting credentials built same count counts
    obtain ⟨context, inside, rfl⟩ := members after among
    have visit := visited context inside
    rw [visit.qop] at counting
    rw [visit.nonce] at same
    rcases List.mem_append.mp built with before | new
    · exact Int.le_trans (kept.counted context inside counting credentials before same count counts)
        visit.grows
    · obtain ⟨other, otherIn, made⟩ := mem_credentials new
      have otherVisit := visited other otherIn
      obtain ⟨otherCounting, _, enough⟩ := otherVisit.counts credentials count made counts
      have alone : other = context := by
        by_contra different
        apply kept.separate.of_ne otherIn inside different otherCounting counting
        rw [← otherVisit.uses credentials made, same]
      rw [← alone]
      exact enough
  · intro after among
    obtain ⟨context, inside, rfl⟩ := members after among
    exact Int.le_trans (kept.natural context inside) (visited context inside).grows

theorem authorize_kind {context : Context} {credentials : Credentials}
    (made : (call.authorize context).2 = some credentials) :
    credentials.isProxy = (context.isProxy || call.guessesProxy context.callId context.realm) := by
  unfold Call.authorize at made
  dsimp only at made
  split at made
  · simp only [Option.ite_none_right_eq_some, Option.some.injEq] at made
    rw [← made.2]
  · cases made

/-- The credentials of matching contexts are in kind. -/
theorem results_inKind (matching : call.Matches round) :
    InKind (round.filled.filterMap (answer (call.results round.contexts))) := by
  intro kinds among
  obtain ⟨⟨position, isProxy⟩, filled, answered⟩ := List.mem_filterMap.mp among
  obtain ⟨context, contextAt, kind, unguessed⟩ := matching position isProxy filled
  unfold answer Call.results at answered
  rw [List.getElem?_map, contextAt] at answered
  obtain ⟨credentials, made, rfl⟩ := Option.map_eq_some_iff.mp answered
  have visited : (call.visit round.contexts context).2 = some credentials := made
  unfold Call.visit at visited
  split at visited
  · rw [authorize_kind visited, kind]
    cases isProxy with
    | true => rfl
    | false => rw [unguessed rfl]; rfl
  · cases visited

/-- The invariant of a book under proper events. -/
structure Sound (book : Book) : Prop where
  kept : Kept book.built book.contexts
  increasing : Increasing book.built
  inKind : InKind book.answered

/-- The treatment of a proper response keeps the counts and yields matching contexts. -/
theorem challenge_sound {book : Book} (kept : Kept book.built book.contexts)
    (proper : book.Proper (.addAuthorization call)) :
    Kept book.built (call.challenge book.contexts).contexts ∧
      (∀ context ∈ (call.challenge book.contexts).contexts, context.nonceCount < intMax) ∧
        call.Matches (call.challenge book.contexts) := by
  obtain ⟨bounded, admitted⟩ := proper
  unfold Call.challenge
  cases response : call.response with
  | none =>
      refine ⟨kept, bounded, ?_⟩
      intro position isProxy among
      cases among
  | some given =>
      obtain ⟨callId, authenticates⟩ := given
      rw [response] at admitted
      apply @Foundation.Machine.run_invariant _ _ (updateOrCreate callId call.user call.realm) _
        (fun round => Kept book.built round.contexts ∧
          (∀ context ∈ round.contexts, context.nonceCount < intMax) ∧ call.Matches round) _ _ _ _ admitted
      · rintro round authenticate ⟨kept, bounded, matching⟩ ⟨fresh, plain⟩
        exact ⟨updateOrCreate_kept kept fresh,
          updateOrCreate_counts (· < intMax) (by decide) bounded,
          updateOrCreate_matches matching plain⟩
      · refine ⟨kept, bounded, ?_⟩
        intro position isProxy among
        cases among

theorem step_sound (book : Book) (event : Event) (sound : Sound book) (proper : book.Proper event) :
    Sound (book.step event) := by
  cases event with
  | received statusCode credentials =>
      dsimp only [Book.step, Book.dispatchResponse]
      split
      · split
        · exact sound
        · refine ⟨⟨sound.kept.separate.filter _, ?_, ?_⟩, sound.increasing, sound.inKind⟩
          · intro context among
            exact sound.kept.counted context (List.mem_filter.mp among).1
          · intro context among
            exact sound.kept.natural context (List.mem_filter.mp among).1
      · exact sound
  | addAuthorization call =>
      dsimp only [Book.step, Book.addAuthorization]
      split
      · exact sound
      · obtain ⟨kept, bounded, matching⟩ := challenge_sound sound.kept proper
        refine ⟨results_kept call kept bounded, credentials_increasing call kept bounded sound.increasing, ?_⟩
        intro kinds among
        rcases List.mem_append.mp among with old | new
        · exact sound.inKind kinds old
        · exact results_inKind matching kinds new

/-- In a run of proper events there is one context for a Call-ID and a realm, the counts of a nonce
increase, and each challenge is answered in kind. -/
theorem run_sound (events : List Event)
    (proper : Foundation.Machine.Along Book.step Book.Proper {} events) :
    Unique (Foundation.Machine.run Book.step {} events).contexts ∧
      Increasing (Foundation.Machine.run Book.step {} events).built ∧
        InKind (Foundation.Machine.run Book.step {} events).answered := by
  have empty : Sound {} := by
    refine ⟨⟨Foundation.Apart.nil, ?_, ?_⟩, List.Pairwise.nil, ?_⟩ <;> intro _ among <;> cases among
  have sound := Foundation.Machine.run_invariant step_sound empty proper
  exact ⟨run_unique events, sound.increasing, sound.inKind⟩

/-- A request of alice that is sent again after a challenge, or for the first time without one. -/
def again (challenge : Option Challenge) : Call where
  method := "INVITE"
  callId := "call"
  uri := some { text := "sip:bob@example.org" }
  user := some "alice"
  response := challenge.map fun authenticate => ("call", [authenticate])
  realm := some "example.org"
  listener := fun _ user => { username := user, passwd := some "secret" }

/-- A server that counts the uses of one nonce. -/
def counting (isProxy : Bool) : Challenge where
  isProxy := isProxy
  realm := "example.org"
  nonce := "nonce"
  qop := some "auth"

/-- The request is challenged, and another request of the call follows. -/
def followed : List Event :=
  [.addAuthorization (again (some (counting false))), .addAuthorization (again none)]

theorem run_sound_followed :
    Foundation.Machine.Along Book.step Book.Proper {} followed ∧
      (Foundation.Machine.run Book.step {} followed).built.map (·.nonceCount) = [some 1, some 2] ∧
      Increasing (Foundation.Machine.run Book.step {} followed).built := by
  have proper : Foundation.Machine.Along Book.step Book.Proper {} followed := by
    refine ⟨⟨?_, ⟨?_, ?_⟩, trivial⟩, ⟨?_, trivial⟩, trivial⟩
    · intro context among
      cases among
    · intro _
      refine ⟨?_, ?_⟩
      · intro index context contextAt
        cases contextAt
      · intro credentials among
        cases among
    · refine ⟨?_, ?_, ?_⟩
      · intro _ index context reached
        cases reached
      · decide
      · intro proxy
        cases proxy
    · decide
  exact ⟨proper, rfl, (run_sound _ proper).2.1⟩

/-- The request is challenged, it is refused with its credentials, and it is challenged with the same
nonce. -/
def refused : List Event :=
  let call := again (some (counting false))
  [.addAuthorization call, .received 401 (call.credentials (call.challenge []).contexts),
    .addAuthorization call]

/-- A proxy challenges the request, and then the server does so for the same realm. -/
def challengedTwice : List Event :=
  [.addAuthorization (again (some (counting true))), .addAuthorization (again (some (counting false)))]

/-- The refused request starts its count again, and the context that a proxy has filled answers the server
with Proxy-Authorization. -/
theorem not_sound :
    ¬ Increasing (Foundation.Machine.run Book.step {} refused).built ∧
      ¬ InKind (Foundation.Machine.run Book.step {} challengedTwice).answered := by
  constructor
  · obtain ⟨first, second, built, same, few, more⟩ : ∃ first second,
        (Foundation.Machine.run Book.step {} refused).built = [first, second] ∧
          first.nonce = second.nonce ∧ first.nonceCount = some 1 ∧ second.nonceCount = some 1 :=
      ⟨_, _, rfl, rfl, rfl, rfl⟩
    intro increasing
    rw [Increasing, built] at increasing
    have grows := List.rel_of_pairwise_cons increasing (List.mem_singleton.mpr rfl) same 1 1 few more
    omega
  · intro inKind
    have kinds : (false, true) ∈ (Foundation.Machine.run Book.step {} challengedTwice).answered := by decide
    cases inKind (false, true) kinds

end Authorization

end BelleSip
