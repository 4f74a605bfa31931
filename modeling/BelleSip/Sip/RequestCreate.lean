import BelleSip.Sip.HeaderContainers

/-
This file models the creation of a request from a URI with headers, and proves when those headers do no harm.
-/

namespace BelleSip

/-- The names that `is_authorized_uri_header` refuses. -/
def refusedNames : List String :=
  ["From", "Call-ID", "CSeq", "Via", "Record-Route", "Accept", "Accept-Encoding", "Accept-Language", "Allow", "Contact",
    "Organization", "Supported", "User-Agent"]

/-- This is `is_authorized_uri_header`. -/
def isAuthorizedUriHeader (headerName : String) : Bool := refusedNames.all fun name => !strcasecmp name headerName

/-- The arguments of `belle_sip_request_create`; a header is known by its text. -/
structure RequestArguments where
  /-- The headers of the request URI. -/
  uriHeaders : List (String × Option String) := []
  callId : String
  cseq : String
  fromHeader : String
  /-- The header To may be among the headers of the URI. -/
  toHeader : Option String := none
  via : String
  maxForward : Int := 0
deriving DecidableEq, Repr

namespace RequestArguments

/-- The headers that are passed, in the order in which they are added. -/
def passed (arguments : RequestArguments) : List Header :=
  [⟨"Via", arguments.via⟩, ⟨"From", arguments.fromHeader⟩] ++
    (arguments.toHeader.map fun value => (⟨"To", value⟩ : Header)).toList ++
    [⟨"CSeq", arguments.cseq⟩, ⟨"Call-ID", arguments.callId⟩]

def maxForwards (arguments : RequestArguments) : Header :=
  ⟨"Max-Forwards", toString (if arguments.maxForward = 0 then 70 else arguments.maxForward)⟩

/-- This is `belle_sip_uri_get_header`. -/
def getUriHeader (arguments : RequestArguments) (name : String) : Option String :=
  (arguments.uriHeaders.find? (·.1 = name)).bind (·.2)

/-- The extension headers for the headers of the URI. -/
def extended (arguments : RequestArguments) : List Header :=
  ((arguments.uriHeaders.map (·.1)).filter isAuthorizedUriHeader).map fun name =>
    ⟨name, (arguments.getUriHeader name).getD ""⟩

/-- This is `belle_sip_request_create`. -/
def requestCreate (arguments : RequestArguments) : HeaderLists :=
  let request := arguments.passed.foldl HeaderLists.addHeader []
  let request :=
    if (request.getHeaders "Max-Forwards").isEmpty then request.addHeader arguments.maxForwards else request
  arguments.extended.foldl HeaderLists.addHeader request

end RequestArguments

/-- The headers with a name, in any case or compact form. -/
def named (name : String) (headers : List Header) : List Header :=
  headers.filter fun header => canonical header.name = canonical name

/-- The headers that RFC 3261 excludes, as the function quotes it. -/
def excludedNames : List String := "Route" :: refusedNames

/-- The headers of the request that the URI must not touch are those that are passed, and no mandatory header is missing
or occurs twice. -/
def Guarded (arguments : RequestArguments) (request : HeaderLists) : Prop :=
  (∀ name ∈ excludedNames, named name request.headers = named name arguments.passed) ∧
    ∀ name ∈ ["To", "CSeq", "Call-ID", "From", "Max-Forwards"], (named name request.headers).length = 1

/-- No header of the URI is Route or Max-Forwards, or an excluded header under its compact name, and the only To is the
one that is passed or, without it, one of the URI. -/
def RequestArguments.Harmless (arguments : RequestArguments) : Prop :=
  (∀ header ∈ arguments.uriHeaders, canonical header.1 ≠ canonical "Route" ∧
    canonical header.1 ≠ canonical "Max-Forwards" ∧
      (isCompact header.1 = true → canonical header.1 ∉ excludedNames.map canonical)) ∧
    (arguments.uriHeaders.filter fun header => canonical header.1 = canonical "To").length =
      if arguments.toHeader.isSome then 0 else 1

/-- A compact name is none of those that the filter refuses. -/
theorem isAuthorizedUriHeader_compact {name : String} (compact : isCompact name = true) :
    isAuthorizedUriHeader name = true := by
  have full : (refusedNames.all fun name => !isCompact name) = true := by decide
  apply List.all_eq_true.mpr
  intro refused among
  have differs := List.all_eq_true.mp full refused among
  cases same : strcasecmp refused name with
  | false => rfl
  | true =>
      rw [isCompact_congr same, compact] at differs
      cases differs

/-- A full name is refused in every letter case. -/
theorem isAuthorizedUriHeader_full {name : String} (full : isCompact name = false) :
    isAuthorizedUriHeader name = true ↔ canonical name ∉ refusedNames.map canonical := by
  have others : ∀ refused ∈ refusedNames, isCompact refused = false := by decide
  rw [isAuthorizedUriHeader, List.all_eq_true, List.mem_map]
  constructor
  · rintro allowed ⟨refused, among, same⟩
    have differs := allowed refused among
    rw [canonical_full full, canonical_full (others refused among)] at same
    rw [strcasecmp_iff.mpr same] at differs
    cases differs
  · intro absent refused among
    cases same : strcasecmp refused name with
    | false => rfl
    | true => exact absurd ⟨refused, among, canonical_congr same⟩ absent

/-- A name that is not refused under its full spelling passes the filter. -/
theorem isAuthorizedUriHeader_of_other {name : String} (other : canonical name ∉ refusedNames.map canonical) :
    isAuthorizedUriHeader name = true := by
  cases compact : isCompact name with
  | true => exact isAuthorizedUriHeader_compact compact
  | false => exact (isAuthorizedUriHeader_full compact).mpr other

/-- The filter lets through, of the names that must not be touched, the two that it does not know and the compact
ones. -/
theorem passes_iff (name : String) :
    (isAuthorizedUriHeader name = true → ∀ other ∈ "Max-Forwards" :: excludedNames, canonical name ≠ canonical other) ↔
      canonical name ≠ canonical "Route" ∧ canonical name ≠ canonical "Max-Forwards" ∧
        (isCompact name = true → canonical name ∉ excludedNames.map canonical) := by
  have route : canonical "Route" ∉ refusedNames.map canonical := by decide
  have hops : canonical "Max-Forwards" ∉ refusedNames.map canonical := by decide
  constructor
  · intro harmless
    refine ⟨fun same => ?_, fun same => ?_, fun compact among => ?_⟩
    · exact harmless (isAuthorizedUriHeader_of_other (same ▸ route)) "Route" (by simp [excludedNames]) same
    · exact harmless (isAuthorizedUriHeader_of_other (same ▸ hops)) "Max-Forwards" List.mem_cons_self same
    · obtain ⟨other, excluded, same⟩ := List.mem_map.mp among
      exact harmless (isAuthorizedUriHeader_compact compact) other (List.mem_cons_of_mem _ excluded) same.symm
  · rintro ⟨notRoute, notHops, notCompact⟩ allowed other among same
    rcases List.mem_cons.mp among with rfl | excluded
    · exact notHops same
    · have listed : canonical name ∈ excludedNames.map canonical := same ▸ List.mem_map_of_mem excluded
      cases compact : isCompact name with
      | true => exact notCompact compact listed
      | false =>
          have free := (isAuthorizedUriHeader_full compact).mp allowed
          rcases List.mem_cons.mp excluded with rfl | refused
          · exact notRoute same
          · exact free (same ▸ List.mem_map_of_mem refused)

namespace HeaderLists

theorem headers_modify {message : HeaderLists} {position : Nat} (inside : position < message.length) (header : Header) :
    (HeaderLists.headers (message.modify position fun container =>
      { container with headerList := container.headerList ++ [header] })).Perm (message.headers ++ [header]) := by
  induction message generalizing position with
  | nil => exact absurd inside (Nat.not_lt_zero _)
  | cons container others inductionHypothesis =>
      cases position with
      | zero =>
          show (container.headerList ++ [header] ++ HeaderLists.headers others).Perm
            (container.headerList ++ HeaderLists.headers others ++ [header])
          rw [List.append_assoc, List.append_assoc]
          exact List.Perm.append_left _ List.perm_append_comm
      | succ position =>
          have rest := inductionHypothesis (Nat.lt_of_succ_lt_succ inside)
          show (container.headerList ++ _).Perm (container.headerList ++ HeaderLists.headers others ++ [header])
          rw [List.append_assoc]
          exact List.Perm.append_left _ rest

/-- A header that is added is one more header of the message. -/
theorem headers_addHeader (message : HeaderLists) (header : Header) :
    (message.addHeader header).headers.Perm (message.headers ++ [header]) := by
  rw [addHeader, updateOrCreate]
  split
  · next position found =>
      apply headers_modify
      obtain ⟨inside, -⟩ := List.findIdx?_eq_some_iff_getElem.mp found
      exact inside
  · rw [headers, List.flatMap_append]
    simp [headers]

theorem headers_addHeader_run (headers : List Header) (message : HeaderLists) :
    (headers.foldl addHeader message).headers.Perm (message.headers ++ headers) := by
  induction headers generalizing message with
  | nil => simp
  | cons header others inductionHypothesis =>
      have step := List.Perm.append_right others (message.headers_addHeader header)
      rw [List.append_assoc] at step
      exact (inductionHypothesis (message.addHeader header)).trans step

/-- A new container has the name of the header. -/
theorem name_addHeader {message : HeaderLists} {header : Header} {container : HeadersContainer}
    (among : container ∈ message.addHeader header) :
    (∃ before ∈ message, before.name = container.name) ∨ container.name = expandName header.name := by
  rw [addHeader, updateOrCreate] at among
  split at among
  · obtain ⟨index, inside, rfl⟩ := List.getElem_of_mem among
    rw [List.length_modify] at inside
    refine Or.inl ⟨message[index], List.getElem_mem inside, ?_⟩
    rw [List.getElem_modify]
    split <;> rfl
  · rcases List.mem_append.mp among with before | new
    · exact Or.inl ⟨container, before, rfl⟩
    · rw [List.mem_singleton.mp new]
      exact Or.inr rfl

theorem name_addHeader_run {headers : List Header} {message : HeaderLists} {container : HeadersContainer}
    (among : container ∈ headers.foldl addHeader message) :
    (∃ before ∈ message, before.name = container.name) ∨
      ∃ header ∈ headers, container.name = expandName header.name := by
  induction headers generalizing message with
  | nil => exact Or.inl ⟨container, among, rfl⟩
  | cons header others inductionHypothesis =>
      rcases inductionHypothesis among with ⟨middle, inside, same⟩ | ⟨other, later, named⟩
      · rcases name_addHeader inside with ⟨before, first, equal⟩ | new
        · exact Or.inl ⟨before, first, equal.trans same⟩
        · exact Or.inr ⟨header, List.mem_cons_self, same ▸ new⟩
      · exact Or.inr ⟨other, List.mem_cons_of_mem _ later, named⟩

end HeaderLists

theorem named_append (name : String) (headers others : List Header) :
    named name (headers ++ others) = named name headers ++ named name others := List.filter_append ..

theorem named_length_le_one {headers : List Header} (distinct : (headers.map (canonical ·.name)).Nodup)
    (name : String) :
    (named name headers).length ≤ 1 := by
  have once := List.nodup_iff_count_le_one.mp distinct (canonical name)
  rw [List.count, List.countP_map] at once
  rw [named, ← List.countP_eq_length_filter]
  refine Nat.le_trans (Nat.le_of_eq (List.countP_congr fun header _ => ?_)) once
  simp

namespace RequestArguments

variable (arguments : RequestArguments)

/-- No header that is passed has the name Max-Forwards. -/
theorem getHeaders_passed : (arguments.passed.foldl HeaderLists.addHeader []).getHeaders "Max-Forwards" = [] := by
  have names : ∀ header ∈ arguments.passed, header.name ∈ ["Via", "From", "To", "CSeq", "Call-ID"] := by
    intro header among
    simp only [passed, List.mem_append, List.mem_cons, List.not_mem_nil, or_false, Option.mem_toList,
      Option.map_eq_some_iff] at among
    rcases among with ((rfl | rfl) | ⟨value, -, rfl⟩) | rfl | rfl <;> simp
  have apart : (["Via", "From", "To", "CSeq", "Call-ID"].all fun name =>
      !strcasecmp (expandName name) "Max-Forwards") = true := by decide
  have missing : (arguments.passed.foldl HeaderLists.addHeader []).find? (HeadersContainer.isNamed "Max-Forwards") =
      none := by
    apply List.find?_eq_none.mpr
    intro container among
    rcases HeaderLists.name_addHeader_run among with ⟨before, inside, -⟩ | ⟨header, added, same⟩
    · exact absurd inside List.not_mem_nil
    · have differs := List.all_eq_true.mp apart header.name (names header added)
      rw [HeadersContainer.isNamed, same]
      simpa using differs
  rw [HeaderLists.getHeaders, missing]
  rfl

theorem named_extended (name : String) : named name arguments.extended = [] ↔ ∀ header ∈ arguments.uriHeaders,
    isAuthorizedUriHeader header.1 = true → canonical header.1 ≠ canonical name := by
  rw [named, List.filter_eq_nil_iff]
  constructor
  · intro absent header among allowed same
    have listed : ⟨header.1, (arguments.getUriHeader header.1).getD ""⟩ ∈ arguments.extended :=
      List.mem_map.mpr ⟨header.1, List.mem_filter.mpr ⟨List.mem_map_of_mem among, allowed⟩, rfl⟩
    exact absent _ listed (decide_eq_true same)
  · intro absent extension among same
    obtain ⟨name, inside, rfl⟩ := List.mem_map.mp among
    obtain ⟨listed, allowed⟩ := List.mem_filter.mp inside
    obtain ⟨header, given, rfl⟩ := List.mem_map.mp listed
    exact absent header given allowed (of_decide_eq_true same)

/-- Every To of the URI passes the filter. -/
theorem length_named_extended : (named "To" arguments.extended).length =
    (arguments.uriHeaders.filter fun header => canonical header.1 = canonical "To").length := by
  have receiver : canonical "To" ∉ refusedNames.map canonical := by decide
  simp only [named, extended, List.filter_map, List.length_map, List.filter_filter]
  congr 1
  apply List.filter_congr
  intro header _
  by_cases same : canonical header.1 = canonical "To"
  · simp [same, isAuthorizedUriHeader_of_other (same ▸ receiver)]
  · simp [same]

/-- The headers of the URI are harmless if and only if those that pass the filter are. -/
theorem harmless_iff : arguments.Harmless ↔
    (∀ name ∈ "Max-Forwards" :: excludedNames, named name arguments.extended = []) ∧
      (named "To" arguments.extended).length = if arguments.toHeader.isSome then 0 else 1 := by
  rw [Harmless, length_named_extended]
  refine and_congr_left fun _ => ?_
  simp only [named_extended, ← passes_iff]
  constructor
  · intro harmless name among header inside allowed
    exact harmless header inside allowed name among
  · intro harmless header inside allowed name among
    exact harmless name among header inside allowed

theorem requestCreate_headers :
    arguments.requestCreate.headers.Perm (arguments.passed ++ [arguments.maxForwards] ++ arguments.extended) := by
  have start := HeaderLists.headers_addHeader_run arguments.passed []
  have bounded := (HeaderLists.headers_addHeader _ arguments.maxForwards).trans
    (List.Perm.append_right [arguments.maxForwards] start)
  have finished := (HeaderLists.headers_addHeader_run arguments.extended _).trans
    (List.Perm.append_right arguments.extended bounded)
  simp only [requestCreate, getHeaders_passed, List.isEmpty_nil, if_true]
  exact finished

theorem passed_distinct : (arguments.passed.map (canonical ·.name)).Nodup := by
  obtain ⟨uriHeaders, callId, cseq, fromHeader, toHeader, via, maxForward⟩ := arguments
  cases toHeader with
  | none =>
      show (["Via", "From", "CSeq", "Call-ID"].map canonical).Nodup
      decide
  | some value =>
      show (["Via", "From", "To", "CSeq", "Call-ID"].map canonical).Nodup
      decide

theorem named_requestCreate (name : String) : (named name arguments.requestCreate.headers).Perm
    (named name arguments.passed ++ named name [arguments.maxForwards] ++ named name arguments.extended) := by
  have parts := arguments.requestCreate_headers.filter fun header => canonical header.name = canonical name
  rw [← named_append, ← named_append]
  exact parts

/-- Max-Forwards is none of the excluded headers. -/
theorem named_maxForwards {name : String} (excluded : name ∈ excludedNames) :
    named name [arguments.maxForwards] = [] := by
  have apart : (excludedNames.all fun name => canonical "Max-Forwards" ≠ canonical name) = true := by decide
  have differs := List.all_eq_true.mp apart name excluded
  simpa [named, maxForwards] using differs

/-- The URI leaves an excluded header alone when it has none of its name. -/
theorem excluded_iff {name : String} (excluded : name ∈ excludedNames) :
    named name arguments.requestCreate.headers = named name arguments.passed ↔ named name arguments.extended = [] := by
  have parts := arguments.named_requestCreate name
  rw [named_maxForwards arguments excluded, List.append_nil] at parts
  constructor
  · intro same
    have lengths := parts.length_eq
    rw [same, List.length_append] at lengths
    exact List.eq_nil_of_length_eq_zero (by omega)
  · intro absent
    rw [absent, List.append_nil] at parts
    have few := named_length_le_one arguments.passed_distinct name
    cases own : named name arguments.passed with
    | nil =>
        rw [own] at parts
        exact parts.eq_nil
    | cons header others =>
        rw [own] at parts few
        have single : others = [] := List.eq_nil_of_length_eq_zero (by simpa using few)
        rw [single] at parts ⊢
        exact List.perm_singleton.mp parts

/-- The headers of the names that the function sets. -/
theorem passed_lengths :
    (named "To" arguments.passed).length = (if arguments.toHeader.isSome then 1 else 0) ∧
      (named "CSeq" arguments.passed).length = 1 ∧ (named "Call-ID" arguments.passed).length = 1 ∧
      (named "From" arguments.passed).length = 1 ∧ (named "Max-Forwards" arguments.passed).length = 0 := by
  cases given : arguments.toHeader with
  | none => refine ⟨?_, ?_, ?_, ?_, ?_⟩ <;> simp +decide [named, passed, given]
  | some value => refine ⟨?_, ?_, ?_, ?_, ?_⟩ <;> simp +decide [named, passed, given]

theorem length_requestCreate (name : String) : (named name arguments.requestCreate.headers).length =
    (named name arguments.passed).length + (named name [arguments.maxForwards]).length +
      (named name arguments.extended).length := by
  rw [(arguments.named_requestCreate name).length_eq, List.length_append, List.length_append]

/-- The headers of the URI leave the request alone exactly when they are harmless. -/
theorem requestCreate_guarded : Guarded arguments arguments.requestCreate ↔ arguments.Harmless := by
  obtain ⟨toLength, cseqLength, callIdLength, fromLength, maxLength⟩ := arguments.passed_lengths
  have toOther : (named "To" [arguments.maxForwards]).length = 0 := by simp +decide [named, maxForwards]
  have own : (named "Max-Forwards" [arguments.maxForwards]).length = 1 := by simp +decide [named, maxForwards]
  have lengthTo := arguments.length_requestCreate "To"
  have lengthMax := arguments.length_requestCreate "Max-Forwards"
  rw [toLength, toOther] at lengthTo
  rw [maxLength, own] at lengthMax
  rw [Guarded, harmless_iff]
  constructor
  · rintro ⟨excluded, mandatory⟩
    have receivers := mandatory "To" (by simp)
    have hops := mandatory "Max-Forwards" (by simp)
    refine ⟨List.forall_mem_cons.mpr ⟨List.eq_nil_of_length_eq_zero (by omega), ?_⟩, ?_⟩
    · intro name among
      exact (arguments.excluded_iff among).mp (excluded name among)
    · split at lengthTo
      · next given =>
          rw [if_pos given]
          omega
      · next given =>
          rw [if_neg given]
          omega
  · rintro ⟨harmless, receivers⟩
    obtain ⟨hops, excluded⟩ := List.forall_mem_cons.mp harmless
    have kept : ∀ name ∈ excludedNames, named name arguments.requestCreate.headers = named name arguments.passed :=
      fun name among => (arguments.excluded_iff among).mpr (excluded name among)
    refine ⟨kept, ?_⟩
    simp only [List.forall_mem_cons]
    refine ⟨?_, ?_, ?_, ?_, ?_, fun name among => absurd among List.not_mem_nil⟩
    · rw [lengthTo, receivers]
      split <;> rfl
    · rw [kept "CSeq" (by simp [excludedNames, refusedNames]), cseqLength]
    · rw [kept "Call-ID" (by simp [excludedNames, refusedNames]), callIdLength]
    · rw [kept "From" (by simp [excludedNames, refusedNames]), fromLength]
    · rw [lengthMax, hops]
      rfl

end RequestArguments

/-- A URI with a compact From and a Route. -/
theorem not_requestCreate_guarded :
    ¬Guarded { uriHeaders := [("f", some "<sip:eve@example.org>"), ("Route", some "<sip:example.org;lr>")]
               callId := "1", cseq := "1 INVITE", fromHeader := "<sip:alice@example.org>"
               toHeader := some "<sip:bob@example.org>", via := "SIP/2.0/UDP 192.0.2.1" }
      (RequestArguments.requestCreate
        { uriHeaders := [("f", some "<sip:eve@example.org>"), ("Route", some "<sip:example.org;lr>")]
          callId := "1", cseq := "1 INVITE", fromHeader := "<sip:alice@example.org>"
          toHeader := some "<sip:bob@example.org>", via := "SIP/2.0/UDP 192.0.2.1" }) := by
  intro guarded
  have once := guarded.2 "From" (by simp)
  exact absurd once (by decide)

end BelleSip
