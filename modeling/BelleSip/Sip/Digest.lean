import BelleSip.Sip.PrintedNumbers

/-
This file models the digest of `auth_helper.c` and a verifier that reads the text of the header only, and proves when
the verifier finds the same digest.
-/

namespace BelleSip

open Sdp (Text)

/-- This is `%02x`. -/
def percent02x (byte : UInt8) : Text := [Nat.digitChar (byte.toNat / 16), Nat.digitChar (byte.toNat % 16)]

/-- The arguments of `belle_sip_md5_append`, with the colons between them. -/
def joined (parts : List Text) : Text := List.intercalate [':'] parts

section
variable (md5 : Text → Vector UInt8 16)

def hexDigest (parts : List Text) : Text := (md5 (joined parts)).toList.flatMap percent02x

/-- This is `belle_sip_auth_helper_compute_ha2`. -/
def computeHa2 (method uri : Text) : Text := hexDigest md5 [method, uri]

/-- This is `belle_sip_auth_helper_compute_response`. -/
def computeResponse (ha1 nonce ha2 : Text) : Text := hexDigest md5 [ha1, nonce, ha2]

/-- This is `belle_sip_auth_helper_compute_response_qop_auth`. -/
def computeResponseQopAuth (ha1 nonce : Text) (nonceCount : UInt32) (cnonce qop ha2 : Text) : Text :=
  hexDigest md5 [ha1, nonce, (percent08x nonceCount).take 8, cnonce, qop, ha2]

namespace HeaderAuthorization

def digestUri (header : HeaderAuthorization) : Option Text :=
  if header.isHttp then header.httpUri else header.uri

/-- The address of the header is the source of the client nonce. -/
def defaultCnonce (address : BitVec 64) : Text :=
  (percent08x ⟨(address.setWidth 16).signExtend 32 ^^^ 89478485⟩).take 8

def withCnonce (header : HeaderAuthorization) (address : BitVec 64) : HeaderAuthorization :=
  if header.qop.isSome && header.cnonce.isNone then { header with cnonce := some (defaultCnonce address) } else header

/-- The response that is stored. -/
def computed (header : HeaderAuthorization) (ha1 nonce ha2 : Text) : Text :=
  match header.qop with
  | some qop => computeResponseQopAuth md5 ha1 nonce header.nonceCount.toUInt32 (header.cnonce.getD []) qop ha2
  | none => computeResponse md5 ha1 nonce ha2

/-- This is `belle_sip_auth_helper_fill_authorization`; nothing is returned for -1. -/
def fill (address : BitVec 64) (header : HeaderAuthorization) (method : Option Text) (ha1 : Text) :
    Option HeaderAuthorization :=
  if header.scheme.any (· ≠ "Digest".toList) then none
  else if header.qop.any (· ≠ "auth".toList) then none
  else if header.realm.isNone then none
  else do
    let nonce ← header.nonce
    let uri ← header.digestUri
    if header.qop.isSome && header.nonceCount = 0 then none
    else do
      let filled := header.withCnonce address
      let method ← method
      return { filled with response := some (filled.computed md5 ha1 nonce (computeHa2 md5 method uri)) }

end HeaderAuthorization

end

/-- The characters of a token. -/
def isTokenCharacter (character : Char) : Bool :=
  character.isAlphanum || "-.!%*_+`'~".toList.contains character

def isTokenText (text : Text) : Bool := text.all isTokenCharacter && !text.isEmpty

/-- The text between the quotes of a quoted string: an unescaped quote ends it. -/
def isQuotable : Text → Bool
  | [] => true
  | [character] => character ≠ '"' && character ≠ '\\'
  | character :: next :: rest =>
      if character = '"' then false
      else if character = '\\' then isQuotable rest
      else isQuotable (next :: rest)

def isQuotedText (text : Text) : Bool :=
  text.head? = some '"' && text.tail.getLast? = some '"' && isQuotable text.tail.dropLast

/-- The field is written as the grammar of the header says. -/
def AuthorizationField.isReadable (field : AuthorizationField) : Bool :=
  isTokenText field.name &&
    if field.quoted then isQuotable field.value else isTokenText field.value || isQuotedText field.value

/-- The value without its quotes. -/
def AuthorizationField.content (field : AuthorizationField) : Text :=
  if field.quoted then field.value
  else if isQuotedText field.value then field.value.tail.dropLast else field.value

/-- A quoted string behind its first quote, with the text that follows it. -/
def readQuoted : Text → Option (Text × Text)
  | [] => none
  | [character] => if character = '"' then some ([], []) else none
  | character :: next :: rest =>
      if character = '"' then some ([], next :: rest)
      else if character = '\\' then (readQuoted rest).map fun read => (character :: next :: read.1, read.2)
      else (readQuoted (next :: rest)).map fun read => (character :: read.1, read.2)

def readToken (text : Text) : Option (Text × Text) :=
  if text.takeWhile isTokenCharacter = [] then none
  else some (text.takeWhile isTokenCharacter, text.dropWhile isTokenCharacter)

def readValue (text : Text) : Option (Text × Text) :=
  if text.head? = some '"' then readQuoted text.tail else readToken text

def skipBlanks (text : Text) : Text := text.dropWhile (· = ' ')

/-- A parameter, with the text that follows it. -/
def readField (text : Text) : Option ((Text × Text) × Text) := do
  let (name, rest) ← readToken (skipBlanks text)
  if rest.head? = some '=' then
    let (value, rest) ← readValue rest.tail
    return ((name, value), skipBlanks rest)
  else none

/-- Parameters with commas between them, with a bound for their number. -/
def readFields : Nat → Text → Option (List (Text × Text))
  | 0, _ => none
  | bound + 1, text => do
      let (field, rest) ← readField text
      if rest = [] then return [field]
      else if rest.head? = some ',' then
        let others ← readFields bound rest.tail
        return field :: others
      else none

/-- The credentials of RFC 2617: the scheme, and the parameters. -/
def readCredentials (text : Text) : Option (List (Text × Text)) := do
  let (scheme, rest) ← readToken (skipBlanks text)
  if scheme = "Digest".toList ∧ rest.head? = some ' ' then readFields rest.length rest else none

/-- The value of the first parameter with a name, in any case. -/
def lookup (fields : List (Text × Text)) (name : String) : Option Text :=
  (fields.find? (·.1.map Char.toLower = name.toList)).map (·.2)

/-- The digest that a verifier computes from the parameters, the method, and the `ha1` of each user and realm. -/
def verifierDigest (md5 : Text → Vector UInt8 16) (accounts : Option Text → Text → Text) (fields : List (Text × Text))
    (method : Text) : Option Text := do
  let realm ← lookup fields "realm"
  let nonce ← lookup fields "nonce"
  let uri ← lookup fields "uri"
  let ha1 := accounts (lookup fields "username") realm
  let ha2 := hexDigest md5 [method, uri]
  match lookup fields "qop" with
  | none => return hexDigest md5 [ha1, nonce, ha2]
  | some qop =>
      let count ← lookup fields "nc"
      let cnonce ← lookup fields "cnonce"
      return hexDigest md5 [ha1, nonce, count, cnonce, qop, ha2]

/-- The verifier reads the text, finds the response in it and computes the same one, and the count and the client
nonce come with the protection. -/
def Verified (md5 : Text → Vector UInt8 16) (accounts : Option Text → Text → Text) (header : HeaderAuthorization)
    (method : Text) : Prop :=
  ∃ text fields, header.marshal = some text ∧ readCredentials text = some fields ∧
    lookup fields "response" = header.response ∧ verifierDigest md5 accounts fields method = header.response ∧
    (lookup fields "nc").isSome = (lookup fields "qop").isSome ∧
    (lookup fields "cnonce").isSome = (lookup fields "qop").isSome

namespace HeaderAuthorization

/-- All the fields of the text. -/
def allFields (header : HeaderAuthorization) : List AuthorizationField :=
  header.fields ++ (header.httpUri.map (.quote "uri")).toList

/-- The names that the verifier looks for. -/
def digestNames : List String := ["realm", "nonce", "uri", "username", "response", "qop", "nc", "cnonce"]

/-- The values can be read from the text, and no further parameter has one of the names of the digest. -/
def isReadable (header : HeaderAuthorization) : Bool :=
  { header with response := none }.allFields.all (·.isReadable) &&
    header.params.all fun pair => digestNames.all fun name => pair.1.map Char.toLower ≠ name.toList

/-- The scheme is set, an HTTP header has no SIP URI, and the header has a positive count with a protection, and neither
a positive count nor a client nonce without. -/
def Carries (header : HeaderAuthorization) : Prop :=
  header.scheme.isSome = true ∧ (header.isHttp = true → header.uri = none) ∧
    if header.qop.isSome then 0 < header.nonceCount else header.nonceCount ≤ 0 ∧ header.cnonce = none

end HeaderAuthorization

section Reading
variable {text value rest : Text} {field : AuthorizationField}

theorem readQuoted_quote (rest : Text) : readQuoted ('"' :: rest) = some ([], rest) := by
  cases rest with
  | nil => rfl
  | cons next others => rfl

theorem readQuoted_append (quotable : isQuotable value = true) (rest : Text) :
    readQuoted (value ++ '"' :: rest) = some (value, rest) := by
  induction value using isQuotable.induct with
  | case1 => exact readQuoted_quote rest
  | case2 character =>
      simp only [isQuotable, Bool.and_eq_true, decide_eq_true_eq] at quotable
      simp [readQuoted, quotable, readQuoted_quote]
  | case3 next others => simp [isQuotable] at quotable
  | case4 next others plain inductionHypothesis =>
      simp only [isQuotable, plain, if_true, if_false] at quotable
      simp [readQuoted, inductionHypothesis quotable]
  | case5 character next others plain literal inductionHypothesis =>
      simp only [isQuotable, plain, literal, if_false] at quotable
      have read := inductionHypothesis quotable
      rw [List.cons_append] at read
      simp [readQuoted, plain, literal, read]

theorem readToken_append (isToken : isTokenText value = true)
    (stops : ∀ character ∈ rest.head?, isTokenCharacter character = false) :
    readToken (value ++ rest) = some (value, rest) := by
  simp only [isTokenText, Bool.and_eq_true, List.all_eq_true, Bool.not_eq_true', List.isEmpty_eq_false_iff] at isToken
  obtain ⟨characters, visible⟩ := isToken
  have stop : rest.takeWhile isTokenCharacter = [] ∧ rest.dropWhile isTokenCharacter = rest := by
    cases rest with
    | nil => exact ⟨rfl, rfl⟩
    | cons first others => simp [stops first rfl]
  rw [readToken, List.takeWhile_append_of_pos characters, List.dropWhile_append_of_pos characters, stop.1, stop.2,
    List.append_nil, if_neg visible]

/-- The text of a field ends before a comma, or with the header. -/
def Ends (rest : Text) : Prop := ∀ character ∈ rest.head?, character = ','

theorem ends_comma (rest : Text) : Ends (',' :: rest) := by
  intro character first
  cases first
  rfl

theorem ends_nil : Ends [] := by
  intro character first
  cases first

theorem Ends.skipBlanks (ends : Ends rest) : skipBlanks rest = rest := by
  cases rest with
  | nil => rfl
  | cons first others =>
      cases ends first rfl
      rfl

theorem readValue_token (isToken : isTokenText value = true) (ends : Ends rest) :
    readValue (value ++ rest) = some (value, rest) := by
  have unquoted : (value ++ rest).head? ≠ some '"' := by
    simp only [isTokenText, Bool.and_eq_true, List.all_eq_true, Bool.not_eq_true', List.isEmpty_eq_false_iff] at isToken
    obtain ⟨first, others, rfl⟩ := List.exists_cons_of_ne_nil isToken.2
    intro quote
    have character := isToken.1 first List.mem_cons_self
    rw [List.cons_append, List.head?_cons, Option.some.injEq] at quote
    rw [quote] at character
    exact absurd character (by decide)
  rw [readValue, if_neg unquoted]
  apply readToken_append isToken
  intro character first
  rw [ends character first]
  decide

theorem readValue_quoted (quotable : isQuotable value = true) (rest : Text) :
    readValue ('"' :: value ++ '"' :: rest) = some (value, rest) := by
  rw [readValue, if_pos (by rfl)]
  exact readQuoted_append quotable rest

theorem quotedText_eq (quoted : isQuotedText value = true) :
    value = '"' :: value.tail.dropLast ++ ['"'] ∧ isQuotable value.tail.dropLast = true := by
  simp only [isQuotedText, Bool.and_eq_true, decide_eq_true_eq] at quoted
  obtain ⟨⟨first, last⟩, quotable⟩ := quoted
  refine ⟨?_, quotable⟩
  obtain ⟨others, rfl⟩ := List.head?_eq_some_iff.mp first
  obtain ⟨before, same⟩ := List.getLast?_eq_some_iff.mp last
  rw [List.tail_cons] at same
  simp [same]

/-- The value of a readable field is read without its quotes. -/
theorem readValue_field (readable : field.isReadable = true) (ends : Ends rest) :
    readValue ((if field.quoted then '"' :: field.value ++ ['"'] else field.value) ++ rest) =
      some (field.content, rest) := by
  simp only [AuthorizationField.isReadable, Bool.and_eq_true] at readable
  have shape := readable.2
  by_cases quoted : field.quoted = true
  · simp only [quoted, if_true] at shape
    simp only [quoted, if_true, AuthorizationField.content, List.cons_append, List.append_assoc, List.nil_append]
    exact readValue_quoted shape rest
  · simp only [quoted, Bool.false_eq_true, if_false, Bool.or_eq_true] at shape
    simp only [quoted, Bool.false_eq_true, if_false, AuthorizationField.content]
    by_cases inner : isQuotedText field.value = true
    · obtain ⟨same, quotable⟩ := quotedText_eq inner
      rw [if_pos inner]
      conv =>
        lhs
        rw [same]
      simpa using readValue_quoted quotable rest
    · rw [if_neg inner]
      exact readValue_token (shape.resolve_right inner) ends

theorem head_token (isToken : isTokenText value = true) : ∃ first others, value = first :: others ∧ first ≠ ' ' := by
  simp only [isTokenText, Bool.and_eq_true, List.all_eq_true, Bool.not_eq_true', List.isEmpty_eq_false_iff] at isToken
  obtain ⟨first, others, rfl⟩ := List.exists_cons_of_ne_nil isToken.2
  refine ⟨first, others, rfl, ?_⟩
  rintro rfl
  exact absurd (isToken.1 ' ' List.mem_cons_self) (by decide)

theorem skipBlanks_text (readable : field.isReadable = true) (rest : Text) :
    skipBlanks (' ' :: field.text ++ rest) =
      field.name ++ '=' :: ((if field.quoted then '"' :: field.value ++ ['"'] else field.value) ++ rest) := by
  simp only [AuthorizationField.isReadable, Bool.and_eq_true] at readable
  obtain ⟨first, others, same, visible⟩ := head_token readable.1
  by_cases indented : field.indented = true
  · simp [skipBlanks, AuthorizationField.text, indented, same, visible]
  · simp [skipBlanks, AuthorizationField.text, indented, same, visible]

theorem readField_text (readable : field.isReadable = true) (ends : Ends rest) :
    readField (' ' :: field.text ++ rest) = some ((field.name, field.content), rest) := by
  have isToken : isTokenText field.name = true := by
    simp only [AuthorizationField.isReadable, Bool.and_eq_true] at readable
    exact readable.1
  have name := @readToken_append field.name
    ('=' :: ((if field.quoted then '"' :: field.value ++ ['"'] else field.value) ++ rest)) isToken (by
      intro character first
      cases first
      decide)
  rw [readField, skipBlanks_text readable, name]
  simp only [Option.bind_eq_bind, Option.bind_some, List.head?_cons, if_true, List.tail_cons,
    readValue_field readable ends, ends.skipBlanks]
  rfl

theorem ends_others (others : List AuthorizationField) :
    Ends (others.flatMap fun other => ',' :: ' ' :: other.text) := by
  cases others with
  | nil => exact ends_nil
  | cons next others => exact ends_comma _

/-- The fields of a text are read one by one. -/
theorem readFields_bordered (fields : List AuthorizationField) (readable : ∀ field ∈ fields, field.isReadable = true)
    (some' : fields ≠ []) (bound : Nat) (enough : fields.length ≤ bound) :
    readFields bound (bordered fields) = some (fields.map fun field => (field.name, field.content)) := by
  induction fields generalizing bound with
  | nil => exact absurd rfl some'
  | cons field others inductionHypothesis =>
      obtain ⟨bound, rfl⟩ : ∃ smaller, bound = smaller + 1 := ⟨bound - 1, by simp at enough; omega⟩
      rw [bordered, readFields, readField_text (readable field List.mem_cons_self) (ends_others others)]
      cases others with
      | nil => rfl
      | cons next others =>
          have rest := inductionHypothesis (fun field among => readable field (List.mem_cons_of_mem _ among))
            (by simp) bound (by simpa using enough)
          show ((readFields bound (bordered (next :: others))).bind fun read => some (_ :: read)) = _
          rw [rest]
          rfl

theorem bordered_append {fields : List AuthorizationField} (begun : fields ≠ []) (last : AuthorizationField) :
    bordered fields ++ ',' :: ' ' :: last.text = bordered (fields ++ [last]) := by
  obtain ⟨first, others, rfl⟩ := List.exists_cons_of_ne_nil begun
  simp [bordered]

theorem length_bordered (fields : List AuthorizationField) : fields.length ≤ (bordered fields).length := by
  have commas : ∀ others : List AuthorizationField,
      others.length ≤ (others.flatMap fun other => ',' :: ' ' :: other.text).length := by
    intro others
    induction others with
    | nil => simp
    | cons next others inductionHypothesis =>
        simp only [List.flatMap_cons, List.length_append, List.length_cons]
        omega
  cases fields with
  | nil => simp
  | cons first others =>
      have rest := commas others
      simp only [bordered, List.length_cons, List.length_append]
      omega

/-- The fields behind the scheme are read. -/
theorem readCredentials_digest {fields : List AuthorizationField} (readable : ∀ field ∈ fields, field.isReadable = true)
    (begun : fields ≠ []) :
    readCredentials (' ' :: "Digest".toList ++ bordered fields) =
      some (fields.map fun field => (field.name, field.content)) := by
  obtain ⟨first, others, rfl⟩ := List.exists_cons_of_ne_nil begun
  have scheme := @readToken_append "Digest".toList (bordered (first :: others)) (by decide) (by
    intro character blank
    cases blank
    decide)
  have visible : skipBlanks (' ' :: "Digest".toList ++ bordered (first :: others)) =
      "Digest".toList ++ bordered (first :: others) := rfl
  rw [readCredentials, visible, scheme, Option.bind_eq_bind, Option.bind_some]
  show (if "Digest".toList = "Digest".toList ∧ (bordered (first :: others)).head? = some ' ' then _ else _) = _
  rw [if_pos ⟨rfl, rfl⟩]
  exact readFields_bordered _ readable begun _ (length_bordered _)

/-- Without the scheme, the verifier finds the name of a parameter in its place. -/
theorem readCredentials_bordered {fields : List AuthorizationField}
    (readable : ∀ field ∈ fields, field.isReadable = true) :
    readCredentials (bordered fields) = none := by
  cases fields with
  | nil => rfl
  | cons first others =>
      have isToken : isTokenText first.name = true := by
        have shape := readable first List.mem_cons_self
        simp only [AuthorizationField.isReadable, Bool.and_eq_true] at shape
        exact shape.1
      rw [readCredentials, bordered, skipBlanks_text (readable first List.mem_cons_self), readToken_append isToken]
      · simp
      · intro character equal
        cases equal
        decide

end Reading

section Lookup
variable {name : String}

/-- The parameters that the verifier reads. -/
def pairs (fields : List AuthorizationField) : List (Text × Text) :=
  fields.map fun field => (field.name, field.content)

theorem lookup_append (fields others : List AuthorizationField) (name : String) :
    lookup (pairs (fields ++ others)) name = (lookup (pairs fields) name).or (lookup (pairs others) name) := by
  rw [lookup, pairs, List.map_append, List.find?_append, Option.map_or]
  rfl

theorem lookup_optional (make : Text → AuthorizationField) (own : String)
    (named : ∀ value, (make value).name = own.toList)
    (value : Option Text) (name : String) : lookup (pairs (value.map make).toList) name =
      if own.toList.map Char.toLower = name.toList then value.map fun value => (make value).content else none := by
  cases value with
  | none => simp [lookup, pairs]
  | some value =>
      by_cases same : own.toList.map Char.toLower = name.toList
      · simp [lookup, pairs, named, same]
      · simp [lookup, pairs, named, same]

theorem lookup_quote (own : String) (value : Option Text) (name : String) :
    lookup (pairs (value.map (.quote own)).toList) name =
      if own.toList.map Char.toLower = name.toList then value else none := by
  rw [lookup_optional _ own fun _ => rfl]
  congr 1
  exact Option.map_id'

theorem lookup_indented (own : String) (value : Option Text) (name : String) :
    lookup (pairs (value.map fun value => { AuthorizationField.quote own value with indented := true }).toList) name =
      if own.toList.map Char.toLower = name.toList then value else none := by
  rw [lookup_optional _ own fun _ => rfl]
  congr 1
  exact Option.map_id'

theorem lookup_plain (own : String) (value : Option Text) (name : String) :
    lookup (pairs (value.map (.plain own)).toList) name =
      if own.toList.map Char.toLower = name.toList then
        value.map fun value => (AuthorizationField.plain own value).content
      else none :=
  lookup_optional _ own (fun _ => rfl) value name

theorem special_name (header : HeaderAuthorization) (own : String) (value : Text) :
    (header.special own value).name = own.toList := by
  rw [HeaderAuthorization.special]
  split <;> rfl

theorem lookup_special (header : HeaderAuthorization) (own : String) (value : Option Text) (name : String) :
    lookup (pairs (value.map (header.special own)).toList) name =
      if own.toList.map Char.toLower = name.toList then value.map fun value => (header.special own value).content
      else none :=
  lookup_optional _ own (special_name header own) value name

theorem lookup_params {params : List (Text × Option Text)}
    (others : ∀ pair ∈ params, pair.1.map Char.toLower ≠ name.toList) :
    lookup (pairs (params.map fun pair =>
      { name := pair.1, value := pair.2.getD "(null)".toList, quoted := false })) name = none := by
  rw [lookup, Option.map_eq_none_iff, List.find?_eq_none]
  intro pair among
  simp only [pairs, List.map_map, List.mem_map, Function.comp_apply] at among
  obtain ⟨source, from_, rfl⟩ := among
  simpa using others source from_

end Lookup

namespace HeaderAuthorization

variable {header : HeaderAuthorization}

/-- What the verifier finds under the names of the digest. -/
theorem lookup_values (apart : ∀ pair ∈ header.params, ∀ name ∈ digestNames, pair.1.map Char.toLower ≠ name.toList) :
    lookup (pairs header.allFields) "realm" = header.realm ∧
    lookup (pairs header.allFields) "nonce" = header.nonce ∧
    lookup (pairs header.allFields) "uri" = header.uri.or header.httpUri ∧
    lookup (pairs header.allFields) "username" = header.username ∧
    lookup (pairs header.allFields) "response" = header.response ∧
    lookup (pairs header.allFields) "cnonce" = header.cnonce ∧
    lookup (pairs header.allFields) "nc" =
      header.nonceCountAsString.map (fun value => (AuthorizationField.plain "nc" value).content) ∧
    lookup (pairs header.allFields) "qop" = header.qop.map (fun value => (header.special "qop" value).content) := by
  have absent : ∀ name ∈ digestNames, lookup (pairs (header.params.map fun pair =>
      { name := pair.1, value := pair.2.getD "(null)".toList, quoted := false })) name = none :=
    fun name digest => lookup_params fun pair among => apart pair among name digest
  simp only [digestNames, List.forall_mem_cons] at absent
  obtain ⟨realm, nonce, uri, username, response, qop, nc, cnonce, -⟩ := absent
  refine ⟨?_, ?_, ?_, ?_, ?_, ?_, ?_, ?_⟩ <;>
    simp +decide only [allFields, fields, lookup_append, realm, nonce, uri, username, response, qop, nc, cnonce,
      lookup_quote, lookup_indented, lookup_plain, lookup_special, if_true, if_false, Option.none_or, Option.or_none]

variable {md5 : Text → Vector UInt8 16} {accounts : Option Text → Text → Text} {address : BitVec 64}
  {filled : HeaderAuthorization} {method ha1 : Text}

/-- The header with its two new values. -/
def stored (header : HeaderAuthorization) (cnonce : Option Text) (response : Text) : HeaderAuthorization :=
  { header with cnonce, response := some response }

def digestParts (header : HeaderAuthorization) (cnonce : Option Text) (ha1 nonce ha2 : Text) : List Text :=
  match header.qop with
  | some qop => [ha1, nonce, (percent08x header.nonceCount.toUInt32).take 8, cnonce.getD [], qop, ha2]
  | none => [ha1, nonce, ha2]

theorem withCnonce_eq (header : HeaderAuthorization) (address : BitVec 64) :
    header.withCnonce address = { header with cnonce := (header.withCnonce address).cnonce } := by
  rw [withCnonce]
  split <;> rfl

theorem withCnonce_cnonce (header : HeaderAuthorization) (address : BitVec 64) :
    (header.withCnonce address).cnonce =
      if header.qop.isSome && header.cnonce.isNone then some (defaultCnonce address) else header.cnonce := by
  rw [withCnonce]
  split <;> rfl

theorem stored_withCnonce (header : HeaderAuthorization) (address : BitVec 64) (response : Text) :
    header.stored (header.withCnonce address).cnonce response =
      { header.withCnonce address with response := some response } := by
  rw [withCnonce_eq]
  rfl

theorem computed_withCnonce (header : HeaderAuthorization) (address : BitVec 64) (nonce ha2 : Text) :
    (header.withCnonce address).computed md5 ha1 nonce ha2 =
      hexDigest md5 (header.digestParts (header.withCnonce address).cnonce ha1 nonce ha2) := by
  rw [withCnonce_eq]
  unfold computed digestParts
  dsimp only
  cases header.qop with
  | none => rfl
  | some qop => rfl

/-- What a success needs, and what it stores. -/
theorem fill_cases (succeeds : header.fill md5 address (some method) ha1 = some filled) :
    ∃ realm nonce uri, header.realm = some realm ∧ header.nonce = some nonce ∧ header.digestUri = some uri ∧
      (∀ scheme ∈ header.scheme, scheme = "Digest".toList) ∧ (∀ qop ∈ header.qop, qop = "auth".toList) ∧
      filled = header.stored (header.withCnonce address).cnonce
        (hexDigest md5 (header.digestParts (header.withCnonce address).cnonce ha1 nonce
            (computeHa2 md5 method uri))) := by
  unfold fill at succeeds
  split at succeeds
  · cases succeeds
  · next scheme =>
      split at succeeds
      · cases succeeds
      · next qop =>
          split at succeeds
          · cases succeeds
          · next realm =>
              obtain ⟨nonce, isNonce, succeeds⟩ := Option.bind_eq_some_iff.mp succeeds
              obtain ⟨uri, isUri, succeeds⟩ := Option.bind_eq_some_iff.mp succeeds
              split at succeeds
              · cases succeeds
              · obtain ⟨realmText, isRealm⟩ := Option.ne_none_iff_exists'.mp (by simpa using realm)
                refine ⟨realmText, nonce, uri, isRealm, isNonce, isUri, ?_, ?_, ?_⟩
                · intro text isScheme
                  simpa [Option.mem_def.mp isScheme] using scheme
                · intro text isQop
                  simpa [Option.mem_def.mp isQop] using qop
                · rw [← computed_withCnonce, stored_withCnonce]
                  exact (Option.some.inj succeeds).symm

theorem isQuotable_plain {value : Text} (plain : ∀ character ∈ value, character ≠ '"' ∧ character ≠ '\\') :
    isQuotable value = true := by
  induction value using isQuotable.induct with
  | case1 => rfl
  | case2 character => simpa [isQuotable] using plain character List.mem_cons_self
  | case3 next others => exact absurd rfl (plain _ List.mem_cons_self).1
  | case4 next others => exact absurd rfl (plain _ List.mem_cons_self).2
  | case5 character next others quote backslash inductionHypothesis =>
      simp only [isQuotable, quote, backslash, if_false]
      exact inductionHypothesis fun other among => plain other (List.mem_cons_of_mem _ among)

theorem hexdigit_plain {character : Char} (digit : isHexdigit character = true) :
    character ≠ '"' ∧ character ≠ '\\' := by
  constructor <;>
  · rintro rfl
    exact absurd digit (by decide)

theorem isAlphanum_lower {character : Char} (above : 'a' ≤ character) (below : character ≤ 'z') :
    character.isAlphanum = true := by
  have lower : character.isLower = true :=
    Bool.and_eq_true_iff.mpr ⟨decide_eq_true above, decide_eq_true below⟩
  show (character.isUpper || character.isLower || character.isDigit) = true
  rw [lower, Bool.or_true, Bool.true_or]

theorem isAlphanum_upper {character : Char} (above : 'A' ≤ character) (below : character ≤ 'Z') :
    character.isAlphanum = true := by
  have upper : character.isUpper = true := decide_eq_true ⟨above, below⟩
  show (character.isUpper || character.isLower || character.isDigit) = true
  rw [upper, Bool.true_or, Bool.true_or]

theorem isAlphanum_digit {character : Char} (digit : character.isDigit = true) : character.isAlphanum = true := by
  show (character.isAlpha || character.isDigit) = true
  rw [digit, Bool.or_true]

theorem hexdigit_token {character : Char} (digit : isHexdigit character = true) :
    isTokenCharacter character = true := by
  have alphanum : character.isAlphanum = true := by
    simp only [isHexdigit, Bool.or_eq_true, Bool.and_eq_true, decide_eq_true_eq] at digit
    rcases digit with (⟨above, below⟩ | ⟨above, below⟩) | decimal
    · exact isAlphanum_lower above (Char.le_trans below (by decide))
    · exact isAlphanum_upper above (Char.le_trans below (by decide))
    · exact isAlphanum_digit decimal
  rw [isTokenCharacter, alphanum, Bool.true_or]

theorem hexDigest_quotable (parts : List Text) : isQuotable (hexDigest md5 parts) = true := by
  apply isQuotable_plain
  intro character among
  obtain ⟨byte, -, digit⟩ := List.mem_flatMap.mp among
  have bound := byte.toNat_lt
  simp only [percent02x, List.mem_cons, List.not_mem_nil, or_false] at digit
  apply hexdigit_plain
  rcases digit with rfl | rfl
  · exact isHexdigit_digitChar _ (by omega)
  · exact isHexdigit_digitChar _ (by omega)

theorem count_token (value : UInt32) : isTokenText ((percent08x value).take 8) = true := by
  rw [percent08x_take, isTokenText, Bool.and_eq_true, List.all_eq_true]
  refine ⟨fun character among => hexdigit_token (isHexdigit_percent08x character among), ?_⟩
  simp [percent08x_ne_nil]

theorem count_quotable (value : UInt32) : isQuotable ((percent08x value).take 8) = true := by
  rw [percent08x_take]
  exact isQuotable_plain fun character among => hexdigit_plain (isHexdigit_percent08x character among)

theorem plain_content {own : String} {value : Text} (isToken : isTokenText value = true) :
    (AuthorizationField.plain own value).content = value := by
  have unquoted : isQuotedText value = false := by
    by_contra quoted
    obtain ⟨first, others, same, -⟩ := head_token isToken
    have shape := (quotedText_eq (Bool.not_eq_false _ ▸ quoted)).1
    simp only [isTokenText, Bool.and_eq_true, List.all_eq_true] at isToken
    have character := isToken.1 '"' (by rw [shape]; simp)
    exact absurd character (by decide)
  simp [AuthorizationField.content, AuthorizationField.plain, unquoted]

theorem mem_parts {α : Type} (before response cnonce count qop uri : List α) (value : α) :
    value ∈ before ++ response ++ cnonce ++ count ++ qop ++ uri ↔
      value ∈ before ++ [] ++ [] ++ count ++ qop ++ uri ∨ value ∈ response ∨ value ∈ cnonce := by
  simp only [List.mem_append, List.not_mem_nil, or_false]
  tauto

theorem mem_allFields (header : HeaderAuthorization) (field : AuthorizationField) : field ∈ header.allFields ↔
    field ∈ { header with response := none, cnonce := none }.allFields ∨
      field ∈ (header.response.map (.quote "response")).toList ∨ field ∈ (header.cnonce.map (.quote "cnonce")).toList :=
  mem_parts _ _ _ _ _ _ field

/-- A success adds the response, and a client nonce that it makes. -/
theorem mem_stored {response : Text} {field : AuthorizationField}
    (among : field ∈ (header.stored (header.withCnonce address).cnonce response).allFields) :
    field ∈ { header with response := none }.allFields ∨ field = .quote "response" response ∨
      field = .quote "cnonce" (defaultCnonce address) := by
  rw [withCnonce_cnonce, mem_allFields] at among
  rw [mem_allFields { header with response := none }]
  rcases among with others | added | client
  · exact Or.inl (Or.inl others)
  · exact Or.inr (Or.inl (List.mem_singleton.mp added))
  · unfold stored at client
    dsimp only at client
    split at client
    · exact Or.inr (Or.inr (List.mem_singleton.mp client))
    · exact Or.inl (Or.inr (Or.inr client))

theorem stored_readable (readable : header.isReadable = true) (address : BitVec 64) (parts : List Text) :
    ∀ field ∈ (header.stored (header.withCnonce address).cnonce (hexDigest md5 parts)).allFields,
      field.isReadable = true := by
  intro field among
  rw [isReadable, Bool.and_eq_true, List.all_eq_true] at readable
  rcases mem_stored among with before | rfl | rfl
  · exact readable.1 field before
  · have quotable := @hexDigest_quotable md5 parts
    simp only [AuthorizationField.isReadable, AuthorizationField.quote, quotable, if_true, Bool.and_true]
    decide
  · have quotable := count_quotable ⟨(address.setWidth 16).signExtend 32 ^^^ 89478485⟩
    simp only [AuthorizationField.isReadable, AuthorizationField.quote, defaultCnonce, quotable, if_true, Bool.and_true]
    decide

/-- The text of a header that has a realm is the scheme and all its fields. -/
theorem marshal_bordered (realm : header.realm.isSome = true) :
    header.marshal = if header.isHttp && header.uri.isSome then none
      else some (header.scheme.elim [] (' ' :: ·) ++ bordered header.allFields) := by
  have begun : header.fields ≠ [] := by
    obtain ⟨text, isRealm⟩ := Option.isSome_iff_exists.mp realm
    simp [fields, isRealm]
  have whole : bordered header.allFields = bordered header.fields ++
      header.httpUri.elim [] fun uri => ',' :: ' ' :: (AuthorizationField.quote "uri" uri).text := by
    unfold allFields
    cases header.httpUri with
    | none => simp
    | some uri => exact (bordered_append begun _).symm
  rw [marshal, whole, baseMarshal, List.append_assoc]

/-- The verifier reads all the fields of a header that has a scheme. -/
theorem verified_iff (realm : header.realm.isSome = true) (scheme : ∀ scheme ∈ header.scheme, scheme = "Digest".toList)
    (readable : ∀ field ∈ header.allFields, field.isReadable = true) :
    Verified md5 accounts header method ↔
      (header.scheme.isSome = true ∧ (header.isHttp = true → header.uri = none)) ∧
        lookup (pairs header.allFields) "response" = header.response ∧
        verifierDigest md5 accounts (pairs header.allFields) method = header.response ∧
        (lookup (pairs header.allFields) "nc").isSome = (lookup (pairs header.allFields) "qop").isSome ∧
        (lookup (pairs header.allFields) "cnonce").isSome = (lookup (pairs header.allFields) "qop").isSome := by
  have begun : header.allFields ≠ [] := by
    obtain ⟨text, isRealm⟩ := Option.isSome_iff_exists.mp realm
    simp [allFields, fields, isRealm]
  rw [Verified, marshal_bordered realm]
  by_cases refused : header.isHttp = true ∧ header.uri.isSome = true
  · have present : header.uri ≠ none := Option.isSome_iff_ne_none.mp refused.2
    simp [refused, present]
  · have kept : (header.isHttp && header.uri.isSome) = false := by
      simpa [Bool.and_eq_false_iff] using refused
    have alone : header.isHttp = true → header.uri = none := by
      intro http
      simpa [http] using refused
    simp only [kept, Bool.false_eq_true, if_false, Option.some.injEq, exists_and_left, exists_eq_left']
    cases isScheme : header.scheme with
    | none => simp [readCredentials_bordered readable]
    | some text =>
        rw [scheme text isScheme, Option.elim_some, readCredentials_digest readable begun]
        simp only [Option.some.injEq, exists_eq_left', Option.isSome_some, true_and, pairs]
        exact (and_iff_right alone).symm

theorem digestUri_found {uri : Text} (isUri : header.digestUri = some uri)
    (alone : header.isHttp = true → header.uri = none) : header.uri.or header.httpUri = some uri := by
  unfold digestUri at isUri
  split at isUri
  · next http => rw [alone http, Option.none_or, isUri]
  · rw [isUri, Option.some_or]

theorem nonceCount_content (header : HeaderAuthorization) :
    header.nonceCountAsString.map (fun value => (AuthorizationField.plain "nc" value).content) =
      if 0 < header.nonceCount then some ((percent08x header.nonceCount.toUInt32).take 8) else none := by
  rw [nonceCountAsString]
  split
  · rw [Option.map_some, plain_content (count_token _)]
  · rfl

theorem qop_content (header : HeaderAuthorization) :
    (header.special "qop" "auth".toList).content = "auth".toList := by
  rw [special]
  split <;> rfl

/-- What the verifier finds in the text of a header that a success stores. -/
theorem stored_lookups {realm nonce uri : Text}
    (apart : ∀ pair ∈ header.params, ∀ name ∈ digestNames, pair.1.map Char.toLower ≠ name.toList)
    (isRealm : header.realm = some realm) (isNonce : header.nonce = some nonce) (isUri : header.digestUri = some uri)
    (isQop : ∀ qop ∈ header.qop, qop = "auth".toList) (alone : header.isHttp = true → header.uri = none)
    (cnonce : Option Text) (response : Text) {fields : List (Text × Text)}
    (read : fields = pairs (header.stored cnonce response).allFields) :
    lookup fields "realm" = some realm ∧ lookup fields "nonce" = some nonce ∧ lookup fields "uri" = some uri ∧
      lookup fields "username" = header.username ∧ lookup fields "response" = some response ∧
      lookup fields "cnonce" = cnonce ∧
      lookup fields "nc" =
          (if 0 < header.nonceCount then some ((percent08x header.nonceCount.toUInt32).take 8) else none) ∧
      lookup fields "qop" = header.qop := by
  obtain ⟨foundRealm, foundNonce, foundUri, foundUser, foundResponse, foundCnonce, foundCount, foundQop⟩ :=
    @lookup_values (header.stored cnonce response) apart
  rw [read]
  refine ⟨foundRealm.trans isRealm, foundNonce.trans isNonce, foundUri.trans (digestUri_found isUri alone), foundUser,
    foundResponse, foundCnonce, foundCount.trans (nonceCount_content _), foundQop.trans ?_⟩
  show header.qop.map (fun value => (header.special "qop" value).content) = header.qop
  cases protection : header.qop with
  | none => rfl
  | some qop => rw [Option.map_some, isQop qop protection, qop_content]

/-- The digest agrees, and what is left is whether the count and the client nonce are there. -/
theorem digest_iff {realm nonce uri : Text} {cnonce : Option Text}
    (apart : ∀ pair ∈ header.params, ∀ name ∈ digestNames, pair.1.map Char.toLower ≠ name.toList)
    (isRealm : header.realm = some realm) (isNonce : header.nonce = some nonce) (isUri : header.digestUri = some uri)
    (isQop : ∀ qop ∈ header.qop, qop = "auth".toList) (alone : header.isHttp = true → header.uri = none)
    (client : cnonce =
      if header.qop.isSome && header.cnonce.isNone then some (defaultCnonce address) else header.cnonce)
    {response : Text} (computes : response = hexDigest md5
      (header.digestParts cnonce (accounts header.username (header.realm.getD [])) nonce (computeHa2 md5 method uri)))
    {fields : List (Text × Text)} (read : fields = pairs (header.stored cnonce response).allFields) :
    (lookup fields "response" = some response ∧ verifierDigest md5 accounts fields method = some response ∧
      (lookup fields "nc").isSome = (lookup fields "qop").isSome ∧
      (lookup fields "cnonce").isSome = (lookup fields "qop").isSome) ↔
      if header.qop.isSome then 0 < header.nonceCount else header.nonceCount ≤ 0 ∧ header.cnonce = none := by
  obtain ⟨foundRealm, foundNonce, foundUri, foundUser, foundResponse, foundCnonce, foundCount, foundQop⟩ :=
    stored_lookups apart isRealm isNonce isUri isQop alone cnonce response read
  have digest : verifierDigest md5 accounts fields method =
      match header.qop with
      | none => some (hexDigest md5 [accounts header.username realm, nonce, hexDigest md5 [method, uri]])
      | some qop =>
          (lookup fields "nc").bind fun count => cnonce.map fun cnonce =>
            hexDigest md5 [accounts header.username realm, nonce, count, cnonce, qop, hexDigest md5 [method, uri]] := by
    simp only [verifierDigest, foundRealm, foundNonce, foundUri, foundUser, foundQop, foundCnonce, Option.bind_eq_bind,
      Option.bind_some]
    cases header.qop with
    | none => rfl
    | some qop => cases cnonce <;> rfl
  rw [foundResponse, digest, foundCount, foundQop, foundCnonce, and_iff_right rfl]
  cases protection : header.qop with
  | none =>
      have own : cnonce = header.cnonce := by simpa [protection] using client
      have same : response = hexDigest md5 [accounts header.username realm, nonce, hexDigest md5 [method, uri]] := by
        rw [computes, digestParts, protection, isRealm]
        rfl
      rw [own, same]
      simp only [Option.isSome_none, Bool.false_eq_true, if_false, true_and]
      by_cases counted : 0 < header.nonceCount
      · simp [counted, Int32.not_le.mpr counted]
      · simp [counted, Int32.not_lt.mp counted]
  | some qop =>
      obtain ⟨text, own⟩ : ∃ text, cnonce = some text := by
        rw [client, protection]
        cases header.cnonce with
        | none => exact ⟨_, rfl⟩
        | some text => exact ⟨text, rfl⟩
      have same : response = hexDigest md5 [accounts header.username realm, nonce,
          (percent08x header.nonceCount.toUInt32).take 8, text, qop, hexDigest md5 [method, uri]] := by
        rw [computes, digestParts, protection, isRealm, own]
        rfl
      rw [own, same]
      by_cases counted : 0 < header.nonceCount
      · simp [counted]
      · simp [counted]

/-- A verifier finds the digest and the fields of a readable header that `belle_sip_auth_helper_fill_authorization`
accepts when the header carries the fields that belong together. -/
theorem authorization_verified (readable : header.isReadable = true)
    (succeeds : header.fill md5 address (some method) (accounts header.username (header.realm.getD [])) = some filled) :
    Verified md5 accounts filled method ↔ header.Carries := by
  have apart : ∀ pair ∈ header.params, ∀ name ∈ digestNames, pair.1.map Char.toLower ≠ name.toList := by
    simp only [isReadable, Bool.and_eq_true, List.all_eq_true, decide_eq_true_eq] at readable
    exact readable.2
  obtain ⟨realm, nonce, uri, isRealm, isNonce, isUri, scheme, isQop, rfl⟩ := fill_cases succeeds
  have present : header.realm.isSome = true := by rw [isRealm, Option.isSome_some]
  have verified := fun parts => @verified_iff
    (header.stored (header.withCnonce address).cnonce (hexDigest md5 parts)) md5 accounts method present scheme
    (stored_readable readable address parts)
  have client := withCnonce_cnonce header address
  constructor
  · intro holds
    obtain ⟨⟨sent, alone⟩, rest⟩ := (verified _).mp holds
    exact ⟨sent, alone, (digest_iff apart isRealm isNonce isUri isQop alone client rfl rfl).mp rest⟩
  · rintro ⟨sent, alone, rest⟩
    exact (verified _).mpr
      ⟨⟨sent, alone⟩, (digest_iff apart isRealm isNonce isUri isQop alone client rfl rfl).mpr rest⟩

/-- The header that `http_channel_context_handle_authentication` fills: its count is 1 in any case. -/
def httpAnswer (realm nonce uri : Text) (qop : Option Text) (username : Text) : HeaderAuthorization where
  kind := .http (some uri)
  scheme := some "Digest".toList
  realm := some realm
  nonce := some nonce
  username := some username
  nonceCount := 1
  qop := qop

theorem authorization_verified_http :
    Verified (fun _ => Vector.replicate 16 0) (fun _ _ => [])
        ((httpAnswer "r".toList "n".toList "/".toList (some "auth".toList) "u".toList).stored
          (some (defaultCnonce 0)) (List.replicate 32 '0')) "GET".toList ↔
      (httpAnswer "r".toList "n".toList "/".toList (some "auth".toList) "u".toList).Carries :=
  @authorization_verified (httpAnswer "r".toList "n".toList "/".toList (some "auth".toList) "u".toList)
    (fun _ => Vector.replicate 16 0) (fun _ _ => []) 0 _ _ (by decide) rfl

/-- An HTTP challenge without protection is answered with a count. -/
theorem not_authorization_verified :
    ∃ filled, (httpAnswer "r".toList "n".toList "/".toList none "u".toList).fill (fun _ => Vector.replicate 16 0) 0
        (some "GET".toList) [] = some filled ∧
      ¬Verified (fun _ => Vector.replicate 16 0) (fun _ _ => []) filled "GET".toList := by
  refine ⟨(httpAnswer "r".toList "n".toList "/".toList none "u".toList).stored none (List.replicate 32 '0'), rfl, ?_⟩
  rintro ⟨text, fields, marshal, read, -, -, count, -⟩
  cases Option.some.inj marshal
  cases Option.some.inj read
  exact absurd count (by decide)

end HeaderAuthorization

end BelleSip
