import BelleSip.Sdp.Description

/-
This file models the header Authorization and its text.
-/

namespace BelleSip

open Sdp (Text)

/-- This is `%08x`. -/
def percent08x (value : UInt32) : Text :=
  List.replicate (8 - (Nat.toDigits 16 value.toNat).length) '0' ++ Nat.toDigits 16 value.toNat

/-- An HTTP header inherits from the SIP header, and has a URI of its own. -/
inductive AuthorizationKind where
  | sip
  | http (uri : Option Text)
deriving DecidableEq, Repr

/-- The headers Authorization and Proxy-Authorization. A URI is the text of its marshal function. -/
structure HeaderAuthorization where
  kind : AuthorizationKind := .sip
  params : List (Text × Option Text) := []
  scheme : Option Text := none
  realm : Option Text := none
  nonce : Option Text := none
  algorithm : Option Text := none
  opaqueValue : Option Text := none
  username : Option Text := none
  uri : Option Text := none
  response : Option Text := none
  cnonce : Option Text := none
  nonceCount : Int32 := 0
  qop : Option Text := none
deriving DecidableEq, Repr

/-- A parameter as it is printed. -/
structure AuthorizationField where
  name : Text
  value : Text
  quoted : Bool
  /-- The format of the URI has a blank of its own. -/
  indented : Bool := false
deriving DecidableEq, Repr

def AuthorizationField.text (field : AuthorizationField) : Text :=
  (if field.indented then [' '] else []) ++ field.name ++
    '=' :: if field.quoted then '"' :: field.value ++ ['"'] else field.value

def AuthorizationField.plain (name : String) (value : Text) : AuthorizationField :=
  { name := name.toList, value, quoted := false }

def AuthorizationField.quote (name : String) (value : Text) : AuthorizationField :=
  { name := name.toList, value, quoted := true }

/-- The variable `border` is a blank before the first field, and a comma before the others. -/
def bordered : List AuthorizationField → Text
  | [] => []
  | field :: others => ' ' :: field.text ++ others.flatMap fun other => ',' :: ' ' :: other.text

namespace HeaderAuthorization

def isHttp (header : HeaderAuthorization) : Bool := header.kind ≠ .sip

/-- This is `belle_sip_header_authorization_get_nonce_count_as_string`, with its array of nine bytes. -/
def nonceCountAsString (header : HeaderAuthorization) : Option Text :=
  if 0 < header.nonceCount then some ((percent08x header.nonceCount.toUInt32).take 8) else none

/-- The algorithm and the protection are quoted in HTTP only. -/
def special (header : HeaderAuthorization) (name : String) (value : Text) : AuthorizationField :=
  if header.isHttp then .quote name value else .plain name value

/-- The fields in the order of `belle_sip_header_authorization_marshal`. -/
def fields (header : HeaderAuthorization) : List AuthorizationField :=
  header.params.map (fun pair => { name := pair.1, value := pair.2.getD "(null)".toList, quoted := false }) ++
    (header.realm.map (.quote "realm")).toList ++
    (header.nonce.map (.quote "nonce")).toList ++
    (header.algorithm.map (header.special "algorithm")).toList ++
    (header.opaqueValue.map (.quote "opaque")).toList ++
    (header.username.map (.quote "username")).toList ++
    (header.uri.map fun uri => { AuthorizationField.quote "uri" uri with indented := true }).toList ++
    (header.response.map (.quote "response")).toList ++
    (header.cnonce.map (.quote "cnonce")).toList ++
    (header.nonceCountAsString.map (.plain "nc")).toList ++
    (header.qop.map (header.special "qop")).toList

/-- This is `belle_sip_header_authorization_marshal` behind the name of the header. -/
def baseMarshal (header : HeaderAuthorization) : Text :=
  header.scheme.elim [] (' ' :: ·) ++ bordered header.fields

/-- The URI that `belle_http_header_authorization_marshal` appends. -/
def httpUri (header : HeaderAuthorization) : Option Text :=
  match header.kind with
  | .sip => none
  | .http uri => uri

/-- An HTTP header with a SIP URI is refused. -/
def marshal (header : HeaderAuthorization) : Option Text :=
  if header.isHttp && header.uri.isSome then none
  else some (header.baseMarshal ++
    header.httpUri.elim [] fun uri => ',' :: ' ' :: (AuthorizationField.quote "uri" uri).text)

end HeaderAuthorization

end BelleSip
