import BelleSip.Foundation.Percent
import BelleSip.Foundation.Text
import BelleSip.Sip.Uri

/-
This file defines the setters of SIP URIs, the texts that the marshaller prints and the grammar that reads them.
-/

namespace BelleSip

open Foundation

def isDigitByte (byte : UInt8) : Bool := 48 ≤ byte && byte ≤ 57

def isAlphaByte (byte : UInt8) : Bool := (65 ≤ byte && byte ≤ 90) || (97 ≤ byte && byte ≤ 122)

def isAlphanum (byte : UInt8) : Bool := isAlphaByte byte || isDigitByte byte

/-- The characters `-_.!~*'()`. -/
def isMark (byte : UInt8) : Bool := byte ∈ [45, 95, 46, 33, 126, 42, 39, 40, 41]

def isUnreserved (byte : UInt8) : Bool := isAlphanum byte || isMark byte

/-- This is `get_sip_uri_username_noescapes`, which adds the characters `&=+$,;?/`. -/
def usernameNoescapes (byte : UInt8) : Bool := isUnreserved byte || byte ∈ [38, 61, 43, 36, 44, 59, 63, 47]

/-- This is `get_sip_uri_userpasswd_noescapes`, which adds the characters `&=+$,`. -/
def userpasswdNoescapes (byte : UInt8) : Bool := isUnreserved byte || byte ∈ [38, 61, 43, 36, 44]

/-- This is `get_sip_uri_parameter_noescapes`, which adds the characters of `[]/:&+$` and of a token: the percent sign
and the back quote are among them. -/
def parameterNoescapes (byte : UInt8) : Bool := isUnreserved byte || byte ∈ [91, 93, 47, 58, 38, 43, 36, 37, 96]

/-- This is `get_sip_uri_header_noescapes`, which adds the characters `[]/?:+$`. -/
def headerNoescapes (byte : UInt8) : Bool := isUnreserved byte || byte ∈ [91, 93, 47, 63, 58, 43, 36]

/-- This is `belle_sip_to_unescaped_string`, which skips the bytes that a character takes. Where the character is a
variable without a value, 0 stands for it. -/
def unescapeFrom : Nat → CString → CString
  | _, [] => []
  | skip + 1, _ :: rest => unescapeFrom skip rest
  | 0, byte :: rest =>
      (getChar (byte :: rest) 3).1.getD 0 :: unescapeFrom ((getChar (byte :: rest) 3).2 - 1) rest

/-- The C string ends at its first terminator. -/
def toUnescapedString (text : CString) : CString := (unescapeFrom 0 text).takeWhile (· ≠ 0)

/-- This is `belle_sip_parameters_set_parameter` on a list of pairs. -/
def setPair (pairs : List ParamPair) (name : CString) (value : Option CString) : List ParamPair :=
  pairs.eraseP (fun pair => pair.name = name) ++ [{ name := name, value := value }]

namespace SipUri

def setParameter (uri : SipUri) (name : CString) (value : Option CString) : SipUri :=
  { uri with params := setPair uri.params name value }

def setHeader (uri : SipUri) (name : CString) (value : Option CString) : SipUri :=
  { uri with headerList := setPair uri.headerList name value }

/-- The URIs that the setters can build; the bytes of a C string are not 0, and a port is an `int`. -/
inductive Built : SipUri → Prop where
  | new : Built {}
  | setSecure {uri : SipUri} (built : Built uri) (secure : Bool) : Built { uri with secure := secure }
  | setUser {uri : SipUri} (built : Built uri) (user : Option CString) (terminated : ∀ text ∈ user, 0 ∉ text) :
      Built { uri with user := user }
  | setUserPassword {uri : SipUri} (built : Built uri) (userPassword : Option CString)
      (terminated : ∀ text ∈ userPassword, 0 ∉ text) : Built { uri with userPassword := userPassword }
  | setHost {uri : SipUri} (built : Built uri) (host : Option CString) (terminated : ∀ text ∈ host, 0 ∉ text) :
      Built { uri with host := host }
  | setPort {uri : SipUri} (built : Built uri) (port : Int) (int : -2147483648 ≤ port ∧ port < 2147483648) :
      Built { uri with port := port }
  | setParameter {uri : SipUri} (built : Built uri) (name : CString) (value : Option CString)
      (terminatedName : 0 ∉ name)
      (terminatedValue : ∀ text ∈ value, 0 ∉ text) : Built (uri.setParameter name value)
  | removeParameter {uri : SipUri} (built : Built uri) (name : CString) :
      Built { uri with params := uri.params.eraseP fun pair => pair.name = name }
  | cleanParameters {uri : SipUri} (built : Built uri) : Built { uri with params := [] }
  | setHeader {uri : SipUri} (built : Built uri) (name : CString) (value : Option CString) (terminatedName : 0 ∉ name)
      (terminatedValue : ∀ text ∈ value, 0 ∉ text) : Built (uri.setHeader name value)
  | removeHeader {uri : SipUri} (built : Built uri) (name : CString) :
      Built { uri with headerList := uri.headerList.eraseP fun pair => pair.name = name }
  | headersClean {uri : SipUri} (built : Built uri) : Built { uri with headerList := [] }

end SipUri

/-! The marshaller. `Percent.encode` is `belle_sip_escape` in a buffer that is large enough. -/

/-- The bytes of ASCII characters. -/
def asciiBytes (text : String) : CString := text.toList.map fun character => character.toNat.toUInt8

/-- This is `encode_params` and `encode_headers`. -/
def encodePair (noescapes : UInt8 → Bool) (pair : ParamPair) : ParamPair :=
  { name := Percent.encode noescapes pair.name, value := pair.value.map (Percent.encode noescapes) }

/-- This is `belle_sip_parameters_marshal`. -/
def parametersMarshal (params : List ParamPair) : CString :=
  params.flatMap fun pair => 59 :: pair.name ++
    match pair.value with
    | some value => 61 :: value
    | none => []

def headerText (pair : ParamPair) : CString := pair.name ++ 61 :: pair.value.getD []

/-- The loop of `belle_sip_uri_marshal` over the encoded headers. -/
def headersMarshal : List ParamPair → CString
  | [] => []
  | first :: others => 63 :: headerText first ++ others.flatMap fun pair => 38 :: headerText pair

/-- The part of `belle_sip_uri_marshal` that prints the user and its password. -/
def userinfoMarshal (user userPassword : Option CString) : CString :=
  match user with
  | some (first :: rest) =>
      Percent.encode usernameNoescapes (first :: rest) ++
        (match userPassword with
        | some password => 58 :: Percent.encode userpasswdNoescapes password
        | none => []) ++ [64]
  | _ => []

/-- The part of `belle_sip_uri_marshal` that prints the host. -/
def hostMarshal (host : CString) : CString := if 58 ∈ host then 91 :: host ++ [93] else host

/-- The part of `belle_sip_uri_marshal` that prints the port. -/
def portMarshal (port : Int) : CString := if port ≠ 0 then 58 :: asciiBytes (toString port) else []

/-- This is `belle_sip_uri_marshal` into a buffer that is large enough. -/
def uriMarshal (uri : SipUri) : CString :=
  (if uri.secure then [115, 105, 112, 115, 58] else [115, 105, 112, 58]) ++
    userinfoMarshal uri.user uri.userPassword ++
    (match uri.host with
    | some host => hostMarshal host
    | none => []) ++
    portMarshal uri.port ++
    parametersMarshal (uri.params.map (encodePair parameterNoescapes)) ++
    headersMarshal (uri.headerList.map (encodePair headerNoescapes))

/-! The grammar, rule by rule. A rule returns what it has read and the rest of the text. -/

/-- The characters of a `token`. -/
def isTokenByte (byte : UInt8) : Bool := isUnreserved byte || byte ∈ [37, 43, 96]

/-- The rule `sip_schema`, whose macro `IS_TOKEN` looks at the first characters only. -/
def readSipSchema (text : CString) : Option (Bool × CString) :=
  let token := text.takeWhile isTokenByte
  if !(sameName (text.take 3) [115, 105, 112]) || token = [] then none
  else
    match text.dropWhile isTokenByte with
    | 58 :: rest => some (sameName (text.take 4) [115, 105, 112, 115], rest)
    | _ => none

/-- The rule `user`, with the characters of `user_unreserved`. -/
def isUserByte (byte : UInt8) : Bool := isUnreserved byte || byte ∈ [38, 61, 43, 36, 44, 59, 63, 47]

/-- The rule `password`. -/
def isPasswordByte (byte : UInt8) : Bool := isUnreserved byte || byte ∈ [38, 61, 43, 36, 44]

/-- The rule `paramchar`, with the characters of `param_unreserved`. -/
def isParamchar (byte : UInt8) : Bool := isUnreserved byte || byte ∈ [91, 93, 47, 58, 38, 43, 36, 46]

/-- The rule `hname`, with the characters of `hnv_unreserved`. -/
def isHeaderByte (byte : UInt8) : Bool := isUnreserved byte || byte ∈ [91, 93, 47, 63, 58, 43, 36]

/-- One or more characters. -/
def readRun1 (allowed : UInt8 → Bool) (text : CString) : Option (CString × CString) :=
  (Percent.readRun allowed text).filter fun run => run.1 ≠ []

/-- The rule `userinfo`. -/
def readUserinfo (text : CString) : Option ((CString × Option CString) × CString) := do
  let user ← readRun1 isUserByte text
  match user.2 with
  | 64 :: rest => return ((toUnescapedString user.1, none), rest)
  | 58 :: rest =>
      let password ← Percent.readRun isPasswordByte rest
      match password.2 with
      | 64 :: rest => return ((toUnescapedString user.1, some (toUnescapedString password.1)), rest)
      | _ => none
  | _ => none

/-- The rule `domainlabel`. -/
def isDomainlabel (label : CString) : Bool :=
  label.head?.any isAlphanum && label.getLast?.any isAlphanum && label.all fun byte => isAlphanum byte || byte = 45

/-- The characters of a `toplabel` behind the first one. -/
def isToplabelRest : CString → Bool
  | [] => true
  | [byte] => isAlphanum byte
  | dash :: byte :: rest =>
      if dash = 45 then isAlphanum byte && isToplabelRest rest else isAlphanum dash && isToplabelRest (byte :: rest)

/-- The rule `toplabel`. -/
def isToplabel : CString → Bool
  | [] => false
  | first :: rest => isAlphaByte first && isToplabelRest rest

/-- The rule `hostname`, which may end with a dot. -/
def isHostname (text : CString) : Bool :=
  match (text.splitOn 46).reverse with
  | [] :: top :: labels => isToplabel top && labels.all isDomainlabel
  | top :: labels => isToplabel top && labels.all isDomainlabel
  | [] => false

/-- The rule `three_digit`. -/
def isThreeDigit (text : CString) : Bool := 0 < text.length && text.length ≤ 3 && text.all isDigitByte

/-- The rule `ipv4address`. -/
def isIpv4address (text : CString) : Bool :=
  (text.splitOn 46).length = 4 && (text.splitOn 46).all isThreeDigit

/-- The rule `hexseq`. -/
def isHexseq (text : CString) : Bool := (text.splitOn 58).all fun hex4 => hex4 ≠ [] && hex4.all Percent.isHexChar

/-- The rule `hexpart`. -/
def isHexpart (text : CString) : Bool :=
  isHexseq text || (List.range text.length).any fun position =>
    (text.drop position).take 2 = [58, 58] && (position = 0 || isHexseq (text.take position)) &&
      (text.drop (position + 2) = [] || isHexseq (text.drop (position + 2)))

/-- The rule `ipv6address`. -/
def isIpv6address (text : CString) : Bool :=
  isHexpart text || (List.range text.length).any fun position =>
    isHexpart (text.take position) && (text.drop position).head? = some 58 &&
      isIpv4address (text.drop (position + 1))

/-- The characters of host names and addresses without brackets. -/
def isHostByte (byte : UInt8) : Bool := isAlphanum byte || byte ∈ [45, 46]

/-- The rule `host`. -/
def readHost (text : CString) : Option (CString × CString) :=
  match text with
  | 91 :: rest =>
      match rest.dropWhile (· ≠ 93) with
      | 93 :: behind => if isIpv6address (rest.takeWhile (· ≠ 93)) then some (rest.takeWhile (· ≠ 93), behind) else none
      | _ => none
  | _ =>
      let host := text.takeWhile isHostByte
      if isHostname host || isIpv4address host then some (host, text.dropWhile isHostByte) else none

/-- This is `atoi` on the digits of the rule `port`. -/
def atoiBytes (text : CString) : Int := Text.atoi (String.ofList (text.map fun byte => Char.ofNat byte.toNat))

/-- The rule `hostport`. -/
def readHostport (text : CString) : Option ((CString × Int) × CString) := do
  let host ← readHost text
  match host.2 with
  | 58 :: rest =>
      if rest.takeWhile isDigitByte = [] then none
      else return ((host.1, atoiBytes (rest.takeWhile isDigitByte)), rest.dropWhile isDigitByte)
  | rest => return ((host.1, 0), rest)

/-- The rule `lws`, where it may be absent. -/
def skipLws (text : CString) : CString :=
  match text.dropWhile (· = 32) with
  | 13 :: 10 :: 32 :: rest => rest.dropWhile (· = 32)
  | rest => rest

/-- The rule `other_param`. -/
def readOtherParam (text : CString) : Option ((CString × Option CString) × CString) := do
  let name ← readRun1 isParamchar text
  match name.2 with
  | 61 :: rest =>
      let value ← readRun1 isParamchar rest
      return ((toUnescapedString name.1, some (toUnescapedString value.1)), value.2)
  | rest => return ((toUnescapedString name.1, none), rest)

/-- A parameter follows a semicolon, which may also stand alone. -/
def beginsParam (text : CString) : Bool := text.head?.any fun byte => isParamchar byte || byte = 37

/-- The loop of the rule `uri_parameters`. -/
def readUriParameters : Nat → SipUri → CString → Option (SipUri × CString)
  | 0, uri, text => some (uri, text)
  | rounds + 1, uri, text =>
      match skipLws text with
      | 59 :: rest =>
          if beginsParam (skipLws rest) then do
            let param ← readOtherParam (skipLws rest)
            readUriParameters rounds (uri.setParameter param.1.1 param.1.2) param.2
          else readUriParameters rounds uri rest
      | _ => some (uri, text)

/-- The rule `uri_header`. -/
def readUriHeader (text : CString) : Option ((CString × Option CString) × CString) := do
  let name ← readRun1 isHeaderByte text
  match name.2 with
  | 61 :: rest =>
      let value ← Percent.readRun isHeaderByte rest
      return ((toUnescapedString name.1, if value.1 = [] then none else some (toUnescapedString value.1)), value.2)
  | _ => none

/-- The loop of the rule `headers`. -/
def readHeaders : Nat → SipUri → CString → Option (SipUri × CString)
  | 0, uri, text => some (uri, text)
  | rounds + 1, uri, text => do
      let header ← readUriHeader text
      match header.2 with
      | 38 :: rest => readHeaders rounds (uri.setHeader header.1.1 header.1.2) rest
      | rest => return (uri.setHeader header.1.1 header.1.2, rest)

/-- The choice of the rule `uri` between a user with a host and a host alone. -/
def readOptionalUserinfo (text : CString) : Option (CString × Option CString) × CString :=
  match readUserinfo text with
  | some userinfo => (some userinfo.1, userinfo.2)
  | none => (none, text)

/-- The part of the rule `uri` behind the host and the port. -/
def readComponents (uri : SipUri) (text : CString) : Option SipUri := do
  let params ← readUriParameters (text.length + 1) uri text
  match params.2 with
  | 63 :: rest => (readHeaders (rest.length + 1) params.1 rest).map Prod.fst
  | _ => return params.1

/-- The rule `uri`. The text may go on behind the URI. -/
def uriParse (text : CString) : Option SipUri := do
  let schema ← readSipSchema text
  let userinfo := readOptionalUserinfo schema.2
  let hostport ← readHostport userinfo.2
  readComponents {
    secure := schema.1
    user := userinfo.1.map Prod.fst
    userPassword := userinfo.1.bind Prod.snd
    host := some hostport.1.1
    port := hostport.1.2 } hostport.2

end BelleSip
