import BelleSip.Foundation.Codec

/-
This file models session descriptions and the marshal functions of `belle_sdp_impl.c`. The text of an object is what its
marshal function writes into a buffer that is large enough; the strings of an object are those of its setters.
-/

namespace BelleSip.Sdp

open Foundation

abbrev Text := List Char

def crlf : Text := ['\r', '\n']

/-- This is `%i` for an `unsigned int`, which is printed as the `int` with its bits. -/
def percentI (value : UInt32) : Text := decimal value.toBitVec.toInt

structure Version where
  version : Int
deriving DecidableEq, Repr

structure Origin where
  username : Text
  sessionId : UInt32
  sessionVersion : UInt32
  networkType : Text
  addressType : Text
  address : Text
deriving DecidableEq, Repr

structure SessionName where
  value : Text
deriving DecidableEq, Repr

structure Info where
  value : Text
deriving DecidableEq, Repr

structure Uri where
  value : Text
deriving DecidableEq, Repr

structure Email where
  value : Text
deriving DecidableEq, Repr

structure Phone where
  value : Text
deriving DecidableEq, Repr

structure Connection where
  networkType : Text
  addressType : Text
  address : Text
  ttl : Int := 0
  range : Int := 0
deriving DecidableEq, Repr

structure Bandwidth where
  type : Text
  value : Int
deriving DecidableEq, Repr

structure Time where
  start : Int
  stop : Int
deriving DecidableEq, Repr

structure TimeDescription where
  time : Time
deriving DecidableEq, Repr

structure Media where
  mediaType : Text
  mediaPort : Int
  mediaFormats : List Int
  portCount : Int := 1
  protocol : Text
deriving DecidableEq, Repr

inductive RtcpFbValType where
  | ack
  | nack
  | trrInt
  | ccm
deriving DecidableEq, Repr

inductive RtcpFbValParam where
  | none
  | pli
  | sli
  | rpsi
  | app
  | fir
  | tmmbr
deriving DecidableEq, Repr

structure RtcpFbAttribute where
  name : Text := "rtcp-fb".toList
  id : Int := -1
  type : RtcpFbValType := .trrInt
  param : RtcpFbValParam := .none
  trrInt : Nat := 0
  smaxpr : Nat := 0
deriving DecidableEq, Repr

structure RtcpXrAttribute where
  name : Text := "rtcp-xr".toList
  rcvrRttMode : Option Text := none
  rcvrRttMaxSize : Int := 0
  statSummary : Bool := false
  statSummaryFlags : List Text := []
  voipMetrics : Bool := false
deriving DecidableEq, Repr

structure RawAttribute where
  name : Text
  value : Option Text
deriving DecidableEq, Repr

/-- The classes of attributes. -/
inductive Attribute where
  | bare (name : Text)
  | raw (object : RawAttribute)
  | rtcpFb (object : RtcpFbAttribute)
  | rtcpXr (object : RtcpXrAttribute)
deriving DecidableEq, Repr

/-- The attributes of a description are objects of some type. -/
structure BaseDescription (Attribute : Type) where
  info : Option Info := none
  connection : Option Connection := none
  bandwidths : List Bandwidth := []
  attributes : List Attribute := []
deriving DecidableEq, Repr

structure MediaDescription (Attribute : Type) where
  baseDescription : BaseDescription Attribute := {}
  media : Media
deriving DecidableEq, Repr

structure SessionDescription (Attribute : Type) where
  baseDescription : BaseDescription Attribute := {}
  version : Version
  emails : List Email := []
  origin : Origin
  sessionName : SessionName
  phones : List Phone := []
  times : List TimeDescription
  uri : Option Uri := none
  zoneAdjustments : Option Uri := none
  mediaDescriptions : List (MediaDescription Attribute) := []
deriving DecidableEq, Repr

/-- This is `belle_sdp_attribute_marshal`. -/
def marshalName (name : Text) : Text := 'a' :: '=' :: name

def RawAttribute.marshal (raw : RawAttribute) : Text :=
  marshalName raw.name ++
    match raw.value with
    | some value => ':' :: value
    | none => []

/-- The parameter that `belle_sdp_rtcp_fb_attribute_marshal` writes behind `ack`. -/
def RtcpFbValParam.ackText : RtcpFbValParam → Text
  | .rpsi => " rpsi".toList
  | .app => " app".toList
  | _ => []

/-- The parameter behind `nack`. -/
def RtcpFbValParam.nackText : RtcpFbValParam → Text
  | .pli => " pli".toList
  | .sli => " sli".toList
  | .rpsi => " rpsi".toList
  | .app => " app".toList
  | _ => []

/-- The parameter behind `ccm`. -/
def RtcpFbAttribute.ccmText (rtcpFb : RtcpFbAttribute) : Text :=
  match rtcpFb.param with
  | .fir => " fir".toList
  | .tmmbr =>
      " tmmbr".toList ++ if 0 < rtcpFb.smaxpr then " smaxpr=".toList ++ decimal rtcpFb.smaxpr else []
  | _ => []

def RtcpFbAttribute.valueText (rtcpFb : RtcpFbAttribute) : Text :=
  (if rtcpFb.id < 0 then "* ".toList else decimal rtcpFb.id ++ [' ']) ++
    match rtcpFb.type with
    | .ack => "ack".toList ++ rtcpFb.param.ackText
    | .nack => "nack".toList ++ rtcpFb.param.nackText
    | .trrInt => "trr-int ".toList ++ decimal rtcpFb.trrInt
    | .ccm => "ccm".toList ++ rtcpFb.ccmText

def RtcpFbAttribute.marshal (rtcpFb : RtcpFbAttribute) : Text :=
  marshalName rtcpFb.name ++ ':' :: rtcpFb.valueText

/-- The flags, with `=` before the first one and commas between them. -/
def flagsText : List Text → Text
  | [] => []
  | flag :: flags => '=' :: flag ++ flags.flatMap (',' :: ·)

/-- The formats of an attribute `rtcp-xr`, in the order in which they are written. -/
def RtcpXrAttribute.formats (rtcpXr : RtcpXrAttribute) : List Text :=
  (match rtcpXr.rcvrRttMode with
    | some mode =>
        ["rcvr-rtt=".toList ++ mode ++
          if 0 < rtcpXr.rcvrRttMaxSize then ':' :: decimal rtcpXr.rcvrRttMaxSize else []]
    | none => []) ++
  (if rtcpXr.statSummary then ["stat-summary".toList ++ flagsText rtcpXr.statSummaryFlags] else []) ++
  if rtcpXr.voipMetrics then ["voip-metrics".toList] else []

/-- The first format is written behind a colon, the others behind a space. -/
def RtcpXrAttribute.marshal (rtcpXr : RtcpXrAttribute) : Text :=
  marshalName rtcpXr.name ++
    match rtcpXr.formats with
    | [] => []
    | format :: formats => ':' :: format ++ formats.flatMap (' ' :: ·)

/-- This is `belle_sip_object_marshal` for an attribute: the marshal function of its class. -/
def Attribute.marshal : Attribute → Text
  | .bare name => marshalName name
  | .raw object => object.marshal
  | .rtcpFb object => object.marshal
  | .rtcpXr object => object.marshal

def Version.marshal (version : Version) : Text := 'v' :: '=' :: decimal version.version

def Origin.marshal (origin : Origin) : Text :=
  'o' :: '=' :: origin.username ++ ' ' :: percentI origin.sessionId ++ ' ' :: percentI origin.sessionVersion ++
    ' ' :: origin.networkType ++ ' ' :: origin.addressType ++ ' ' :: origin.address

def SessionName.marshal (sessionName : SessionName) : Text := 's' :: '=' :: sessionName.value

def Info.marshal (info : Info) : Text := 'i' :: '=' :: info.value

def Connection.marshal (connection : Connection) : Text :=
  'c' :: '=' :: connection.networkType ++ ' ' :: connection.addressType ++ ' ' :: connection.address ++
    (if 0 < connection.ttl then '/' :: decimal connection.ttl else []) ++
    if 0 < connection.range then '/' :: decimal connection.range else []

def Bandwidth.marshal (bandwidth : Bandwidth) : Text := 'b' :: '=' :: bandwidth.type ++ ':' :: decimal bandwidth.value

def Time.marshal (time : Time) : Text := decimal time.start ++ ' ' :: decimal time.stop

def TimeDescription.marshal (timeDescription : TimeDescription) : Text := timeDescription.time.marshal

def Media.marshal (media : Media) : Text :=
  'm' :: '=' :: media.mediaType ++ ' ' :: decimal media.mediaPort ++
    (if 1 < media.portCount then '/' :: decimal media.portCount else []) ++ ' ' :: media.protocol ++
    media.mediaFormats.flatMap (' ' :: decimal ·)

def BaseDescription.marshal (baseDescription : BaseDescription Attribute) : Text :=
  (match baseDescription.info with
    | some info => info.marshal ++ crlf
    | none => []) ++
  (match baseDescription.connection with
    | some connection => connection.marshal ++ crlf
    | none => []) ++
  baseDescription.bandwidths.flatMap (·.marshal ++ crlf)

def MediaDescription.marshal (mediaDescription : MediaDescription Attribute) : Text :=
  mediaDescription.media.marshal ++ crlf ++ mediaDescription.baseDescription.marshal ++
    mediaDescription.baseDescription.attributes.flatMap (·.marshal ++ crlf)

/-- The prefix of the times is written once, before the first of them. -/
def SessionDescription.marshal (sessionDescription : SessionDescription Attribute) : Text :=
  sessionDescription.version.marshal ++ crlf ++
    sessionDescription.origin.marshal ++ crlf ++
    sessionDescription.sessionName.marshal ++ crlf ++
    sessionDescription.baseDescription.marshal ++
    ['t', '='] ++ sessionDescription.times.flatMap (·.marshal ++ crlf) ++
    sessionDescription.baseDescription.attributes.flatMap (·.marshal ++ crlf) ++
    sessionDescription.mediaDescriptions.flatMap (·.marshal)

end BelleSip.Sdp
