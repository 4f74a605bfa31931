import BelleSip.Foundation.Scan
import BelleSip.Sdp.Description
import BelleSip.Sip.Message

/-
This file models the MIME parameters of a media description: how they are written into its formats and attributes, and
how they are built from these.
-/

namespace BelleSip.Sdp

open Foundation

/-- This is `belle_sdp_mime_parameter_t`. A null string is `none`. -/
structure MimeParameter where
  rate : Int32 := 0
  channelCount : Int32 := 0
  ptime : Int32 := -1
  maxPtime : Int32 := -1
  mediaFormat : Int32 := 0
  type : Option Text := none
  parameters : Option Text := none
deriving DecidableEq, Repr

/-- This is `%i` for an `int`. -/
def percentInt (value : Int32) : Text := decimal value.toInt

/-- The `int` that `atoi` reads. -/
def atoiText (text : Text) : Int32 := Int32.ofInt (Text.atoi (String.ofList text))

/-- What `snprintf` leaves in an array of the given size. -/
def snprintf (size : Nat) (text : Text) : Text := text.take (size - 1)

section Attributes

def Attribute.name : Attribute → Text
  | .bare name => name
  | .raw object => object.name
  | .rtcpFb object => object.name
  | .rtcpXr object => object.name

/-- The pointer goes on behind a colon. -/
def skipColon : Text → Text
  | ':' :: text => text
  | text => text

/-- This is `belle_sdp_attribute_get_value`, which never returns a null pointer. -/
def Attribute.getValue (attr : Attribute) : Text :=
  (skipColon (attr.marshal.drop (attr.name.length + 2))).dropWhile (· = ' ')

/-- This is `belle_sdp_base_description_get_attribute_value`. -/
def getAttributeValue (attributes : List Attribute) (name : Text) : Option Text :=
  (attributes.find? fun attr => attr.name = name).map Attribute.getValue

/-- This is `belle_sdp_base_description_remove_attribute`. -/
def removeAttribute (attributes : List Attribute) (name : Text) : List Attribute :=
  attributes.eraseP fun attr => attr.name = name

/-- This is `belle_sdp_base_description_set_attribute_value`, which adds an attribute. -/
def setAttributeValue (attributes : List Attribute) (name value : Text) : List Attribute :=
  attributes ++ [.raw { name, value := some value }]

def rtpmap : Text := "rtpmap".toList

def fmtp : Text := "fmtp".toList

def ptime : Text := "ptime".toList

def maxptime : Text := "maxptime".toList

/-- This is `sscanf` with the format `%i %n`: the number and the text from the position that `%n` gives. -/
def scanPayload (text : Text) : Option (Int32 × Text) :=
  (Scan.scanI text).map fun read => (Int32.ofInt read.1, read.2.dropWhile Text.isSpace)

/-- The value of an attribute behind the payload number, if it has this number and something behind it. -/
def valueWithPt (pt : Int32) (field : Text) (attr : Attribute) : Option Text :=
  if attr.name = field then
    (scanPayload attr.getValue).bind fun read => if pt = read.1 ∧ read.2 ≠ [] then some read.2 else none
  else none

/-- This is `belle_sdp_media_description_a_attr_value_get_with_pt`. -/
def aAttrValueGetWithPt (attributes : List Attribute) (pt : Int32) (field : Text) : Option Text :=
  attributes.findSome? (valueWithPt pt field)

end Attributes

section StaticPayloads

/-- This is `struct static_payload`. -/
structure StaticPayload where
  number : Int32
  channelCount : Int32
  type : Text
  rate : Int32
deriving DecidableEq, Repr

def staticPayloadList : List StaticPayload :=
  [⟨0, 1, "PCMU".toList, 8000⟩, ⟨3, 1, "GSM".toList, 8000⟩, ⟨4, 1, "G723".toList, 8000⟩,
    ⟨5, 1, "DVI4".toList, 8000⟩, ⟨6, 1, "DVI4".toList, 16000⟩, ⟨7, 1, "LPC".toList, 8000⟩,
    ⟨8, 1, "PCMA".toList, 8000⟩, ⟨9, 1, "G722".toList, 8000⟩, ⟨10, 2, "L16".toList, 44100⟩,
    ⟨11, 1, "L16".toList, 44100⟩, ⟨12, 1, "QCELP".toList, 8000⟩, ⟨13, 1, "CN".toList, 8000⟩,
    ⟨14, 1, "MPA".toList, 90000⟩, ⟨15, 1, "G728".toList, 8000⟩, ⟨16, 1, "DVI4".toList, 11025⟩,
    ⟨17, 1, "DVI4".toList, 22050⟩, ⟨18, 1, "G729".toList, 8000⟩, ⟨25, 0, "CelB".toList, 90000⟩,
    ⟨26, 0, "JPEG".toList, 90000⟩, ⟨28, 0, "nv".toList, 90000⟩, ⟨31, 0, "H261".toList, 90000⟩,
    ⟨32, 0, "MPV".toList, 90000⟩, ⟨33, 0, "MP2T".toList, 90000⟩, ⟨34, 0, "H263".toList, 90000⟩]

namespace MimeParameter

/-- The entry of the table is the one of a parameter with the given type. -/
def Matches (param : MimeParameter) (type : Text) (payload : StaticPayload) : Prop :=
  payload.number = param.mediaFormat ∧ strcasecmp (String.ofList payload.type) (String.ofList type) = true ∧
    payload.channelCount = param.channelCount ∧ payload.rate = param.rate

instance (param : MimeParameter) (type : Text) (payload : StaticPayload) :
    Decidable (param.Matches type payload) :=
  inferInstanceAs (Decidable (_ ∧ _ ∧ _ ∧ _))

/-- This is `mime_parameter_is_static` for a parameter with the given type. -/
def isStatic (param : MimeParameter) (type : Text) : Bool :=
  staticPayloadList.any fun payload => param.Matches type payload

/-- This is `mime_parameter_fill_from_static`. -/
def fillFromStatic (param : MimeParameter) (format : Int32) : MimeParameter :=
  match staticPayloadList.find? fun payload => payload.number = format with
  | some payload =>
    { param with type := some payload.type, rate := payload.rate, channelCount := payload.channelCount }
  | none => param

/-- This is `mime_parameter_fill_from_rtpmap`. -/
def fillFromRtpmap (param : MimeParameter) (rtpmap : Text) (isAudio : Bool) : MimeParameter :=
  let mime := rtpmap.takeWhile (· ≠ '/')
  match rtpmap.dropWhile (· ≠ '/') with
  | [] => { param with type := some mime }
  | _ :: behind =>
    match behind.dropWhile (· ≠ '/') with
    -- In absence of a channel count, 1 is implicit for audio streams.
    | [] =>
      { param with
        type := some mime
        rate := atoiText behind
        channelCount := if isAudio then 1 else param.channelCount }
    | _ :: chans =>
      { param with
        type := some mime
        rate := atoiText (behind.takeWhile (· ≠ '/'))
        channelCount := atoiText chans }

/-- The text of the attribute `rtpmap`. -/
def rtpmapText (param : MimeParameter) (type : Text) : Text :=
  percentInt param.mediaFormat ++ ' ' :: type ++ '/' :: percentInt param.rate ++
    if 1 < param.channelCount then '/' :: percentInt param.channelCount else []

/-- The text of the attribute `fmtp`. -/
def fmtpText (param : MimeParameter) (parameters : Text) : Text :=
  percentInt param.mediaFormat ++ ' ' :: parameters

end MimeParameter

end StaticPayloads

namespace MediaDescription

def attributes (mediaDescription : MediaDescription Attribute) : List Attribute :=
  mediaDescription.baseDescription.attributes

def withAttributes (mediaDescription : MediaDescription Attribute) (attributes : List Attribute) :
    MediaDescription Attribute :=
  { mediaDescription with baseDescription := { mediaDescription.baseDescription with attributes } }

/-- The number of an attribute that is there, which is then removed. -/
def takeNumber (attributes : List Attribute) (name : Text) : Int32 × List Attribute :=
  match getAttributeValue attributes name with
  | some value => (atoiText value, removeAttribute attributes name)
  | none => (0, attributes)

/-- The larger one of two numbers is written through an array of ten bytes, if it is positive. -/
def putNumber (attributes : List Attribute) (name : Text) (current number : Int32) : List Attribute :=
  let current := if current < number then number else current
  if 0 < current then setAttributeValue attributes name (snprintf 10 (percentInt current)) else attributes

/-- This is `belle_sdp_media_description_append_values_from_mime_parameter`. It has no result for a parameter without
a type, which the code compares and prints. -/
def appendValuesFromMimeParameter (mediaDescription : MediaDescription Attribute) (param : MimeParameter) :
    Option (MediaDescription Attribute) := do
  let type ← param.type
  let media := mediaDescription.media
  let mediaDescription := { mediaDescription with
    media := { media with mediaFormats := media.mediaFormats ++ [param.mediaFormat.toInt] } }
  let (currentPtime, attributes) := takeNumber mediaDescription.attributes ptime
  let (currentMaxPtime, attributes) := takeNumber attributes maxptime
  let attributes :=
    if param.isStatic type then attributes
    else setAttributeValue attributes rtpmap (snprintf 512 (param.rtpmapText type))
  let attributes :=
    match param.parameters with
    | some parameters => setAttributeValue attributes fmtp (snprintf 512 (param.fmtpText parameters))
    | none => attributes
  let attributes := putNumber attributes ptime currentPtime param.ptime
  let attributes := putNumber attributes maxptime currentMaxPtime param.maxPtime
  some (mediaDescription.withAttributes attributes)

/-- The parameters are appended one after the other. -/
def appendAll : List MimeParameter → MediaDescription Attribute → Option (MediaDescription Attribute)
  | [], mediaDescription => some mediaDescription
  | param :: rest, mediaDescription => (mediaDescription.appendValuesFromMimeParameter param).bind (appendAll rest)

/-- The number of an attribute, or -1. -/
def numberOf (attributes : List Attribute) (name : Text) : Int32 :=
  match getAttributeValue attributes name with
  | some value => atoiText value
  | none => -1

/-- The body of the loop of `belle_sdp_media_description_build_mime_parameters`. -/
def buildMimeParameter (mediaDescription : MediaDescription Attribute) (isAudio : Bool) (format : Int) :
    MimeParameter :=
  let attributes := mediaDescription.attributes
  let param : MimeParameter :=
    { ptime := numberOf attributes ptime
      maxPtime := numberOf attributes maxptime
      mediaFormat := Int32.ofInt format }
  let param :=
    match aAttrValueGetWithPt attributes param.mediaFormat rtpmap with
    | some rtpmap => param.fillFromRtpmap rtpmap isAudio
    | none => param.fillFromStatic param.mediaFormat
  match aAttrValueGetWithPt attributes param.mediaFormat fmtp with
  | some fmtp => { param with parameters := some fmtp }
  | none => param

def isAudio (mediaDescription : MediaDescription Attribute) : Bool :=
  strcasecmp (String.ofList mediaDescription.media.mediaType) "audio"

/-- This is `belle_sdp_media_description_build_mime_parameters`. -/
def buildMimeParameters (mediaDescription : MediaDescription Attribute) : List MimeParameter :=
  mediaDescription.media.mediaFormats.map (mediaDescription.buildMimeParameter mediaDescription.isAudio)

end MediaDescription

end BelleSip.Sdp
