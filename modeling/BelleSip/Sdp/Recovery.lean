import BelleSip.Sdp.Grammar

/-
This file proves which session descriptions are recovered from their marshalled texts.
-/

namespace BelleSip.Sdp

open Foundation

/-- The name and the value of an attribute are those of its text. -/
def Attribute.content : Attribute → RawAttribute
  | .bare name => { name, value := none }
  | .raw object => object
  | .rtcpFb object => { name := object.name, value := some object.valueText }
  | .rtcpXr object =>
      { name := object.name
        value := object.formats.head?.map (· ++ object.formats.tail.flatMap (' ' :: ·)) }

def BaseDescription.content (description : BaseDescription Attribute) : BaseDescription RawAttribute :=
  { info := description.info
    connection := description.connection
    bandwidths := description.bandwidths
    attributes := description.attributes.map Attribute.content }

def MediaDescription.content (description : MediaDescription Attribute) : MediaDescription RawAttribute :=
  { media := description.media, baseDescription := description.baseDescription.content }

def SessionDescription.content (description : SessionDescription Attribute) : SessionDescription RawAttribute :=
  { version := description.version
    origin := description.origin
    sessionName := description.sessionName
    uri := description.uri
    emails := description.emails
    phones := description.phones
    times := description.times
    zoneAdjustments := description.zoneAdjustments
    baseDescription := description.baseDescription.content
    mediaDescriptions := description.mediaDescriptions.map MediaDescription.content }

/-- The marshalled text is the text of the grammar for the description, with each field in its place, and it is read as
the description. -/
def Recovered (description : SessionDescription Attribute) : Prop :=
  description.marshal = Grammar.sessionDescription.text description.content ∧
    Grammar.sessionDescription.readText description.marshal = some description.content

/-- A text that is not empty and consists of some characters. -/
def Spells (allowed : Char → Bool) (text : Text) : Prop := text.all allowed = true ∧ text ≠ []

def Origin.WellFormed (origin : Origin) : Prop :=
  origin.username.all isWord = true ∧ Spells Char.isAlphanum origin.networkType ∧
    Spells Char.isAlphanum origin.addressType ∧ origin.address.all isAddress = true

/-- A time to live stands before the number of addresses, and for IPv4 only. -/
def Connection.WellFormed (connection : Connection) : Prop :=
  Spells Char.isAlphanum connection.networkType ∧ Spells Char.isAlphanum connection.addressType ∧
    connection.address.all isAddress = true ∧ 0 ≤ connection.ttl ∧ 0 ≤ connection.range ∧
    if connection.addressType = Grammar.ip6 then connection.ttl = 0 else 0 < connection.range → 0 < connection.ttl

def Bandwidth.WellFormed (bandwidth : Bandwidth) : Prop :=
  Spells Char.isAlphanum bandwidth.type ∧ 0 ≤ bandwidth.value

def TimeDescription.WellFormed (timeDescription : TimeDescription) : Prop :=
  0 ≤ timeDescription.time.start ∧ 0 ≤ timeDescription.time.stop

def Media.WellFormed (media : Media) : Prop :=
  Spells Char.isAlphanum media.mediaType ∧ 0 ≤ media.mediaPort ∧ 0 < media.portCount ∧
    media.protocol.all isWord = true ∧ media.mediaFormats ≠ [] ∧ ∀ format ∈ media.mediaFormats, 0 ≤ format

def RawAttribute.WellFormed (raw : RawAttribute) : Prop :=
  Spells isToken raw.name ∧ ∀ value ∈ raw.value, value.all isText = true

def BaseDescription.WellFormed (description : BaseDescription RawAttribute) : Prop :=
  (∀ info ∈ description.info, info.value.all isText = true) ∧
    (∀ connection ∈ description.connection, connection.WellFormed) ∧
    (∀ bandwidth ∈ description.bandwidths, bandwidth.WellFormed) ∧
    ∀ raw ∈ description.attributes, raw.WellFormed

def MediaDescription.WellFormed (description : MediaDescription RawAttribute) : Prop :=
  description.media.WellFormed ∧ description.baseDescription.WellFormed

/-- Each value is one of its line in the grammar. -/
def SessionDescription.WellFormed (description : SessionDescription RawAttribute) : Prop :=
  0 ≤ description.version.version ∧ description.origin.WellFormed ∧
    description.sessionName.value.all isText = true ∧ description.baseDescription.WellFormed ∧
    (∀ time ∈ description.times, time.WellFormed) ∧
    ∀ media ∈ description.mediaDescriptions, media.WellFormed

theorem name_fits (text : Text) : Grammar.name.Fits text ↔ Spells Char.isAlphanum text := by
  simp [Grammar.name, Spells]

theorem token_fits (text : Text) : Grammar.token.Fits text ↔ Spells isToken text := by
  simp [Grammar.token, Spells]

theorem unsigned_fits (value : UInt32) : Grammar.unsigned.Fits value :=
  ⟨Int.natCast_nonneg _, Grammar.unsignedOf_toNat value⟩

theorem origin_fits (origin : Origin) : Grammar.origin.Fits origin ↔ origin.WellFormed := by
  simp [Grammar.origin, Origin.WellFormed, name_fits, unsigned_fits]

theorem numbers_positive (connection : Connection) :
    ∀ value ∈ Grammar.numbers connection, Grammar.positive.Fits value := by
  intro value among
  simp only [Grammar.numbers, List.mem_append] at among
  simp only [Grammar.positive, Codec.filter_fits, Codec.number_fits, decide_eq_true_eq]
  rcases among with among | among
  · split at among
    · have same := List.mem_singleton.mp among
      omega
    · exact absurd among List.not_mem_nil
  · split at among
    · have same := List.mem_singleton.mp among
      omega
    · exact absurd among List.not_mem_nil

theorem connection_fits (connection : Connection) : Grammar.connection.Fits connection ↔ connection.WellFormed := by
  obtain ⟨networkType, addressType, address, ttl, range⟩ := connection
  have positives := numbers_positive ⟨networkType, addressType, address, ttl, range⟩
  simp only [Grammar.connection, Codec.via_fits, Grammar.connectionParts, Grammar.partsOf, Codec.pair_fits, name_fits,
    Codec.followed_fits, Codec.chars_fits, Grammar.connectionOf, Connection.WellFormed, and_assoc]
  simp only [Option.map_eq_some_iff, Connection.mk.injEq, true_and, Prod.exists]
  have numbers : (∃ first second, Grammar.multicast addressType
      (Grammar.numbers ⟨networkType, addressType, address, ttl, range⟩) = some (first, second) ∧ first = ttl ∧
        second = range) ↔ 0 ≤ ttl ∧ 0 ≤ range ∧ if addressType = Grammar.ip6 then ttl = 0 else 0 < range → 0 < ttl := by
    by_cases lives : 0 < ttl <;> by_cases ranges : 0 < range <;> by_cases ip6 : addressType = Grammar.ip6 <;>
      simp [Grammar.numbers, Grammar.multicast, lives, ranges, ip6] <;> omega
  rw [numbers]
  constructor
  · rintro ⟨network, type, chars, -, rest⟩
    exact ⟨network, type, chars, rest⟩
  · rintro ⟨network, type, chars, rest⟩
    exact ⟨network, type, chars, positives, rest⟩

theorem bandwidth_fits (bandwidth : Bandwidth) : Grammar.bandwidth.Fits bandwidth ↔ bandwidth.WellFormed := by
  simp [Grammar.bandwidth, Bandwidth.WellFormed, name_fits]

theorem time_fits (timeDescription : TimeDescription) :
    Grammar.time.Fits timeDescription ↔ timeDescription.WellFormed := by
  simp [Grammar.time, TimeDescription.WellFormed]

theorem media_fits (media : Media) : Grammar.media.Fits media ↔ media.WellFormed := by
  obtain ⟨mediaType, mediaPort, mediaFormats, portCount, protocol⟩ := media
  simp only [Grammar.media, Codec.via_fits, Grammar.mediaParts, Grammar.partsOfMedia, Codec.pair_fits, name_fits,
    Codec.followed_fits, Codec.chars_fits, Codec.number_fits, Grammar.mediaOf, Media.WellFormed]
  by_cases formats : mediaFormats = []
  · simp [formats]
  · by_cases several : 1 < portCount
    · have counted : 0 < portCount := by omega
      simp [formats, several, counted, Grammar.portCount, Grammar.positive, Int.le_of_lt counted]
    · have single : 1 = portCount ↔ 0 < portCount := by omega
      simp only [formats, several, if_false, Grammar.portCount]
      simp [single]
      tauto

theorem attributeLine_fits (raw : RawAttribute) : Grammar.attributeLine.Fits raw ↔ raw.WellFormed := by
  simp [Grammar.attributeLine, RawAttribute.WellFormed, token_fits, Grammar.text]

theorem mediaDescription_fits (description : MediaDescription RawAttribute) :
    Grammar.mediaDescription.Fits description ↔ description.WellFormed := by
  simp [Grammar.mediaDescription, Grammar.mediaSections, Grammar.infoLine, Grammar.connectionLine,
    Grammar.bandwidthLines, Grammar.attributeLines, Grammar.keyLine, Grammar.info, Grammar.text, media_fits,
    connection_fits, bandwidth_fits, attributeLine_fits, MediaDescription.WellFormed, BaseDescription.WellFormed]

theorem connection_marshal (connection : Connection) :
    connection.marshal = Layout.lineText ('c', Grammar.connection.write connection) := by
  simp [Connection.marshal, Layout.lineText, Grammar.connection, Grammar.connectionParts, Grammar.partsOf,
    Grammar.numbers, Grammar.name, Grammar.positive]
  by_cases lives : 0 < connection.ttl <;> by_cases ranges : 0 < connection.range <;> simp [lives, ranges]

theorem media_marshal (media : Media) : media.marshal = Layout.lineText ('m', Grammar.media.write media) := by
  simp [Media.marshal, Layout.lineText, Grammar.media, Grammar.mediaParts, Grammar.partsOfMedia, Grammar.name,
    Grammar.positive, List.flatMap_map]
  by_cases several : 1 < media.portCount <;> simp [several]

theorem attribute_marshal (object : Attribute) :
    object.marshal = Layout.lineText ('a', Grammar.attributeLine.write object.content) := by
  have named : ∀ name value, Layout.lineText ('a', Grammar.attributeLine.write ⟨name, value⟩) =
      marshalName name ++ value.elim [] (':' :: ·) := fun name value => rfl
  cases object with
  | bare name => exact (List.append_nil _).symm
  | raw object =>
      obtain ⟨name, value⟩ := object
      cases value <;> rfl
  | rtcpFb object => rfl
  | rtcpXr object =>
      simp only [Attribute.marshal, RtcpXrAttribute.marshal, Attribute.content, named]
      cases object.formats <;> rfl

theorem sessionDescription_fits (description : SessionDescription RawAttribute)
    (plain : description.uri = none ∧ description.emails = [] ∧ description.phones = [] ∧
      description.zoneAdjustments = none) :
    Grammar.sessionDescription.Fits description ↔ description.times ≠ [] ∧ description.WellFormed := by
  obtain ⟨uri, emails, phones, zone⟩ := plain
  simp [Grammar.sessionDescription, Grammar.sessionSections, Grammar.infoLine, Grammar.connectionLine,
    Grammar.bandwidthLines, Grammar.attributeLines, Grammar.keyLine, Grammar.info, Grammar.text, origin_fits,
    connection_fits, bandwidth_fits, attributeLine_fits, SessionDescription.WellFormed, BaseDescription.WellFormed,
    uri, emails, phones, zone, Grammar.versionLine, Grammar.originLine, Grammar.sessionNameLine, Grammar.uriLine,
    Grammar.emailLines, Grammar.phoneLines, Grammar.zoneAdjustmentsLine, Grammar.mediaDescriptions, Grammar.version,
    Grammar.sessionName, Grammar.timeLines, Grammar.timeDescription, time_fits, mediaDescription_fits]
  tauto

theorem percentI_small {value : UInt32} (small : value < 2147483648) : percentI value = decimal value.toNat := by
  have bound : 2 * value.toBitVec.toNat < 2 ^ 32 := by
    have below := UInt32.lt_iff_toNat_lt.mp small
    have same : value.toBitVec.toNat = value.toNat := rfl
    have limit : (2147483648 : UInt32).toNat = 2147483648 := rfl
    omega
  rw [percentI, BitVec.toInt_eq_toNat_of_lt bound]
  rfl

/-- An identifier that is too large is written with a sign. -/
theorem percentI_large {value : UInt32} (large : ¬value < 2147483648) : ∃ digits, percentI value = '-' :: digits := by
  have negative : value.toBitVec.toInt < 0 := by
    have above := UInt32.lt_iff_toNat_lt.not.mp large
    have same : value.toBitVec.toNat = value.toNat := rfl
    have limit : (2147483648 : UInt32).toNat = 2147483648 := rfl
    have bound := value.toNat_lt
    rw [BitVec.toInt_eq_toNat_cond]
    split <;> omega
  obtain ⟨number, same⟩ := Int.eq_negSucc_of_lt_zero negative
  exact ⟨_, by rw [percentI, same, decimal]⟩

theorem small_of_digits {value : UInt32} {number : Nat} {rest others : Text}
    (same : percentI value ++ rest = decimal number ++ others) : value < 2147483648 := by
  by_contra large
  obtain ⟨digits, signed⟩ := percentI_large large
  obtain ⟨first, more, digit⟩ := List.exists_cons_of_ne_nil (Nat.toDigits_ne_nil (n := number) (b := 10))
  have isDigit : first.isDigit = true :=
    Codec.isDigit_of_mem_toDigits (show first ∈ Nat.toDigits 10 number from digit ▸ List.mem_cons_self)
  rw [signed, Codec.decimal_natCast, digit] at same
  rw [← (List.cons.inj same).1] at isDigit
  exact absurd isDigit (by decide)

theorem infoLine_text (info : Option Info) :
    Grammar.infoLine.text info = info.elim [] (·.marshal ++ crlf) := by
  rw [Grammar.infoLine, Layout.text_optional]
  cases info with
  | none => rfl
  | some info => exact Layout.text_one 'i' Grammar.info _ _ info

theorem connectionLine_text (connection : Option Connection) :
    Grammar.connectionLine.text connection = connection.elim [] (·.marshal ++ crlf) := by
  rw [Grammar.connectionLine, Layout.text_optional]
  cases connection with
  | none => rfl
  | some connection =>
      rw [Option.elim_some, Option.elim_some, Layout.text_one, connection_marshal]
      rfl

theorem bandwidthLines_text (bandwidths : List Bandwidth) :
    Grammar.bandwidthLines.text bandwidths = bandwidths.flatMap (·.marshal ++ crlf) := by
  rw [Grammar.bandwidthLines, Layout.text_many]
  congr 1
  funext bandwidth
  exact Layout.text_one 'b' Grammar.bandwidth _ _ bandwidth

theorem attributeLines_text (attributes : List Attribute) :
    Grammar.attributeLines.text (attributes.map Attribute.content) = attributes.flatMap (·.marshal ++ crlf) := by
  rw [Grammar.attributeLines, Layout.text_many, List.flatMap_map]
  congr 1
  funext object
  rw [Layout.text_one, attribute_marshal]
  rfl

theorem baseDescription_marshal (description : BaseDescription Attribute) :
    description.marshal = Grammar.infoLine.text description.info ++
      (Grammar.connectionLine.text description.connection ++ Grammar.bandwidthLines.text description.bandwidths) := by
  rw [infoLine_text, connectionLine_text, bandwidthLines_text, ← List.append_assoc]
  obtain ⟨info, connection, bandwidths, attributes⟩ := description
  cases info <;> cases connection <;> rfl

theorem mediaDescription_marshal (description : MediaDescription Attribute) :
    description.marshal = Grammar.mediaDescription.text description.content := by
  simp [MediaDescription.marshal, Grammar.mediaDescription, Grammar.mediaSections, MediaDescription.content,
    BaseDescription.content, media_marshal, baseDescription_marshal, attributeLines_text, Grammar.keyLine,
    crlf, Layout.lineBreak]

/-- What a description writes behind its bandwidths and its times. -/
def closing (description : SessionDescription Attribute) : Text :=
  Grammar.attributeLines.text (description.baseDescription.attributes.map Attribute.content) ++
    Grammar.mediaDescriptions.text (description.mediaDescriptions.map MediaDescription.content)

theorem sessionDescription_marshal (description : SessionDescription Attribute) :
    description.marshal =
      Grammar.versionLine.text description.version ++ (description.origin.marshal ++ (crlf ++
        (Grammar.sessionNameLine.text description.sessionName ++
          (Grammar.infoLine.text description.baseDescription.info ++
            (Grammar.connectionLine.text description.baseDescription.connection ++
              (Grammar.bandwidthLines.text description.baseDescription.bandwidths ++
                (['t', '='] ++ (description.times.flatMap (·.marshal ++ crlf) ++ closing description)))))))) := by
  have media : description.mediaDescriptions.flatMap (·.marshal) =
      Grammar.mediaDescriptions.text (description.mediaDescriptions.map MediaDescription.content) := by
    rw [Grammar.mediaDescriptions, Layout.text_many, List.flatMap_map]
    congr 1
    funext description
    exact mediaDescription_marshal description
  have version : description.version.marshal ++ crlf = Grammar.versionLine.text description.version :=
    (Layout.text_one 'v' Grammar.version _ _ description.version).symm
  have sessionName : description.sessionName.marshal ++ crlf = Grammar.sessionNameLine.text description.sessionName :=
    (Layout.text_one 's' Grammar.sessionName _ _ description.sessionName).symm
  rw [SessionDescription.marshal, closing, media, attributeLines_text, version, baseDescription_marshal, ← sessionName]
  simp only [List.append_assoc]

theorem sessionDescription_text (description : SessionDescription Attribute) :
    Grammar.sessionDescription.text description.content =
      Grammar.versionLine.text description.version ++ (Grammar.originLine.text description.origin ++
        (Grammar.sessionNameLine.text description.sessionName ++
          (Grammar.infoLine.text description.baseDescription.info ++
            (Grammar.uriLine.text description.uri ++
              (Grammar.emailLines.text description.emails ++
                (Grammar.phoneLines.text description.phones ++
                  (Grammar.connectionLine.text description.baseDescription.connection ++
                    (Grammar.bandwidthLines.text description.baseDescription.bandwidths ++
                      (Grammar.timeDescription.many.text description.times ++
                        (Grammar.zoneAdjustmentsLine.text description.zoneAdjustments ++
                          closing description)))))))))) := by
  simp only [Grammar.sessionDescription, Grammar.sessionSections, Layout.text_imap, Layout.text_followedBy,
    Grammar.keyLine, Layout.text_skip, List.nil_append, Grammar.timeLines, Layout.text_filter]
  rfl

/-- The fields of an origin behind its identifiers. -/
def Origin.host (origin : Origin) : Text :=
  ' ' :: origin.networkType ++ ' ' :: origin.addressType ++ ' ' :: origin.address

theorem origin_marshal (origin : Origin) (rest : Text) :
    origin.marshal ++ rest = 'o' :: '=' :: (origin.username ++ ' ' :: (percentI origin.sessionId ++
      ' ' :: (percentI origin.sessionVersion ++ (origin.host ++ rest)))) := by
  simp [Origin.marshal, Origin.host]

theorem originLine_text (origin : Origin) (rest : Text) :
    Grammar.originLine.text origin ++ rest = 'o' :: '=' :: (origin.username ++ ' ' :: (decimal origin.sessionId.toNat ++
      ' ' :: (decimal origin.sessionVersion.toNat ++ (origin.host ++ (crlf ++ rest))))) := by
  simp [Grammar.originLine, Layout.lineText, Grammar.origin, Grammar.unsigned, Grammar.name, Origin.host, crlf,
    Layout.lineBreak]

/-- The identifiers of an origin are written as its grammar says when they are positive as an `int`. -/
theorem small_of_origin {origin : Origin} {rest others : Text}
    (same : origin.marshal ++ rest = Grammar.originLine.text origin ++ others) :
    origin.sessionId < 2147483648 ∧ origin.sessionVersion < 2147483648 := by
  rw [origin_marshal, originLine_text] at same
  have identifiers := (List.cons.inj (List.append_cancel_left (List.cons.inj (List.cons.inj same).2).2)).2
  have small := small_of_digits identifiers
  rw [percentI_small small] at identifiers
  exact ⟨small, small_of_digits (List.cons.inj (List.append_cancel_left identifiers)).2⟩

theorem origin_marshal_small {origin : Origin} (small : origin.sessionId < 2147483648)
    (also : origin.sessionVersion < 2147483648) (rest : Text) :
    origin.marshal ++ (crlf ++ rest) = Grammar.originLine.text origin ++ rest := by
  rw [origin_marshal, originLine_text, percentI_small small, percentI_small also]

theorem timeDescription_text (description : TimeDescription) :
    Grammar.timeDescription.text description = ['t', '='] ++ (description.marshal ++ crlf) := by
  rw [Grammar.timeDescription, Layout.text_imap, Layout.text_followedBy, Layout.text_one, Layout.text_skip,
    List.append_nil]
  rfl

/-- The grammar has a prefix for each time. -/
theorem times_length (descriptions : List TimeDescription) :
    (Grammar.timeDescription.many.text descriptions).length =
      2 * descriptions.length + (descriptions.flatMap (·.marshal ++ crlf)).length := by
  rw [Layout.text_many]
  induction descriptions with
  | nil => rfl
  | cons description descriptions ih =>
      rw [List.flatMap_cons, List.flatMap_cons, List.length_append, ih, timeDescription_text]
      simp only [List.length_append, List.length_cons, List.length_nil]
      omega

/-- The condition under which a description is recovered: it has none of the fields that are not written and one time,
its identifiers are positive as an `int`, and its values are those of their lines. -/
structure Recoverable (description : SessionDescription Attribute) : Prop where
  uri : description.uri = none
  emails : description.emails = []
  phones : description.phones = []
  zoneAdjustments : description.zoneAdjustments = none
  times : description.times.length = 1
  sessionId : description.origin.sessionId < 2147483648
  sessionVersion : description.origin.sessionVersion < 2147483648
  wellFormed : description.content.WellFormed

/-- The text of a recoverable description is the text of the grammar. -/
theorem marshal_of_recoverable {description : SessionDescription Attribute} (recoverable : Recoverable description) :
    description.marshal = Grammar.sessionDescription.text description.content := by
  obtain ⟨time, times⟩ := List.length_eq_one_iff.mp recoverable.times
  rw [sessionDescription_marshal, sessionDescription_text,
    origin_marshal_small recoverable.sessionId recoverable.sessionVersion, recoverable.uri, recoverable.emails,
    recoverable.phones, recoverable.zoneAdjustments, times, Layout.text_many, List.flatMap_singleton,
    List.flatMap_singleton, timeDescription_text]
  simp only [List.append_assoc]
  rfl

/-- A text that has all the fields is that of a description whose other fields are empty. -/
theorem plain_of_text {description : SessionDescription Attribute} (timed : description.times ≠ [])
    (same : description.marshal = Grammar.sessionDescription.text description.content) :
    (description.uri = none ∧ description.emails = [] ∧ description.phones = [] ∧
      description.zoneAdjustments = none) ∧ description.times.length = 1 ∧
      description.origin.sessionId < 2147483648 ∧ description.origin.sessionVersion < 2147483648 := by
  rw [sessionDescription_marshal, sessionDescription_text] at same
  have behindVersion := List.append_cancel_left same
  obtain ⟨small, also⟩ := small_of_origin behindVersion
  rw [origin_marshal_small small also] at behindVersion
  have behindInfo := List.append_cancel_left (List.append_cancel_left (List.append_cancel_left behindVersion))
  -- both sides have the other fields, and each time has its prefix on the right only
  have lengths := congrArg List.length behindInfo
  have positive := List.length_pos_iff.mpr timed
  simp only [List.length_append, times_length, List.length_cons, List.length_nil] at lengths
  refine ⟨⟨?_, ?_, ?_, ?_⟩, by omega, small, also⟩
  · exact Layout.eq_none_of_text (Layout.one 'u' Grammar.uri) rfl (show (Grammar.uriLine.text _).length = 0 by omega)
  · exact Layout.eq_nil_of_text (Layout.one 'e' Grammar.email) rfl rfl
      (show (Grammar.emailLines.text _).length = 0 by omega)
  · exact Layout.eq_nil_of_text (Layout.one 'p' Grammar.phone) rfl rfl
      (show (Grammar.phoneLines.text _).length = 0 by omega)
  · exact Layout.eq_none_of_text (Layout.one 'z' Grammar.uri) rfl
      (show (Grammar.zoneAdjustmentsLine.text _).length = 0 by omega)

theorem times_of_fits {description : SessionDescription RawAttribute}
    (fits : Grammar.sessionDescription.Fits description) : description.times ≠ [] := by
  simp only [Grammar.sessionDescription, Grammar.sessionSections, Layout.imap_fits, Layout.followedBy_fits,
    Grammar.timeLines, Layout.filter_fits] at fits
  simpa using fits.2.2.2.2.2.2.2.2.2.1.2

/-- A session description is recovered from its marshalled text exactly when it has no uri, e-mail, phone or zone
adjustment, one time description, identifiers that are positive as an `int`, and well formed values. -/
theorem recovered_iff (description : SessionDescription Attribute) :
    Recovered description ↔ Recoverable description := by
  constructor
  · rintro ⟨same, read⟩
    have fits := Grammar.sessionDescription.readText_fits read
    obtain ⟨plain, single, small, also⟩ := plain_of_text (times_of_fits fits) same
    obtain ⟨uri, emails, phones, zoneAdjustments⟩ := plain
    have wellFormed := ((sessionDescription_fits _ ⟨uri, emails, phones, zoneAdjustments⟩).mp fits).2
    exact ⟨uri, emails, phones, zoneAdjustments, single, small, also, wellFormed⟩
  · intro recoverable
    have same := marshal_of_recoverable recoverable
    have plain := And.intro recoverable.uri (And.intro recoverable.emails
      (And.intro recoverable.phones recoverable.zoneAdjustments))
    have timed : description.content.times ≠ [] := by
      intro none
      have single := recoverable.times
      rw [show description.times = [] from none] at single
      exact absurd single (by decide)
    have fits := (sessionDescription_fits _ plain).mpr ⟨timed, recoverable.wellFormed⟩
    exact ⟨same, by rw [same, Grammar.sessionDescription.readText_text fits]⟩

/-- A description with an audio stream. -/
def audio : SessionDescription Attribute where
  version := ⟨0⟩
  origin := ⟨"a".toList, 1, 1, "IN".toList, "IP4".toList, "h".toList⟩
  sessionName := ⟨"t".toList⟩
  times := [⟨⟨0, 0⟩⟩]
  mediaDescriptions :=
    [{ media := {
        mediaType := "audio".toList, mediaPort := 7078, mediaFormats := [0, 8], protocol := "RTP/AVP".toList } }]

/-- The e-mail of a description is lost, and a second time is not read. -/
theorem not_recovered_email_times :
    (¬Recovered { audio with emails := [⟨"a@h".toList⟩] } ∧
      Grammar.sessionDescription.readText ({ audio with emails := [⟨"a@h".toList⟩] } : SessionDescription _).marshal =
        some audio.content) ∧
    ¬Recovered { audio with times := [⟨⟨0, 0⟩⟩, ⟨⟨1, 2⟩⟩] } ∧
      Grammar.sessionDescription.readText
        ({ audio with times := [⟨⟨0, 0⟩⟩, ⟨⟨1, 2⟩⟩] } : SessionDescription _).marshal = none := by
  refine ⟨⟨?_, by decide⟩, ?_, by decide⟩
  · intro recovered
    exact absurd recovered.1 (by decide)
  · intro recovered
    exact absurd recovered.1 (by decide)

end BelleSip.Sdp
