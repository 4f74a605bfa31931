import BelleSip.Foundation.Layout
import BelleSip.Sdp.Description

/-
This file defines the texts of session descriptions by the grammar that `belle_sdp_session_description_marshal` quotes,
with the fields of `belle_sdp.g`.
-/

namespace BelleSip.Sdp

open Foundation

def isText (character : Char) : Bool := character ≠ '\r' && character ≠ '\n'

def isWord (character : Char) : Bool := isText character && character ≠ ' '

def isAddress (character : Char) : Bool :=
  character.isAlphanum || character == '.' || character == ':' || character == '-'

def isToken (character : Char) : Bool :=
  character.isAlphanum || ['!', '#', '$', '&', '%', '\'', '*', '+', '-', '.'].contains character

namespace Grammar

/-- The letters and digits of a name. -/
def name : Codec Text := (Codec.chars Char.isAlphanum).filter (!·.isEmpty)

def token : Codec Text := (Codec.chars isToken).filter (!·.isEmpty)

def text : Codec Text := Codec.chars isText

def positive : Codec Int := Codec.number.filter (0 < ·)

def unsignedOf (number : Int) : Option UInt32 :=
  if number < 4294967296 then some (UInt32.ofNat number.toNat) else none

theorem unsignedOf_toNat (value : UInt32) : unsignedOf value.toNat = some value := by
  have bound := value.toNat_lt
  rw [unsignedOf, if_pos (by omega), Int.toNat_natCast, UInt32.ofNat_toNat]

/-- The identifiers of an origin. -/
def unsigned : Codec UInt32 :=
  Codec.number.via (fun value => (value.toNat : Int)) unsignedOf fun _ value _ _ =>
    ⟨Int.natCast_nonneg _, unsignedOf_toNat value⟩

def version : Codec Version := Codec.number.imap Version.version Version.mk (fun _ => rfl) fun _ => rfl

def origin : Codec Origin :=
  (Codec.pair ' ' (Codec.chars isWord)
    (Codec.pair ' ' unsigned
      (Codec.pair ' ' unsigned (Codec.pair ' ' name (Codec.pair ' ' name (Codec.chars isAddress)))))).imap
    (fun origin => (origin.username, origin.sessionId, origin.sessionVersion, origin.networkType,
      origin.addressType, origin.address))
    (fun values => ⟨values.1, values.2.1, values.2.2.1, values.2.2.2.1, values.2.2.2.2.1, values.2.2.2.2.2⟩)
    (fun _ => rfl) fun _ => rfl

def sessionName : Codec SessionName := text.imap SessionName.value SessionName.mk (fun _ => rfl) fun _ => rfl

def info : Codec Info := text.imap Info.value Info.mk (fun _ => rfl) fun _ => rfl

def uri : Codec Uri := text.imap Uri.value Uri.mk (fun _ => rfl) fun _ => rfl

def email : Codec Email := text.imap Email.value Email.mk (fun _ => rfl) fun _ => rfl

def phone : Codec Phone := text.imap Phone.value Phone.mk (fun _ => rfl) fun _ => rfl

def ip6 : Text := ['I', 'P', '6']

/-- The numbers behind a multicast address: a time to live for IPv4 only, and the number of addresses. -/
def multicast (addressType : Text) : List Int → Option (Int × Int)
  | [] => some (0, 0)
  | [number] => if addressType = ip6 then some (0, number) else some (number, 0)
  | [ttl, range] => if addressType = ip6 then none else some (ttl, range)
  | _ => none

def numbers (connection : Connection) : List Int :=
  (if 0 < connection.ttl then [connection.ttl] else []) ++ if 0 < connection.range then [connection.range] else []

def connectionOf (values : Text × Text × Text × List Int) : Option Connection :=
  (multicast values.2.1 values.2.2.2).map fun found => ⟨values.1, values.2.1, values.2.2.1, found.1, found.2⟩

def connectionParts : Codec (Text × Text × Text × List Int) :=
  Codec.pair ' ' name (Codec.pair ' ' name (Codec.followed '/' (Codec.chars isAddress) positive))

def partsOf (connection : Connection) : Text × Text × Text × List Int :=
  (connection.networkType, connection.addressType, connection.address, numbers connection)

/-- The numbers of a connection that is read are its positive numbers. -/
theorem numbers_multicast {values : List Int} (positives : ∀ value ∈ values, 0 < value) {networkType addressType
    address : Text} {ttl range : Int} (found : multicast addressType values = some (ttl, range)) :
    numbers ⟨networkType, addressType, address, ttl, range⟩ = values := by
  rw [multicast.eq_def] at found
  split at found
  · obtain ⟨rfl, rfl⟩ := Prod.mk.inj (Option.some.inj found)
    rfl
  · next number =>
      have positive := positives number List.mem_cons_self
      split at found
      · obtain ⟨rfl, rfl⟩ := Prod.mk.inj (Option.some.inj found)
        simp [numbers, positive]
      · obtain ⟨rfl, rfl⟩ := Prod.mk.inj (Option.some.inj found)
        simp [numbers, positive]
  · next first second =>
      have positive := positives first List.mem_cons_self
      have also := positives second (List.mem_cons_of_mem _ List.mem_cons_self)
      split at found
      · cases found
      · obtain ⟨rfl, rfl⟩ := Prod.mk.inj (Option.some.inj found)
        simp [numbers, positive, also]
  · cases found

theorem connection_law (values : Text × Text × Text × List Int) (connection : Connection)
    (fits : connectionParts.Fits values) (found : connectionOf values = some connection) :
    connectionParts.Fits (partsOf connection) ∧ connectionOf (partsOf connection) = some connection := by
  obtain ⟨networkType, addressType, address, values⟩ := values
  obtain ⟨⟨ttl, range⟩, multicast, rfl⟩ := Option.map_eq_some_iff.mp found
  have positives : ∀ value ∈ values, 0 < value := fun value among =>
    of_decide_eq_true (fits.2.2.2 value among).2
  have same : partsOf ⟨networkType, addressType, address, ttl, range⟩ =
      (networkType, addressType, address, values) := by
    rw [partsOf, numbers_multicast positives multicast]
  exact ⟨same ▸ fits, same ▸ found⟩

def connection : Codec Connection := connectionParts.via partsOf connectionOf connection_law

def bandwidth : Codec Bandwidth :=
  (Codec.pair ':' name Codec.number).imap (fun bandwidth => (bandwidth.type, bandwidth.value))
    (fun values => ⟨values.1, values.2⟩) (fun _ => rfl) fun _ => rfl

def time : Codec TimeDescription :=
  (Codec.pair ' ' Codec.number Codec.number).imap
    (fun timeDescription => (timeDescription.time.start, timeDescription.time.stop))
    (fun values => ⟨values.1, values.2⟩) (fun _ => rfl) fun _ => rfl

abbrev MediaParts := Text × (Int × List Int) × Text × List Int

def mediaParts : Codec MediaParts :=
  Codec.pair ' ' name
    (Codec.pair ' ' (Codec.followed '/' Codec.number positive) (Codec.followed ' ' (Codec.chars isWord) Codec.number))

def partsOfMedia (media : Media) : MediaParts :=
  (media.mediaType, (media.mediaPort, if 1 < media.portCount then [media.portCount] else []), media.protocol,
    media.mediaFormats)

def portCount : List Int → Option Int
  | [] => some 1
  | [count] => some count
  | _ => none

/-- A media line has a format. -/
def mediaOf (values : MediaParts) : Option Media :=
  if values.2.2.2 = [] then none
  else (portCount values.2.1.2).map fun count => ⟨values.1, values.2.1.1, values.2.2.2, count, values.2.2.1⟩

theorem media_law (values : MediaParts) (media : Media) (fits : mediaParts.Fits values)
    (found : mediaOf values = some media) :
    mediaParts.Fits (partsOfMedia media) ∧ mediaOf (partsOfMedia media) = some media := by
  obtain ⟨mediaType, ⟨port, counts⟩, protocol, formats⟩ := values
  rw [mediaOf] at found
  split at found
  · cases found
  · next some =>
      obtain ⟨count, counted, rfl⟩ := Option.map_eq_some_iff.mp found
      have positive : 0 < count := by
        rw [portCount.eq_def] at counted
        split at counted
        · cases counted
          decide
        · next same =>
            rw [← Option.some.inj counted]
            dsimp only at same
            exact of_decide_eq_true (fits.2.1.2 _ (same ▸ List.mem_cons_self)).2
        · cases counted
      refine ⟨⟨fits.1, ⟨fits.2.1.1, ?_⟩, fits.2.2⟩, ?_⟩
      · intro value among
        simp only [partsOfMedia] at among
        split at among
        · rw [List.mem_singleton.mp among]
          exact ⟨Int.le_of_lt positive, decide_eq_true positive⟩
        · exact absurd among List.not_mem_nil
      · simp only [mediaOf, partsOfMedia]
        rw [if_neg some]
        split
        · rfl
        · have one : count = 1 := by omega
          rw [one]
          rfl

def media : Codec Media := mediaParts.via partsOfMedia mediaOf media_law

def attributeLine : Codec RawAttribute :=
  (Codec.maybe ':' token text).imap (fun raw => (raw.name, raw.value)) (fun values => ⟨values.1, values.2⟩)
    (fun _ => rfl) fun _ => rfl

def versionLine : Layout Version := Layout.one 'v' version

def originLine : Layout Origin := Layout.one 'o' origin

def sessionNameLine : Layout SessionName := Layout.one 's' sessionName

def infoLine : Layout (Option Info) := (Layout.one 'i' info).optional

def uriLine : Layout (Option Uri) := (Layout.one 'u' uri).optional

def emailLines : Layout (List Email) := (Layout.one 'e' email).many

def phoneLines : Layout (List Phone) := (Layout.one 'p' phone).many

def connectionLine : Layout (Option Connection) := (Layout.one 'c' connection).optional

def bandwidthLines : Layout (List Bandwidth) := (Layout.one 'b' bandwidth).many

def attributeLines : Layout (List RawAttribute) := (Layout.one 'a' attributeLine).many

/-- A key is no part of a description. -/
def keyLine : Layout Unit := Layout.skip 'k'

abbrev MediaSections := Media × Option Info × Option Connection × List Bandwidth × Unit × List RawAttribute

def mediaSections : Layout MediaSections :=
  (Layout.one 'm' media).followedBy <|
    infoLine.followedBy <|
      connectionLine.followedBy <|
        bandwidthLines.followedBy <|
          keyLine.followedBy attributeLines

def mediaDescription : Layout (MediaDescription RawAttribute) :=
  mediaSections.imap
    (fun description => (description.media, description.baseDescription.info, description.baseDescription.connection,
      description.baseDescription.bandwidths, (), description.baseDescription.attributes))
    (fun sections => ⟨⟨sections.2.1, sections.2.2.1, sections.2.2.2.1, sections.2.2.2.2.2⟩, sections.1⟩)
    (fun _ => rfl) fun _ => rfl

/-- The repetitions of a time are no part of a description. -/
def timeDescription : Layout TimeDescription :=
  ((Layout.one 't' time).followedBy (Layout.skip 'r')).imap (fun time => (time, ()))
    (fun sections => sections.1) (fun _ => rfl) fun _ => rfl

/-- There is at least one time. -/
def timeLines : Layout (List TimeDescription) := timeDescription.many.filter (!·.isEmpty)

def zoneAdjustmentsLine : Layout (Option Uri) := (Layout.one 'z' uri).optional

def mediaDescriptions : Layout (List (MediaDescription RawAttribute)) := mediaDescription.many

abbrev SessionSections := Version × Origin × SessionName × Option Info × Option Uri × List Email × List Phone ×
  Option Connection × List Bandwidth × List TimeDescription × Option Uri × Unit × List RawAttribute ×
  List (MediaDescription RawAttribute)

def sessionSections : Layout SessionSections :=
  versionLine.followedBy <|
    originLine.followedBy <|
      sessionNameLine.followedBy <|
        infoLine.followedBy <|
          uriLine.followedBy <|
            emailLines.followedBy <|
              phoneLines.followedBy <|
                connectionLine.followedBy <|
                  bandwidthLines.followedBy <|
                    timeLines.followedBy <|
                      zoneAdjustmentsLine.followedBy <|
                        keyLine.followedBy <|
                          attributeLines.followedBy mediaDescriptions

/-- The grammar of session descriptions: a time for each of their time descriptions, and the fields in the order that
the marshal function quotes. -/
def sessionDescription : Layout (SessionDescription RawAttribute) :=
  sessionSections.imap
    (fun description => (description.version, description.origin, description.sessionName,
      description.baseDescription.info, description.uri, description.emails, description.phones,
      description.baseDescription.connection, description.baseDescription.bandwidths, description.times,
      description.zoneAdjustments, (), description.baseDescription.attributes, description.mediaDescriptions))
    (fun sections =>
      { version := sections.1
        origin := sections.2.1
        sessionName := sections.2.2.1
        uri := sections.2.2.2.2.1
        emails := sections.2.2.2.2.2.1
        phones := sections.2.2.2.2.2.2.1
        times := sections.2.2.2.2.2.2.2.2.2.1
        zoneAdjustments := sections.2.2.2.2.2.2.2.2.2.2.1
        mediaDescriptions := sections.2.2.2.2.2.2.2.2.2.2.2.2.2
        baseDescription :=
          { info := sections.2.2.2.1
            connection := sections.2.2.2.2.2.2.2.1
            bandwidths := sections.2.2.2.2.2.2.2.2.1
            attributes := sections.2.2.2.2.2.2.2.2.2.2.2.2.1 } })
    (fun _ => rfl) fun _ => rfl

end Grammar

end BelleSip.Sdp
