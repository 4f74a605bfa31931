import BelleSip.Sdp.MimeParameter

/-
This file proves what is built from a media description after MIME parameters were appended to it.
-/

namespace BelleSip.Sdp

open Foundation

section Numbers

/-- The larger number, and the first one of equal numbers. -/
def larger (current number : Int32) : Int32 := if current < number then number else current

/-- The largest of some numbers and a first one. -/
def largest (current : Int32) (numbers : List Int32) : Int32 := numbers.foldl larger current

/-- The maximum of some numbers when it is positive, else -1. -/
def carried (numbers : List Int32) : Int32 := if 0 < largest 0 numbers then largest 0 numbers else -1

theorem larger_toInt (current number : Int32) : (larger current number).toInt = max current.toInt number.toInt := by
  unfold larger
  split
  · next less => rw [Int32.lt_iff_toInt_lt] at less; omega
  · next less => rw [Int32.lt_iff_toInt_lt] at less; omega

end Numbers

section Texts

variable {number : Int32}

theorem percentInt_begins (number : Int32) :
    ∃ first rest, percentInt number = first :: rest ∧ first ≠ ' ' := by
  unfold percentInt
  cases number.toInt with
  | ofNat natural =>
      obtain ⟨first, rest, digits, digit⟩ := Scan.begins_digit natural
      refine ⟨first, rest, digits, ?_⟩
      rintro rfl
      exact absurd digit (by decide)
  | negSucc natural => exact ⟨'-', _, rfl, by decide⟩

theorem percentInt_visible (number : Int32) (tail : Text) :
    (percentInt number ++ tail).dropWhile (· = ' ') = percentInt number ++ tail := by
  obtain ⟨first, rest, digits, visible⟩ := percentInt_begins number
  rw [digits, List.cons_append, List.dropWhile_cons_of_neg (by simpa using visible)]

theorem atoiText_percentInt (number : Int32) : atoiText (percentInt number) = number := by
  have least := number.le_toInt
  have most := number.toInt_lt
  rw [atoiText, percentInt, Scan.atoi_decimal (by omega) (by omega), Int32.ofInt_toInt]

theorem scanPayload_percentInt (number : Int32) (text : Text) :
    scanPayload (percentInt number ++ ' ' :: text) = some (number, text.dropWhile Text.isSpace) := by
  have least := number.le_toInt
  have most := number.toInt_lt
  have scanned : Scan.scanI (decimal number.toInt ++ ' ' :: text) = some (number.toInt, ' ' :: text) :=
    Scan.scanI_decimal (by unfold Text.longMax; omega) (by unfold Text.longMax; omega) text
  rw [scanPayload, percentInt, scanned, Option.map_some, Int32.ofInt_toInt,
    List.dropWhile_cons_of_pos (by decide)]

/-- No digit and no sign is a slash. -/
theorem percentInt_noSlash (number : Int32) : ∀ character ∈ percentInt number, character ≠ '/' := by
  unfold percentInt
  have digits (natural : Nat) : ∀ character ∈ Nat.toDigits 10 natural, character ≠ '/' := by
    rintro character among rfl
    exact absurd (Codec.isDigit_of_mem_toDigits among) (by decide)
  cases number.toInt with
  | ofNat natural => exact digits natural
  | negSucc natural =>
      intro character among
      rcases List.mem_cons.mp among with rfl | among
      · decide
      · exact digits (natural + 1) character among

theorem getValue_raw (name value : Text) :
    (Attribute.raw { name, value := some value }).getValue = value.dropWhile (· = ' ') := by
  have behind : (marshalName name ++ ':' :: value).drop (name.length + 2) = ':' :: value := by
    rw [marshalName, List.cons_append, List.cons_append, List.drop_succ_cons, List.drop_succ_cons,
      List.drop_left]
  change (skipColon ((marshalName name ++ ':' :: value).drop (name.length + 2))).dropWhile _ = _
  rw [behind]
  rfl

end Texts

section Lines

variable {name : Text} {number : Int32} {front back : List Attribute}

/-- No attribute has the name. -/
def Lacks (attributes : List Attribute) (name : Text) : Prop := ∀ attr ∈ attributes, attr.name ≠ name

/-- The attribute that holds a positive number. -/
def numberLine (name : Text) (number : Int32) : List Attribute :=
  if 0 < number then [.raw { name, value := some (percentInt number) }] else []

theorem Lacks.append (first : Lacks front name) (second : Lacks back name) : Lacks (front ++ back) name := by
  intro attr among
  rcases List.mem_append.mp among with before | behind
  · exact first attr before
  · exact second attr behind

theorem numberLine_lacks {other : Text} (different : name ≠ other) (number : Int32) :
    Lacks (numberLine name number) other := by
  intro attr among
  unfold numberLine at among
  split at among
  · rw [List.mem_singleton.mp among]
    exact different
  · cases among

theorem getAttributeValue_lacks (lacks : Lacks front name) : getAttributeValue front name = none := by
  rw [getAttributeValue, List.find?_eq_none.mpr, Option.map_none]
  intro attr among
  simpa using lacks attr among

theorem getAttributeValue_numberLine (before : Lacks front name) (behind : Lacks back name) :
    getAttributeValue (front ++ (numberLine name number ++ back)) name =
      if 0 < number then some (percentInt number) else none := by
  unfold numberLine
  split
  · have skipped : front.find? (fun attr => attr.name = name) = none := by
      apply List.find?_eq_none.mpr
      intro attr among
      simpa using before attr among
    have value := getValue_raw name (percentInt number)
    have visible := percentInt_visible number []
    rw [List.append_nil] at visible
    rw [getAttributeValue, List.find?_append, skipped, List.cons_append,
      List.find?_cons_of_pos (by simp [Attribute.name]), Option.none_or, Option.map_some, value, visible]
  · exact getAttributeValue_lacks (before.append behind)

/-- A number that is there is taken out of the attributes. -/
theorem takeNumber_numberLine (before : Lacks front name) (behind : Lacks back name) (natural : 0 ≤ number.toInt) :
    MediaDescription.takeNumber (front ++ (numberLine name number ++ back)) name = (number, front ++ back) := by
  rw [MediaDescription.takeNumber, getAttributeValue_numberLine before behind]
  by_cases positive : 0 < number
  · have removed : removeAttribute (front ++ (numberLine name number ++ back)) name = front ++ back := by
      rw [removeAttribute, List.eraseP_append_right, numberLine, if_pos positive]
      · rw [List.cons_append, List.eraseP_cons_of_pos (by simp [Attribute.name]), List.nil_append]
      · intro attr among
        simpa using before attr among
    rw [if_pos positive]
    simp only [atoiText_percentInt, removed]
  · have zero : number = 0 := by
      rw [Int32.lt_iff_toInt_lt] at positive
      have value : (0 : Int32).toInt = 0 := rfl
      exact Int32.toInt_inj.mp (by omega)
    rw [if_neg positive, zero]
    simp [numberLine]

/-- A number of nine digits is written whole. -/
theorem putNumber_numberLine {current : Int32} (small : (larger current number).toInt < 1000000000) :
    MediaDescription.putNumber front name current number = front ++ numberLine name (larger current number) := by
  change (if 0 < larger current number then
    setAttributeValue front name (snprintf 10 (percentInt (larger current number))) else front) = _
  unfold numberLine
  split
  · next positive =>
      rw [Int32.lt_iff_toInt_lt] at positive
      have zero : (0 : Int32).toInt = 0 := rfl
      have whole : snprintf 10 (percentInt (larger current number)) = percentInt (larger current number) :=
        List.take_of_length_le (Scan.length_decimal (by omega) small)
      rw [setAttributeValue, whole]
  · rw [List.append_nil]

end Lines

namespace MimeParameter

/-- The lines of a parameter with the given type, as they are cut by their array. -/
def linesWith (param : MimeParameter) (type : Text) : List Attribute :=
  (if param.isStatic type then []
    else [.raw { name := rtpmap, value := some (snprintf 512 (param.rtpmapText type)) }]) ++
    (param.parameters.map fun parameters =>
      .raw { name := fmtp, value := some (snprintf 512 (param.fmtpText parameters)) }).toList

/-- The lines of a parameter. -/
def lines (param : MimeParameter) : List Attribute := param.type.elim [] param.linesWith

/-- The parameter has a type that an `rtpmap` line can hold, and its lines and numbers fit into their arrays. -/
structure Written (param : MimeParameter) : Prop where
  typed : ∃ type, param.type = some type ∧ '/' ∉ type ∧
    (param.isStatic type = false → (param.rtpmapText type).length < 512)
  formatted : ∀ parameters, param.parameters = some parameters → (param.fmtpText parameters).length < 512
  ptime : param.ptime.toInt < 1000000000
  maxPtime : param.maxPtime.toInt < 1000000000

theorem linesWith_names {param : MimeParameter} {type : Text} :
    ∀ attr ∈ param.linesWith type, attr.name = rtpmap ∨ attr.name = fmtp := by
  intro attr among
  rcases List.mem_append.mp among with mapping | format
  · split at mapping
    · cases mapping
    · rw [List.mem_singleton.mp mapping]
      exact .inl rfl
  · obtain ⟨parameters, _, rfl⟩ := Option.map_eq_some_iff.mp (Option.mem_toList.mp format)
    exact .inr rfl

theorem linesWith_lacks {param : MimeParameter} {type name : Text} (mapping : rtpmap ≠ name) (format : fmtp ≠ name) :
    Lacks (param.linesWith type) name := by
  intro attr among same
  rcases linesWith_names attr among with named | named
  · exact mapping (named.symm.trans same)
  · exact format (named.symm.trans same)

theorem lines_eq {param : MimeParameter} {type : Text} (typed : param.type = some type) :
    param.lines = param.linesWith type := by rw [lines, typed, Option.elim_some]

theorem lines_lacks {param : MimeParameter} (written : param.Written) {name : Text} (mapping : rtpmap ≠ name)
    (format : fmtp ≠ name) : Lacks param.lines name := by
  obtain ⟨type, typed, _, _⟩ := written.typed
  rw [lines_eq typed]
  exact linesWith_lacks mapping format

end MimeParameter

namespace MediaDescription

/-- A description with the given formats, lines and numbers. -/
def described (base : MediaDescription Attribute) (formats : List Int) (front : List Attribute)
    (ptime maxPtime : Int32) : MediaDescription Attribute :=
  { base with media := { base.media with mediaFormats := formats } }.withAttributes
    (front ++ (numberLine Sdp.ptime ptime ++ numberLine maxptime maxPtime))

variable {base : MediaDescription Attribute} {formats : List Int} {front : List Attribute}
  {current currentMax : Int32} {param : MimeParameter}

theorem append_eq {mediaDescription : MediaDescription Attribute} {type : Text} {remaining : List Attribute}
    (typed : param.type = some type)
    (taken : takeNumber mediaDescription.attributes ptime = (current, remaining))
    (takenMax : takeNumber remaining maxptime = (currentMax, front)) :
    mediaDescription.appendValuesFromMimeParameter param =
      some ({ mediaDescription with
        media := { mediaDescription.media with
          mediaFormats := mediaDescription.media.mediaFormats ++ [param.mediaFormat.toInt] } }.withAttributes
        (putNumber (putNumber (front ++ param.linesWith type) ptime current param.ptime) maxptime currentMax
          param.maxPtime)) := by
  change takeNumber mediaDescription.baseDescription.attributes ptime = _ at taken
  unfold appendValuesFromMimeParameter
  rw [typed]
  simp only [Option.bind_eq_bind, Option.bind_some, attributes, taken, takenMax, MimeParameter.linesWith,
    setAttributeValue]
  cases param.isStatic type <;> cases param.parameters <;> simp

/-- A parameter adds its format and its lines, and enters the numbers. -/
theorem append_described (written : param.Written) (noPtime : Lacks front ptime) (noMaxPtime : Lacks front maxptime)
    (natural : 0 ≤ current.toInt) (naturalMax : 0 ≤ currentMax.toInt) (small : current.toInt < 1000000000)
    (smallMax : currentMax.toInt < 1000000000) :
    (described base formats front current currentMax).appendValuesFromMimeParameter param =
      some (described base (formats ++ [param.mediaFormat.toInt]) (front ++ param.lines)
        (larger current param.ptime) (larger currentMax param.maxPtime)) := by
  obtain ⟨type, typed, _, _⟩ := written.typed
  have ptimeSmall := written.ptime
  have maxPtimeSmall := written.maxPtime
  have value := larger_toInt current param.ptime
  have valueMax := larger_toInt currentMax param.maxPtime
  have taken : takeNumber (described base formats front current currentMax).attributes ptime =
      (current, front ++ numberLine maxptime currentMax) :=
    takeNumber_numberLine noPtime (numberLine_lacks (by decide) currentMax) natural
  have takenMax : takeNumber (front ++ numberLine maxptime currentMax) maxptime = (currentMax, front) := by
    have read : takeNumber (front ++ (numberLine maxptime currentMax ++ [])) maxptime = (currentMax, front ++ []) :=
      takeNumber_numberLine noMaxPtime (by intro attr among; cases among) naturalMax
    rwa [List.append_nil, List.append_nil] at read
  rw [append_eq typed taken takenMax, putNumber_numberLine (by omega), putNumber_numberLine (by omega),
    MimeParameter.lines_eq typed, List.append_assoc]
  rfl

/-- Parameters that are appended one after the other add their formats and lines in their order. -/
theorem appendAll_described {params : List MimeParameter} (written : ∀ param ∈ params, param.Written)
    (noPtime : Lacks front ptime) (noMaxPtime : Lacks front maxptime) (natural : 0 ≤ current.toInt)
    (naturalMax : 0 ≤ currentMax.toInt) (small : current.toInt < 1000000000)
    (smallMax : currentMax.toInt < 1000000000) :
    appendAll params (described base formats front current currentMax) =
      some (described base (formats ++ params.map fun param => param.mediaFormat.toInt)
        (front ++ params.flatMap MimeParameter.lines) (largest current (params.map MimeParameter.ptime))
        (largest currentMax (params.map MimeParameter.maxPtime))) := by
  induction params generalizing formats front current currentMax with
  | nil => simp [appendAll, largest]
  | cons param params inductionHypothesis =>
      have first := written param List.mem_cons_self
      have value := larger_toInt current param.ptime
      have valueMax := larger_toInt currentMax param.maxPtime
      have ptimeSmall := first.ptime
      have maxPtimeSmall := first.maxPtime
      have lines := noPtime.append (MimeParameter.lines_lacks first (by decide) (by decide))
      have linesMax := noMaxPtime.append (MimeParameter.lines_lacks first (by decide) (by decide))
      rw [appendAll, append_described first noPtime noMaxPtime natural naturalMax small smallMax, Option.bind_some,
        inductionHypothesis (fun other among => written other (List.mem_cons_of_mem _ among)) lines linesMax
          (by omega) (by omega) (by omega) (by omega)]
      simp [largest, List.append_assoc]

end MediaDescription

section Lookup

variable {param : MimeParameter} {field name text : Text} {pt number : Int32}

/-- What a line with a payload number gives to a search for a number. -/
theorem valueWithPt_line :
    valueWithPt pt field (.raw { name, value := some (percentInt number ++ ' ' :: text) }) =
      if name = field ∧ pt = number ∧ text.dropWhile Text.isSpace ≠ [] then some (text.dropWhile Text.isSpace)
      else none := by
  have value := getValue_raw name (percentInt number ++ ' ' :: text)
  rw [percentInt_visible] at value
  rw [valueWithPt, value, scanPayload_percentInt, Option.bind_some]
  change (if name = field then
    if pt = number ∧ text.dropWhile Text.isSpace ≠ [] then some (text.dropWhile Text.isSpace) else none else none) = _
  by_cases named : name = field
  · rw [if_pos named]
    simp only [named, true_and]
  · rw [if_neg named, if_neg fun all => named all.1]

theorem findSome?_lacks {attributes : List Attribute} (lacks : Lacks attributes field) :
    attributes.findSome? (valueWithPt pt field) = none := by
  apply List.findSome?_eq_none_iff.mpr
  intro attr among
  rw [valueWithPt, if_neg (lacks attr among)]

namespace MimeParameter

/-- The text behind the number in the attribute `rtpmap`. -/
def encoding (param : MimeParameter) (type : Text) : Text :=
  type ++ '/' :: percentInt param.rate ++
    if 1 < param.channelCount then '/' :: percentInt param.channelCount else []

theorem rtpmapText_eq (type : Text) :
    param.rtpmapText type = percentInt param.mediaFormat ++ ' ' :: param.encoding type := by
  simp [rtpmapText, encoding]

/-- The lines of a written parameter, which are not cut. -/
theorem linesWith_written (written : param.Written) {type : Text} (typed : param.type = some type) :
    param.linesWith type =
      (if param.isStatic type then []
        else [.raw { name := rtpmap, value := some (percentInt param.mediaFormat ++ ' ' :: param.encoding type) }]) ++
        (param.parameters.map fun parameters =>
          .raw { name := fmtp, value := some (percentInt param.mediaFormat ++ ' ' :: parameters) }).toList := by
  obtain ⟨_, same, _, short⟩ := written.typed
  obtain rfl : _ = type := Option.some.inj (same.symm.trans typed)
  have format : (param.parameters.map fun parameters =>
        Attribute.raw { name := fmtp, value := some (snprintf 512 (param.fmtpText parameters)) }) =
      param.parameters.map fun parameters =>
        .raw { name := fmtp, value := some (percentInt param.mediaFormat ++ ' ' :: parameters) } := by
    apply Option.map_congr
    intro parameters given
    have whole : snprintf 512 (param.fmtpText parameters) = param.fmtpText parameters :=
      List.take_of_length_le (Nat.le_of_lt_succ (written.formatted parameters given))
    rw [whole, fmtpText]
  rw [linesWith, format]
  cases static : param.isStatic _ with
  | true => rfl
  | false =>
      have whole : snprintf 512 (param.rtpmapText _) = param.rtpmapText _ :=
        List.take_of_length_le (Nat.le_of_lt_succ (short static))
      rw [whole, rtpmapText_eq]

/-- The lines of a parameter say nothing about other numbers. -/
theorem lines_other (written : param.Written) (different : pt ≠ param.mediaFormat) :
    param.lines.findSome? (valueWithPt pt field) = none := by
  obtain ⟨type, typed, _, _⟩ := written.typed
  rw [lines_eq typed, linesWith_written written typed]
  cases param.isStatic type <;> cases param.parameters <;> simp [valueWithPt_line, different]

/-- A type and what follows it are found behind the number of a parameter that is not static. -/
theorem lines_rtpmap (written : param.Written) {type : Text} (typed : param.type = some type) :
    param.lines.findSome? (valueWithPt param.mediaFormat rtpmap) =
      if param.isStatic type then none else some ((param.encoding type).dropWhile Text.isSpace) := by
  have visible : (param.encoding type).dropWhile Text.isSpace ≠ [] := by
    intro blank
    have slash := List.dropWhile_eq_nil_iff.mp blank '/' (by simp [encoding])
    exact absurd slash (by decide)
  have other : fmtp ≠ rtpmap := by decide
  rw [lines_eq typed, linesWith_written written typed]
  cases param.isStatic type <;> cases param.parameters <;> simp [valueWithPt_line, visible, other]

/-- A text of parameters is found behind the number without the blanks at its beginning, if anything is left. -/
theorem lines_fmtp (written : param.Written) :
    param.lines.findSome? (valueWithPt param.mediaFormat fmtp) =
      (param.parameters.map (List.dropWhile Text.isSpace)).filter (· ≠ []) := by
  obtain ⟨type, typed, _, _⟩ := written.typed
  have other : rtpmap ≠ fmtp := by decide
  rw [lines_eq typed, linesWith_written written typed]
  have format (parameters : Text) :
      [Attribute.raw { name := fmtp, value := some (percentInt param.mediaFormat ++ ' ' :: parameters) }].findSome?
          (valueWithPt param.mediaFormat fmtp) =
        ((some parameters).map (List.dropWhile Text.isSpace)).filter (· ≠ []) := by
    rw [List.findSome?_singleton, valueWithPt_line]
    by_cases blank : parameters.dropWhile Text.isSpace = []
    · rw [if_neg fun all => all.2.2 blank, Option.map_some, blank]
      rfl
    · rw [if_pos ⟨rfl, rfl, blank⟩, Option.map_some, Option.filter_some_pos (by simpa using blank)]
  rw [List.findSome?_append]
  have mapping : (if param.isStatic type then []
      else [Attribute.raw
        { name := rtpmap, value := some (percentInt param.mediaFormat ++ ' ' :: param.encoding type) }]).findSome?
      (valueWithPt param.mediaFormat fmtp) = none := by
    cases param.isStatic type <;> simp [valueWithPt_line, other]
  rw [mapping, Option.none_or]
  cases param.parameters with
  | none => rfl
  | some parameters => exact format parameters

end MimeParameter

/-- A search among the lines of parameters with different numbers finds those of the one with the number. -/
theorem findSome?_lines {params : List MimeParameter} (written : ∀ param ∈ params, param.Written)
    (distinct : (params.map MimeParameter.mediaFormat).Nodup) (among : param ∈ params) :
    (params.flatMap MimeParameter.lines).findSome? (valueWithPt param.mediaFormat field) =
      param.lines.findSome? (valueWithPt param.mediaFormat field) := by
  induction params with
  | nil => cases among
  | cons first params inductionHypothesis =>
      rw [List.map_cons, List.nodup_cons] at distinct
      rw [List.flatMap_cons, List.findSome?_append]
      have others := fun other (later : other ∈ params) => written other (List.mem_cons_of_mem _ later)
      rcases List.mem_cons.mp among with rfl | later
      · have silent : (params.flatMap MimeParameter.lines).findSome? (valueWithPt param.mediaFormat field) = none := by
          rw [List.findSome?_eq_none_iff]
          intro attr present
          obtain ⟨other, later, inLines⟩ := List.mem_flatMap.mp present
          have different : param.mediaFormat ≠ other.mediaFormat := by
            intro same
            exact distinct.1 (List.mem_map.mpr ⟨other, later, same.symm⟩)
          exact List.findSome?_eq_none_iff.mp (MimeParameter.lines_other (others other later) different) attr inLines
        rw [silent, Option.or_none]
      · have different : param.mediaFormat ≠ first.mediaFormat := by
          intro same
          exact distinct.1 (List.mem_map.mpr ⟨param, later, same⟩)
        rw [MimeParameter.lines_other (written first List.mem_cons_self) different, Option.none_or,
          inductionHypothesis others distinct.2 later]

end Lookup

section Building

variable {param : MimeParameter} {type : Text}

namespace MimeParameter

/-- The parameter is one of the table. -/
def Static (param : MimeParameter) : Prop := param.type.any param.isStatic = true

instance (param : MimeParameter) : Decidable param.Static := inferInstanceAs (Decidable (_ = true))

/-- The type that the table has for the number of the parameter. -/
def tableType (param : MimeParameter) : Option Text :=
  (staticPayloadList.find? fun payload => payload.number = param.mediaFormat).map StaticPayload.type

/-- What is built for a parameter: a static type has the spelling of the table and another type loses the blanks at
its beginning, a channel count below two is the implicit one, and the text of the parameters loses the blanks at its
beginning. -/
def readBack (isAudio : Bool) (ptime maxPtime : Int32) (param : MimeParameter) : MimeParameter where
  rate := param.rate
  channelCount :=
    if param.Static ∨ 1 < param.channelCount then param.channelCount else if isAudio then 1 else 0
  ptime := ptime
  maxPtime := maxPtime
  mediaFormat := param.mediaFormat
  type := if param.Static then param.tableType else param.type.map (List.dropWhile Text.isSpace)
  parameters := (param.parameters.map (List.dropWhile Text.isSpace)).filter (· ≠ [])

theorem dropWhile_slash (type rest : Text) :
    (type ++ '/' :: rest).dropWhile Text.isSpace = type.dropWhile Text.isSpace ++ '/' :: rest := by
  induction type with
  | nil => rfl
  | cons first type inductionHypothesis =>
      cases blank : Text.isSpace first with
      | true =>
          rw [List.cons_append, List.dropWhile_cons_of_pos blank, List.dropWhile_cons_of_pos blank,
            inductionHypothesis]
      | false =>
          have visible : ¬Text.isSpace first = true := by simp [blank]
          rw [List.cons_append, List.dropWhile_cons_of_neg visible, List.dropWhile_cons_of_neg visible,
            List.cons_append]

theorem takeWhile_slash {text : Text} (noSlash : ∀ character ∈ text, character ≠ '/') (rest : Text) :
    (text ++ '/' :: rest).takeWhile (· ≠ '/') = text ∧ (text ++ '/' :: rest).dropWhile (· ≠ '/') = '/' :: rest := by
  have all : ∀ character ∈ text, decide (character ≠ '/') = true := fun character among =>
    decide_eq_true (noSlash character among)
  constructor
  · rw [List.takeWhile_append_of_pos all, List.takeWhile_cons_of_neg (by decide), List.append_nil]
  · rw [List.dropWhile_append_of_pos all, List.dropWhile_cons_of_neg (by decide)]

/-- The type, the rate and the channel count are read from their text. -/
theorem fillFromRtpmap_encoding {start : MimeParameter} (noSlash : '/' ∉ type) (isAudio : Bool) :
    start.fillFromRtpmap ((param.encoding type).dropWhile Text.isSpace) isAudio =
      { start with
        type := some (type.dropWhile Text.isSpace)
        rate := param.rate
        channelCount :=
          if 1 < param.channelCount then param.channelCount else if isAudio then 1 else start.channelCount } := by
  have typeText : ∀ character ∈ type.dropWhile Text.isSpace, character ≠ '/' := by
    rintro character among rfl
    exact noSlash ((List.dropWhile_sublist _).subset among)
  have rateText := percentInt_noSlash param.rate
  have all : ∀ character ∈ percentInt param.rate, decide (character ≠ '/') = true := fun character among =>
    decide_eq_true (rateText character among)
  have shape : (param.encoding type).dropWhile Text.isSpace =
      type.dropWhile Text.isSpace ++ '/' :: (percentInt param.rate ++
        if 1 < param.channelCount then '/' :: percentInt param.channelCount else []) := by
    rw [encoding, List.append_assoc, List.cons_append, dropWhile_slash]
  obtain ⟨taken, behind⟩ := takeWhile_slash typeText (percentInt param.rate ++
    if 1 < param.channelCount then '/' :: percentInt param.channelCount else [])
  rw [fillFromRtpmap, shape, taken, behind]
  by_cases counted : 1 < param.channelCount
  · obtain ⟨rate, chans⟩ := takeWhile_slash rateText (percentInt param.channelCount)
    simp only [if_pos counted, rate, chans, atoiText_percentInt]
  · have chans : (percentInt param.rate).dropWhile (· ≠ '/') = [] := List.dropWhile_eq_nil_iff.mpr all
    simp only [if_neg counted, List.append_nil, chans, atoiText_percentInt]

theorem find?_static : ∀ payload ∈ staticPayloadList,
    (staticPayloadList.find? fun other => other.number = payload.number) = some payload := by
  decide +kernel

/-- The entry of the table that a static parameter is compared with is the one of its number. -/
theorem fillFromStatic_static {start : MimeParameter} (static : param.isStatic type = true) :
    start.fillFromStatic param.mediaFormat =
      { start with type := param.tableType, rate := param.rate, channelCount := param.channelCount } := by
  obtain ⟨payload, among, matched⟩ := List.any_eq_true.mp static
  obtain ⟨number, _, channelCount, rate⟩ := of_decide_eq_true matched
  have found := find?_static payload among
  rw [number] at found
  rw [fillFromStatic, tableType, found]
  simp only [Option.map_some, channelCount, rate]

end MimeParameter

namespace MediaDescription

/-- The description has no numbers of its own and no lines for the payload numbers of the parameters. -/
structure Undescribed (mediaDescription : MediaDescription Attribute) (params : List MimeParameter) : Prop where
  noPtime : Lacks mediaDescription.attributes Sdp.ptime
  noMaxPtime : Lacks mediaDescription.attributes maxptime
  noRtpmap : ∀ param ∈ params, aAttrValueGetWithPt mediaDescription.attributes param.mediaFormat rtpmap = none
  noFmtp : ∀ param ∈ params, aAttrValueGetWithPt mediaDescription.attributes param.mediaFormat fmtp = none

variable {base : MediaDescription Attribute} {formats : List Int} {front : List Attribute} {current currentMax : Int32}

theorem numberOf_described {name : Text} {back : List Attribute} (before : Lacks front name)
    (behind : Lacks back name) :
    numberOf (front ++ (numberLine name current ++ back)) name = if 0 < current then current else -1 := by
  rw [numberOf, getAttributeValue_numberLine before behind]
  by_cases positive : 0 < current
  · rw [if_pos positive, if_pos positive]
    exact atoiText_percentInt current
  · rw [if_neg positive, if_neg positive]

/-- A parameter is built from its lines and the numbers of the description. -/
theorem buildMimeParameter_described {front : List Attribute} (written : param.Written) (isAudio : Bool)
    (noPtime : Lacks front ptime) (noMaxPtime : Lacks front maxptime)
    (mapping : front.findSome? (valueWithPt param.mediaFormat rtpmap) =
      param.lines.findSome? (valueWithPt param.mediaFormat rtpmap))
    (format : front.findSome? (valueWithPt param.mediaFormat fmtp) =
      param.lines.findSome? (valueWithPt param.mediaFormat fmtp)) :
    (described base formats front current currentMax).buildMimeParameter isAudio param.mediaFormat.toInt =
      param.readBack isAudio (if 0 < current then current else -1) (if 0 < currentMax then currentMax else -1) := by
  obtain ⟨type, typed, noSlash, _⟩ := written.typed
  have attrs : (described base formats front current currentMax).attributes =
      front ++ (numberLine ptime current ++ numberLine maxptime currentMax) := rfl
  have ptimeRead : numberOf (described base formats front current currentMax).attributes ptime =
      if 0 < current then current else -1 := numberOf_described noPtime (numberLine_lacks (by decide) currentMax)
  have maxPtimeRead : numberOf (described base formats front current currentMax).attributes maxptime =
      if 0 < currentMax then currentMax else -1 := by
    have before := noMaxPtime.append (numberLine_lacks (show ptime ≠ maxptime by decide) current)
    have behind : Lacks [] maxptime := by
      intro attr among
      cases among
    have read := @numberOf_described _ currentMax _ _ before behind
    rwa [List.append_nil, List.append_assoc] at read
  have searched {field : Text} (first : ptime ≠ field) (second : maxptime ≠ field) :
      aAttrValueGetWithPt (described base formats front current currentMax).attributes param.mediaFormat field =
        front.findSome? (valueWithPt param.mediaFormat field) := by
    have silent := (numberLine_lacks first current).append (numberLine_lacks second currentMax)
    rw [aAttrValueGetWithPt, attrs, List.findSome?_append, findSome?_lacks silent, Option.or_none]
  have mappingFound := (searched (by decide) (by decide)).trans
    (mapping.trans (MimeParameter.lines_rtpmap written typed))
  have formatFound := (searched (by decide) (by decide)).trans (format.trans (MimeParameter.lines_fmtp written))
  have static : param.Static ↔ param.isStatic type = true := by
    rw [MimeParameter.Static, typed, Option.any_some]
  rw [buildMimeParameter]
  simp only [ptimeRead, maxPtimeRead, Int32.ofInt_toInt]
  unfold MimeParameter.readBack
  generalize (param.parameters.map (List.dropWhile Text.isSpace)).filter (· ≠ []) = parameters at formatFound ⊢
  cases known : param.isStatic type with
  | true =>
      rw [if_pos known] at mappingFound
      simp only [mappingFound, MimeParameter.fillFromStatic_static known, formatFound]
      rw [if_pos (static.mpr known), if_pos (Or.inl (static.mpr known))]
      cases parameters <;> rfl
  | false =>
      have notStatic : ¬param.Static := fun all => absurd (static.mp all) (by simp [known])
      rw [if_neg (by simp [known])] at mappingFound
      simp only [mappingFound, MimeParameter.fillFromRtpmap_encoding noSlash, formatFound]
      rw [if_neg notStatic, typed, Option.map_some]
      simp only [notStatic, false_or]
      cases parameters <;> rfl

/-- Parameters that are written into a description without formats are built from it in their order. All of them carry
the maximum of their numbers. -/
theorem build_appendAll {mediaDescription : MediaDescription Attribute} {params : List MimeParameter}
    (noFormats : mediaDescription.media.mediaFormats = []) (undescribed : mediaDescription.Undescribed params)
    (distinct : (params.map MimeParameter.mediaFormat).Nodup) (written : ∀ param ∈ params, param.Written) :
    (appendAll params mediaDescription).map buildMimeParameters =
      some (params.map (MimeParameter.readBack mediaDescription.isAudio (carried (params.map MimeParameter.ptime))
        (carried (params.map MimeParameter.maxPtime)))) := by
  have start : mediaDescription = described mediaDescription [] mediaDescription.attributes 0 0 := by
    have nothing (name : Text) : numberLine name 0 = [] := by simp [numberLine]
    rw [described, nothing, nothing, List.append_nil, List.append_nil, ← noFormats]
    rfl
  have lacks {name : Text} (mapping : rtpmap ≠ name) (format : fmtp ≠ name) :
      Lacks (params.flatMap MimeParameter.lines) name := by
    intro attr among
    obtain ⟨param, present, inLines⟩ := List.mem_flatMap.mp among
    exact MimeParameter.lines_lacks (written param present) mapping format attr inLines
  have noPtime := undescribed.noPtime.append (lacks (show rtpmap ≠ ptime by decide) (by decide))
  have noMaxPtime := undescribed.noMaxPtime.append (lacks (show rtpmap ≠ maxptime by decide) (by decide))
  have appended := @appendAll_described mediaDescription [] mediaDescription.attributes 0 0 params written
    undescribed.noPtime undescribed.noMaxPtime (by decide) (by decide) (by decide) (by decide)
  rw [← start] at appended
  rw [appended, Option.map_some, buildMimeParameters]
  congr 1
  change (params.map fun param => param.mediaFormat.toInt).map (buildMimeParameter _ mediaDescription.isAudio) = _
  rw [List.map_map]
  apply List.map_congr_left
  intro param among
  have found (field : Text) (silent : aAttrValueGetWithPt mediaDescription.attributes param.mediaFormat field = none) :
      (mediaDescription.attributes ++ params.flatMap MimeParameter.lines).findSome?
          (valueWithPt param.mediaFormat field) = param.lines.findSome? (valueWithPt param.mediaFormat field) := by
    rw [aAttrValueGetWithPt] at silent
    rw [List.findSome?_append, silent, Option.none_or, findSome?_lines written distinct among]
  exact buildMimeParameter_described (written param among) mediaDescription.isAudio noPtime noMaxPtime
    (found rtpmap (undescribed.noRtpmap param among)) (found fmtp (undescribed.noFmtp param among))

/-- A description of an audio stream without formats. -/
def noCodecs : MediaDescription Attribute :=
  { media := { mediaType := "audio".toList, mediaPort := 7078, mediaFormats := [], protocol := "RTP/AVP".toList } }

/-- A static payload and a dynamic one with a text of parameters. -/
theorem build_appendAll_two :
    (appendAll [{ rate := 8000, channelCount := 1, ptime := 20, type := some "PCMU".toList },
        { rate := 48000, channelCount := 2, ptime := 40, mediaFormat := 96, type := some "opus".toList,
          parameters := some "stereo=1".toList }] noCodecs).map buildMimeParameters =
      some [{ rate := 8000, channelCount := 1, ptime := 40, type := some "PCMU".toList },
        { rate := 48000, channelCount := 2, ptime := 40, mediaFormat := 96, type := some "opus".toList,
          parameters := some "stereo=1".toList }] := by
  have lacksAll (name : Text) : Lacks noCodecs.attributes name := by
    intro attr among
    cases among
  refine (build_appendAll rfl ⟨lacksAll ptime, lacksAll maxptime, fun _ _ => rfl, fun _ _ => rfl⟩ (by decide) ?_).trans
    (by decide +kernel)
  intro param among
  rcases List.mem_cons.mp among with rfl | among
  · exact ⟨⟨"PCMU".toList, rfl, by decide, by decide⟩, by rintro _ ⟨⟩, by decide, by decide⟩
  · obtain rfl := List.mem_singleton.mp among
    exact ⟨⟨"opus".toList, rfl, by decide, by decide +kernel⟩, by rintro _ ⟨⟩; decide +kernel, by decide, by decide⟩

/-- Parameters come back changed: the channel count of an audio stream that is absent, the spelling of a static type, a
type with a slash, a text of parameters that begins with a blank, a number of milliseconds that is zero, and a number
below the one of the description. -/
theorem build_appendAll_changed :
    let opus : MimeParameter := { rate := 48000, channelCount := 1, mediaFormat := 96, type := some "opus".toList }
    let pcmu : MimeParameter := { rate := 8000, channelCount := 1, type := some "PCMU".toList }
    (appendAll [{ opus with channelCount := 0 }] noCodecs).map buildMimeParameters = some [opus] ∧
      (appendAll [{ pcmu with type := some "pcmu".toList }] noCodecs).map buildMimeParameters = some [pcmu] ∧
      (appendAll [{ opus with type := some "a/b".toList }] noCodecs).map buildMimeParameters =
        some [{ opus with type := some "a".toList, rate := 0, channelCount := 48000 }] ∧
      (appendAll [{ opus with parameters := some " b".toList }] noCodecs).map buildMimeParameters =
        some [{ opus with parameters := some "b".toList }] ∧
      (appendAll [{ pcmu with ptime := 0 }] noCodecs).map buildMimeParameters = some [pcmu] ∧
      (appendAll [{ pcmu with ptime := 20 }]
          (noCodecs.withAttributes [.raw ⟨Sdp.ptime, some "60".toList⟩])).map buildMimeParameters =
        some [{ pcmu with ptime := 60 }] := by
  decide +kernel

end MediaDescription

end Building

end BelleSip.Sdp
