import BelleSip.Body.Multipart

/-
This file proves for which parts the receiver of a multipart body can take it apart again.
-/

namespace BelleSip

open Foundation Foundation.Mime MultipartBodyHandler

namespace PartBodyHandler

/-- The marshalled headers. -/
def headerTexts (part : PartBodyHandler) : List Bytes := part.headerList.map PartHeader.text

/-- The headers of the part as they are sent before its content. -/
def headerText (part : PartBodyHandler) : Bytes :=
  if part.headers = [] then [] else headerSection part.headerTexts ++ lineBreak

def bodyPart (part : PartBodyHandler) : BodyPart := { headers := part.headerTexts, content := part.content }

end PartBodyHandler

/-- Each buffer has room for a separator, the headers of any part, one byte and the end of the body. -/
def Roomy (parts : List PartBodyHandler) (sizes : Nat → Nat) : Prop :=
  ∀ call, ∀ part ∈ parts,
    multipartSeparator.length + part.headerText.length + 1 + multipartEnd.length ≤ sizes call

/-- The body that the handler sends has the announced size, and the reader finds the given parts in it. -/
def MultipartBodyHandler.Delivers (obj : MultipartBodyHandler) (parts : List BodyPart) (sizes : Nat → Nat) : Prop :=
  ∃ calls body, obj.send sizes calls = some body ∧ body.length = obj.expectedSize ∧
    readMultipart bellesipMultipartBoundary body = some parts

/-- The parts can be added to a new handler, and it delivers them. -/
def Delivered (fresh : Nat → UInt8) (parts : List PartBodyHandler) (sizes : Nat → Nat) : Prop :=
  ∃ passes obj, addParts fresh passes parts MultipartBodyHandler.empty = .ok (some obj) ∧
    obj.Delivers (parts.map PartBodyHandler.bodyPart) sizes

/-- The bytes that stand for the part between two boundaries; a part without content ends with its headers. -/
def PartBodyHandler.written (part : PartBodyHandler) : Bytes :=
  headerSection part.headerTexts ++ if part.content = [] then [] else lineBreak ++ part.content

/-- The part has headers, each of them is a field, and no line of the part begins with the boundary. -/
def PartBodyHandler.Readable (part : PartBodyHandler) : Prop :=
  part.headers ≠ [] ∧ (∀ header ∈ part.headerTexts, isField header = true) ∧
    ¬delimiter bellesipMultipartBoundary <:+: lineBreak ++ part.written

/-- All parts are readable; the last one has a content of known size, and no other one has any content. -/
def Deliverable : List PartBodyHandler → Prop
  | [] => False
  | [last] => last.Readable ∧ last.content ≠ [] ∧ last.expectedSize ≠ 0
  | part :: rest => part.Readable ∧ part.content = [] ∧ Deliverable rest

theorem boundary_oneLine : 13 ∉ bellesipMultipartBoundary := by decide

/-- What follows the boundary of a separator. -/
theorem multipartSeparator_append (rest : Bytes) :
    multipartSeparator ++ rest = hyphens ++ (bellesipMultipartBoundary ++ (lineBreak ++ rest)) := by
  simp only [multipartSeparator, List.append_assoc]

/-- The end of a body follows the last part as a delimiter. -/
theorem multipartEnd_eq : multipartEnd = delimiter bellesipMultipartBoundary ++ (hyphens ++ lineBreak) := by
  simp only [multipartEnd, delimiter, List.append_assoc]

theorem headerText_eq {part : PartBodyHandler} (headed : part.headers ≠ []) :
    part.headerText = headerSection part.headerTexts ++ lineBreak := if_neg headed

theorem headerText_nil {part : PartBodyHandler} (bare : part.headers = []) : part.headerText = [] := if_pos bare

theorem headerTexts_nil {part : PartBodyHandler} (bare : part.headers = []) : part.headerTexts = [] := by
  rw [PartBodyHandler.headerTexts, PartBodyHandler.headerList, bare]
  rfl

/-- A readable part is read as what it is. -/
theorem readBodyPart_written {part : PartBodyHandler} (readable : part.Readable) :
    readBodyPart part.written = some part.bodyPart := by
  obtain ⟨headed, fields, absent⟩ := readable
  rw [PartBodyHandler.written]
  split
  · next empty =>
      rw [readBodyPart_headerSection fields (segments_nil lineBreak), PartBodyHandler.bodyPart, empty]
      rfl
  · next filled =>
      rw [readBodyPart_headerSection fields (segments_mark lineBreak_ne_nil part.content), PartBodyHandler.bodyPart,
        intercalate_segments lineBreak_ne_nil]

/-- No bytes are followed by a hyphen where the same bytes behind a line break are followed by another one. -/
theorem shifted_hyphen (bytes rest other : Bytes) : bytes ++ 45 :: rest ≠ lineBreak ++ (bytes ++ 13 :: other) := by
  induction bytes using List.twoStepInduction with
  | nil => simp [lineBreak]
  | singleton byte => simp [lineBreak]
  | cons_cons first second bytes ih =>
      intro same
      simp only [lineBreak, List.cons_append, List.nil_append, List.cons.injEq] at same
      obtain ⟨rfl, rfl, same⟩ := same
      exact ih same

/-- The same bytes behind a line break are not followed by one line break but by two. -/
theorem shifted_break (bytes rest other : Bytes) :
    bytes ++ (lineBreak ++ 45 :: rest) ≠ lineBreak ++ (bytes ++ (lineBreak ++ 45 :: other)) := by
  induction bytes using List.twoStepInduction with
  | nil => simp [lineBreak]
  | singleton byte => simp [lineBreak]
  | cons_cons first second bytes ih =>
      intro same
      simp only [lineBreak, List.cons_append, List.nil_append, List.cons.injEq] at same
      obtain ⟨rfl, rfl, same⟩ := same
      exact ih same

section Reading

variable {part : PartBodyHandler} {parts : List BodyPart} {rest : Bytes}

/-- What the reader takes for a part with the given headers and content. -/
theorem read_shape {bytes : Bytes} (read : readBodyPart bytes = some part.bodyPart) :
    (∀ header ∈ part.headerTexts, isField header = true) ∧
      (bytes = headerSection part.headerTexts ++ (lineBreak ++ part.content) ∨
        bytes = headerSection part.headerTexts ∧ part.content = []) := readBodyPart_eq_some read

/-- A part without content that another part follows is read where it is readable. -/
theorem follows_empty (empty : part.content = []) :
    Follows bellesipMultipartBoundary
        (lineBreak ++ (part.headerText ++ (hyphens ++ (bellesipMultipartBoundary ++ rest))))
      (part.bodyPart :: parts) ↔ part.Readable ∧ Follows bellesipMultipartBoundary rest parts := by
  have written : part.written = headerSection part.headerTexts := by
    rw [PartBodyHandler.written, if_pos empty, List.append_nil]
  constructor
  · intro follows
    obtain ⟨one, after, whole, absent, read, others⟩ := follows.cons
    obtain ⟨fields, shape⟩ := read_shape read
    by_cases bare : part.headers = []
    · -- the line break of the boundary line is missing before the next boundary
      rw [headerText_nil bare] at whole
      rw [headerTexts_nil bare, headerSection_nil] at shape
      rcases shape with shape | shape
      · rw [shape] at whole
        simp [lineBreak, hyphens] at whole
      · rw [shape.1] at whole
        simp [lineBreak, hyphens, delimiter] at whole
    · rw [headerText_eq bare] at whole
      rcases shape with rfl | ⟨rfl, _⟩
      · rw [empty] at whole
        simp only [List.append_assoc, delimiter, List.append_nil] at whole
        have tails := List.append_cancel_left (List.append_cancel_left whole)
        simp [lineBreak, hyphens] at tails
      · simp only [List.append_assoc, delimiter] at whole
        have tails := List.append_cancel_left (List.append_cancel_left (List.append_cancel_left
          (List.append_cancel_left whole)))
        rw [tails]
        exact ⟨⟨bare, fields, by rw [written]; exact absent⟩, others⟩
  · rintro ⟨readable, others⟩
    have read := readBodyPart_written readable
    have follows := follows_cons boundary_oneLine readable.2.2 read others
    rw [written] at follows
    rw [headerText_eq readable.1]
    simpa only [delimiter, List.append_assoc] using follows

/-- A part with content is not read when the next boundary follows it at once. -/
theorem not_follows_nonempty (filled : part.content ≠ []) :
    ¬Follows bellesipMultipartBoundary (lineBreak ++ (part.headerText ++ (part.content ++ (hyphens ++ rest))))
      (part.bodyPart :: parts) := by
  intro follows
  obtain ⟨one, after, whole, absent, read, others⟩ := follows.cons
  obtain ⟨fields, shape | ⟨_, empty⟩⟩ := read_shape read
  · rw [shape] at whole
    by_cases bare : part.headers = []
    · rw [headerText_nil bare, headerTexts_nil bare, headerSection_nil] at whole
      simp only [List.nil_append, delimiter, List.append_assoc] at whole
      exact shifted_hyphen part.content _ _ whole
    · rw [headerText_eq bare] at whole
      simp only [delimiter, List.append_assoc] at whole
      have tails := List.append_cancel_left (List.append_cancel_left (List.append_cancel_left whole))
      simp [lineBreak, hyphens] at tails
  · exact filled empty

/-- A last part with content is read where it is readable. -/
theorem follows_last (filled : part.content ≠ []) :
    Follows bellesipMultipartBoundary (lineBreak ++ (part.headerText ++ (part.content ++ multipartEnd)))
      [part.bodyPart] ↔ part.Readable := by
  have written : part.written = headerSection part.headerTexts ++ (lineBreak ++ part.content) := by
    rw [PartBodyHandler.written, if_neg filled]
  constructor
  · intro follows
    obtain ⟨one, after, whole, absent, read, others⟩ := follows.cons
    obtain ⟨fields, shape | ⟨_, empty⟩⟩ := read_shape read
    · by_cases bare : part.headers = []
      · rw [headerText_nil bare, shape, headerTexts_nil bare, headerSection_nil] at whole
        simp only [List.nil_append, delimiter, List.append_assoc, multipartEnd] at whole
        exact absurd whole (shifted_break part.content _ _)
      · exact ⟨bare, fields, by rw [written, ← shape]; exact absent⟩
    · exact absurd empty filled
  · intro readable
    have read := readBodyPart_written readable
    have follows := follows_cons boundary_oneLine readable.2.2 read (follows_close bellesipMultipartBoundary)
    rw [written] at follows
    rw [headerText_eq readable.1, multipartEnd_eq]
    simpa only [delimiter, List.append_assoc] using follows

end Reading

/-- What is sent for the parts is a boundary that the parts follow, and nothing of the announced size is missing. -/
theorem send_iff {parts : List PartBodyHandler} {obj : MultipartBodyHandler} {sizes : Nat → Nat}
    (begins : obj.Begins parts) (printed : ∀ part ∈ parts, part.headerString = part.headerText)
    (roomy : Roomy parts sizes) :
    (∃ calls rest, obj.send sizes calls = some (hyphens ++ (bellesipMultipartBoundary ++ rest)) ∧
        Follows bellesipMultipartBoundary rest (parts.map PartBodyHandler.bodyPart) ∧
        obj.transferedSize + (hyphens ++ (bellesipMultipartBoundary ++ rest)).length = obj.expectedSize) ↔
      Deliverable parts := by
  induction parts generalizing obj sizes with
  | nil => simp [send_nil begins, Deliverable]
  | cons part next ih =>
      have text := printed part List.mem_cons_self
      have partRoomy := fun call => roomy call part List.mem_cons_self
      rw [← text] at partRoomy
      cases next with
      | nil =>
          by_cases unknown : part.expectedSize = 0
          · simp [send_unknown begins unknown (partRoomy 0), Deliverable, unknown]
          · have filled : part.content ≠ [] := fun empty => unknown (part.expectedSize_of_empty empty)
            have whole : (multipartSeparator ++ part.headerString) ++ (part.content ++ multipartEnd) =
                hyphens ++ (bellesipMultipartBoundary ++
                    (lineBreak ++ (part.headerText ++ (part.content ++ multipartEnd)))) := by
              rw [text, List.append_assoc, multipartSeparator_append]
            obtain ⟨calls, sent⟩ := send_last begins filled unknown partRoomy
            rw [whole] at sent
            constructor
            · rintro ⟨others, rest, sentOther, follows, _⟩
              have same := List.append_cancel_left (List.append_cancel_left (send_unique sentOther sent))
              rw [same] at follows
              exact ⟨(follows_last filled).mp follows, filled, unknown⟩
            · rintro ⟨readable, _, _⟩
              refine ⟨calls, _, sent, (follows_last filled).mpr readable, ?_⟩
              have total := begins.2.2
              rw [announced, announced, part.expectedSize_eq unknown] at total
              rw [← whole]
              simp only [List.length_append]
              omega
      | cons other next =>
          by_cases empty : part.content = []
          · obtain ⟨after, afterBegins, size, transfered, sends⟩ :=
              send_empty begins (List.cons_ne_nil other next) empty (partRoomy 0)
            have later := ih afterBegins (fun among isPart => printed among (List.mem_cons_of_mem _ isPart))
              fun call among isPart => roomy (call + 1) among (List.mem_cons_of_mem _ isPart)
            have opening : ∀ rest, (multipartSeparator ++ part.headerString) ++ rest =
                hyphens ++ (bellesipMultipartBoundary ++ (lineBreak ++ (part.headerText ++ rest))) := by
              intro rest
              rw [text, List.append_assoc, multipartSeparator_append]
            constructor
            · rintro ⟨calls, rest, sent, follows, total⟩
              cases calls with
              | zero => cases sent
              | succ calls =>
                  rw [sends] at sent
                  obtain ⟨body, sentAfter, whole⟩ := Option.map_eq_some_iff.mp sent
                  obtain ⟨tail, begun⟩ := separator_prefix afterBegins.2.1 sentAfter
                  rw [multipartSeparator_append] at begun
                  rw [opening, ← begun] at whole
                  have same := List.append_cancel_left (List.append_cancel_left whole)
                  rw [← same, List.map_cons, follows_empty empty] at follows
                  rw [← begun] at sentAfter
                  refine ⟨follows.1, empty, later.mp ⟨calls, lineBreak ++ tail, sentAfter, follows.2, ?_⟩⟩
                  rw [← same, ← opening, List.length_append] at total
                  omega
            · rintro ⟨readable, _, deliverable⟩
              obtain ⟨calls, rest, sent, follows, total⟩ := later.mpr deliverable
              refine ⟨calls + 1, lineBreak ++ (part.headerText ++ (hyphens ++ (bellesipMultipartBoundary ++ rest))),
                  ?_, ?_, ?_⟩
              · rw [sends, sent, Option.map_some, opening]
              · rw [List.map_cons]
                exact (follows_empty empty).mpr ⟨readable, follows⟩
              · rw [← opening, List.length_append]
                omega
          · constructor
            · rintro ⟨calls, rest, sent, follows, _⟩
              obtain ⟨tail, whole⟩ := send_nonempty begins (List.cons_ne_nil other next) empty partRoomy sent
              simp only [text, List.append_assoc] at whole
              rw [multipartSeparator_append, multipartSeparator_append] at whole
              have same := List.append_cancel_left (List.append_cancel_left whole)
              rw [← same, List.map_cons] at follows
              exact absurd follows (not_follows_nonempty empty)
            · rintro ⟨_, nothing, _⟩
              exact absurd nothing empty

/-- A handler of printed parts delivers them exactly where they are deliverable. -/
theorem delivers_iff {parts : List PartBodyHandler} {sizes : Nat → Nat}
    (printed : ∀ part ∈ parts, part.headerString = part.headerText) (roomy : Roomy parts sizes) :
    (MultipartBodyHandler.new parts).Delivers (parts.map PartBodyHandler.bodyPart) sizes ↔ Deliverable parts := by
  obtain ⟨begins, unsent⟩ := new_begins parts
  rw [← send_iff begins printed roomy, unsent]
  constructor
  · rintro ⟨calls, body, sent, total, read⟩
    obtain ⟨rest, rfl⟩ := separator_prefix begins.2.1 sent
    rw [multipartSeparator_append] at sent total read
    exact ⟨calls, lineBreak ++ rest, sent, readMultipart_iff.mp read, by rw [Nat.zero_add, total]⟩
  · rintro ⟨calls, rest, sent, follows, total⟩
    rw [Nat.zero_add] at total
    exact ⟨calls, _, sent, total, readMultipart_iff.mpr follows⟩

section Adding

variable {fresh : Nat → UInt8} {passes : Nat} {parts : List PartBodyHandler} {part : PartBodyHandler}

/-- The same part, with its headers in its buffer. -/
structure Printed (part printed : PartBodyHandler) : Prop where
  headers : printed.headers = part.headers
  content : printed.content = part.content
  expectedSize : printed.expectedSize = part.expectedSize
  headerString : printed.headerString = part.headerText

theorem headerText_noTerminator : (0 : UInt8) ∉ part.headerText := by
  have lines : (0 : UInt8) ∉ lineBreak := by decide
  rw [PartBodyHandler.headerText]
  split
  · exact List.not_mem_nil
  · intro among
    rcases List.mem_append.mp among with inside | last
    · rw [headerSection, List.mem_flatMap] at inside
      obtain ⟨text, isText, inside⟩ := inside
      rw [PartBodyHandler.headerTexts, PartBodyHandler.headerList, List.map_map, List.mem_map] at isText
      obtain ⟨header, -, rfl⟩ := isText
      rcases List.mem_append.mp inside with own | ending
      · exact header.property own
      · exact lines ending
    · exact lines last

/-- The part that is added has its headers in its buffer, and all of them have fitted. -/
theorem addPart_spec {obj after : MultipartBodyHandler} (added : addPart fresh passes obj part = .ok (some after)) :
    HeaderLoop.Clear part.headerList ∧
      ∃ printed, Printed part printed ∧ after = obj.append printed printed.headerString.length := by
  rw [addPart] at added
  split at added
  · next bare =>
      have none : part.headerString = [] := by
        rw [PartBodyHandler.headerString, part.bare bare]
        rfl
      cases added
      refine ⟨?_, part, ⟨rfl, rfl, rfl, ?_⟩, ?_⟩
      · rw [PartBodyHandler.headerList, bare, List.map_nil]
        exact HeaderLoop.fits_start.mp trivial
      · rw [none, headerText_nil bare]
      · rw [none]
        rfl
  · next headed =>
      cases filled : HeaderLoop.fill fresh passes part.headerList with
      | error fault =>
          rw [filled] at added
          cases added
      | ok left =>
          cases left with
          | none =>
              rw [filled] at added
              cases added
          | some left =>
              obtain ⟨buffer, offset⟩ := left
              obtain ⟨clear, length, whole⟩ := HeaderLoop.fill_spec filled
              have wanted : HeaderLoop.wanted part.headerList = part.headerText := (headerText_eq headed).symm
              rw [wanted] at length whole
              have text : (buffer.takeWhile (· ≠ 0)) = part.headerText := by
                rw [← List.take_append_drop (part.headerText.length + 1) buffer, whole, List.append_assoc,
                  List.takeWhile_append_of_pos]
                · rw [List.singleton_append, List.takeWhile_cons_of_neg (by simp), List.append_nil]
                · intro byte among
                  simp only [decide_eq_true_eq]
                  intro terminator
                  rw [terminator] at among
                  exact headerText_noTerminator among
              rw [filled] at added
              cases added
              refine ⟨clear, { part with headerStringBuffer := some buffer, bare := fun none => absurd none headed },
                ⟨rfl, rfl, rfl, text⟩, ?_⟩
              rw [length, ← text]
              rfl

/-- A part whose headers fit is added, however many passes are allowed beyond those that its loop makes. -/
theorem addPart_clear (clear : HeaderLoop.Clear part.headerList) :
    ∃ count, ∀ more obj, ∃ after, addPart fresh (count + more) obj part = .ok (some after) := by
  by_cases bare : part.headers = []
  · refine ⟨0, ?_⟩
    intro more obj
    exact ⟨_, by rw [addPart, dif_pos bare]⟩
  · obtain ⟨count, buffer, filled⟩ := @HeaderLoop.fill_clear fresh part.headerList clear
    refine ⟨count, ?_⟩
    intro more obj
    exact ⟨_, by rw [addPart, dif_neg bare, filled more]; rfl⟩

theorem addParts_spec {obj after : MultipartBodyHandler} (added : addParts fresh passes parts obj = .ok (some after)) :
    (∀ part ∈ parts, HeaderLoop.Clear part.headerList) ∧ ∃ printed, List.Forall₂ Printed parts printed ∧
      after = printed.foldl (fun obj part => obj.append part part.headerString.length) obj := by
  induction parts generalizing obj with
  | nil =>
      cases added
      exact ⟨by simp, [], .nil, rfl⟩
  | cons part rest ih =>
      rw [addParts] at added
      cases first : addPart fresh passes obj part with
      | error fault =>
          rw [first] at added
          cases added
      | ok left =>
          rw [first] at added
          cases left with
          | none => cases added
          | some next =>
              obtain ⟨clear, printed, same, rfl⟩ := addPart_spec first
              obtain ⟨clears, others, alike, whole⟩ := ih added
              exact ⟨List.forall_mem_cons.mpr ⟨clear, clears⟩, printed :: others, .cons same alike, whole⟩

theorem addParts_clear (clear : ∀ part ∈ parts, HeaderLoop.Clear part.headerList) :
    ∃ count, ∀ more obj, ∃ after, addParts fresh (count + more) parts obj = .ok (some after) := by
  induction parts with
  | nil => exact ⟨0, fun more obj => ⟨obj, rfl⟩⟩
  | cons part rest ih =>
      obtain ⟨clearPart, clearRest⟩ := List.forall_mem_cons.mp clear
      obtain ⟨first, adds⟩ := @addPart_clear fresh part clearPart
      obtain ⟨count, addsRest⟩ := ih clearRest
      refine ⟨first + count, ?_⟩
      intro more obj
      obtain ⟨next, added⟩ := adds (count + more) obj
      obtain ⟨after, addedRest⟩ := addsRest (first + more) next
      refine ⟨after, ?_⟩
      rw [addParts, Nat.add_assoc, added]
      rw [show count + (first + more) = first + (count + more) by omega] at addedRest
      exact addedRest

variable {printed : List PartBodyHandler} {sizes : Nat → Nat}

theorem Printed.headerTexts {after : PartBodyHandler} (same : Printed part after) :
    after.headerTexts = part.headerTexts := by
  rw [PartBodyHandler.headerTexts, PartBodyHandler.headerList, same.headers]
  rfl

theorem Printed.headerText {after : PartBodyHandler} (same : Printed part after) :
    after.headerText = part.headerText := by
  rw [PartBodyHandler.headerText, same.headers, same.headerTexts]
  rfl

theorem Printed.readable {after : PartBodyHandler} (same : Printed part after) :
    after.Readable ↔ part.Readable := by
  rw [PartBodyHandler.Readable, PartBodyHandler.written, same.headers, same.headerTexts, same.content]
  rfl

theorem printed_bodyParts (same : List.Forall₂ Printed parts printed) :
    printed.map PartBodyHandler.bodyPart = parts.map PartBodyHandler.bodyPart := by
  induction same with
  | nil => rfl
  | cons first _ ih =>
      rw [List.map_cons, List.map_cons, ih, PartBodyHandler.bodyPart, first.headerTexts, first.content]
      rfl

theorem printed_headerString (same : List.Forall₂ Printed parts printed) :
    ∀ part ∈ printed, part.headerString = part.headerText := by
  induction same with
  | nil => simp
  | cons first _ ih => exact List.forall_mem_cons.mpr ⟨first.headerString.trans first.headerText.symm, ih⟩

theorem printed_roomy (same : List.Forall₂ Printed parts printed) (roomy : Roomy parts sizes) :
    Roomy printed sizes := by
  induction same with
  | nil => exact roomy
  | cons first _ ih =>
      intro call part among
      rcases List.mem_cons.mp among with rfl | among
      · rw [first.headerText]
        exact roomy call _ List.mem_cons_self
      · exact ih (fun call part isPart => roomy call part (List.mem_cons_of_mem _ isPart)) call part among

theorem printed_deliverable (same : List.Forall₂ Printed parts printed) :
    Deliverable printed ↔ Deliverable parts := by
  induction same with
  | nil => exact Iff.rfl
  | cons first others ih =>
      cases others with
      | nil => rw [Deliverable, Deliverable, first.readable, first.content, first.expectedSize]
      | cons second more =>
          change _ ∧ _ ∧ Deliverable (_ :: _) ↔ _ ∧ _ ∧ Deliverable (_ :: _)
          rw [first.readable, first.content, ih]

theorem added_delivers {obj : MultipartBodyHandler}
    (added : addParts fresh passes parts MultipartBodyHandler.empty = .ok (some obj)) (roomy : Roomy parts sizes) :
    obj.Delivers (parts.map PartBodyHandler.bodyPart) sizes ↔ Deliverable parts := by
  obtain ⟨-, printed, same, rfl⟩ := addParts_spec added
  rw [← printed_bodyParts same, ← printed_deliverable same]
  exact delivers_iff (printed_headerString same) (printed_roomy same roomy)

end Adding

/-- A multipart body of the announced size is delivered exactly where the headers of each part fit the buffer into which
they are printed, all parts are readable, the last one has a content of known size and no other one has any content. -/
theorem delivered_iff {fresh : Nat → UInt8} {parts : List PartBodyHandler} {sizes : Nat → Nat}
    (roomy : Roomy parts sizes) :
    Delivered fresh parts sizes ↔
      (∀ part ∈ parts, HeaderLoop.Clear part.headerList) ∧ Deliverable parts := by
  constructor
  · rintro ⟨passes, obj, added, delivered⟩
    exact ⟨(addParts_spec added).1, (added_delivers added roomy).mp delivered⟩
  · rintro ⟨clear, deliverable⟩
    obtain ⟨count, adds⟩ := @addParts_clear fresh parts clear
    obtain ⟨obj, added⟩ := adds 0 MultipartBodyHandler.empty
    exact ⟨count, obj, added, (added_delivers added roomy).mpr deliverable⟩

/-- A header that is printed by two calls of `belle_sip_snprintf`. -/
def shortHeader (name value : Bytes) (printable : (0 : UInt8) ∉ [name, value].flatten) : StringHeader :=
  ⟨{ texts := [name, value], named := List.cons_ne_nil _ _ }, printable⟩

/-- A buffer part with the field `A: b` and the given content. -/
def memoryPart (content : Bytes) : PartBodyHandler :=
  memoryBodyHandlerNew [shortHeader [65, 58, 32] [98] (by decide)] content

theorem memoryPart_clear (content : Bytes) : HeaderLoop.Clear (memoryPart content).headerList := by
  refine HeaderLoop.fits_start.mp ⟨by decide, ?_, trivial⟩
  rintro (missing | ⟨text, among, long⟩)
  · cases missing
  · have short : ∀ text ∈ [[65, 58, 32], [98]], List.length (α := UInt8) text < 4 := by decide
    have less := short text among
    omega

theorem memoryParts_roomy {first second : Bytes} :
    Roomy [memoryPart first, memoryPart second] fun _ => 1024 := by
  have room : ∀ content, multipartSeparator.length + (memoryPart content).headerText.length + 1 +
      multipartEnd.length ≤ 1024 := by
    intro content
    show multipartSeparator.length + 8 + 1 + multipartEnd.length ≤ 1024
    decide
  intro call part among
  rcases List.mem_cons.mp among with rfl | among
  · exact room first
  · rw [List.mem_singleton.mp among]
    exact room second

/-- An empty part and one with the content `c` are delivered. -/
theorem delivered_memoryPart :
    Delivered (fun _ => 0) [memoryPart [], memoryPart [99]] fun _ => 1024 := by
  apply (delivered_iff memoryParts_roomy).mpr
  refine ⟨?_, ⟨by decide, by decide, by decide⟩, rfl, ⟨by decide, by decide, by decide⟩, by decide, by decide⟩
  intro part among
  rcases List.mem_cons.mp among with rfl | among
  · exact memoryPart_clear []
  · rw [List.mem_singleton.mp among]
    exact memoryPart_clear [99]

/-- Two parts with the content `c` are not delivered: the delimiter between them has no line break of its own. -/
theorem not_delivered_memoryParts :
    Roomy [memoryPart [99], memoryPart [99]] (fun _ => 1024) ∧
      ¬Delivered (fun _ => 0) [memoryPart [99], memoryPart [99]] fun _ => 1024 := by
  refine ⟨memoryParts_roomy, ?_⟩
  rintro ⟨passes, obj, added, delivered⟩
  obtain ⟨-, empty, -⟩ := (added_delivers added memoryParts_roomy).mp delivered
  cases empty

end BelleSip
