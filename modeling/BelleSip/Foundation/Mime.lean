import BelleSip.Foundation.Segments
import Mathlib.Data.List.TakeWhile

/-
This file develops the reading of a multipart body after RFC 2046.
-/

namespace Foundation.Mime

abbrev Bytes := List UInt8

def lineBreak : Bytes := [13, 10]

def hyphens : Bytes := [45, 45]

/-- The line break before a boundary line belongs to its delimiter. -/
def delimiter (boundary : Bytes) : Bytes := lineBreak ++ (hyphens ++ boundary)

structure BodyPart where
  headers : List Bytes
  content : Bytes
deriving DecidableEq, Repr

def isBlank (byte : UInt8) : Bool := byte = 32 || byte = 9

/-- A line that begins with a blank continues the field of the line before. -/
def continues (line : Bytes) : Bool := line.head?.any isBlank

/-- The fields of the lines of a header section. -/
def gather : List Bytes → List Bytes
  | [] => []
  | line :: rest =>
      match gather rest with
      | field :: fields =>
          if continues field then (line ++ (lineBreak ++ field)) :: fields else line :: field :: fields
      | [] => [line]

/-- The header section ends at the first empty line, and no field begins with a blank. -/
def readBodyPart (bytes : Bytes) : Option BodyPart :=
  let lines := segments lineBreak bytes
  let headerLines := lines.takeWhile (· ≠ [])
  if headerLines.length = lines.length then none
  else if (gather headerLines).any continues then none
  else some { headers := gather headerLines, content := lineBreak.intercalate (lines.drop (headerLines.length + 1)) }

/-- The rest of a boundary line is blank. -/
def skipPadding (piece : Bytes) : Option Bytes :=
  let rest := piece.dropWhile isBlank
  if lineBreak <+: rest then some (rest.drop lineBreak.length) else none

/-- The parts between the delimiters; what stands behind the closing delimiter is not read. -/
def readBodyParts : List Bytes → Option (List BodyPart)
  | [] => none
  | piece :: pieces =>
      if hyphens <+: piece then some []
      else do
        let bytes ← skipPadding piece
        let part ← readBodyPart bytes
        let parts ← readBodyParts pieces
        return part :: parts

/-- What stands before the first delimiter is not read; the body may begin with its boundary line. -/
def readMultipart (boundary body : Bytes) : Option (List BodyPart) :=
  readBodyParts (segments (delimiter boundary) (lineBreak ++ body)).tail

/-- The first line of the text begins a field, and its other lines continue it. -/
def isField (text : Bytes) : Bool :=
  (segments lineBreak text).head?.any (fun line => line ≠ [] && !continues line) &&
    (segments lineBreak text).tail.all continues

def headerSection (headers : List Bytes) : Bytes := headers.flatMap (· ++ lineBreak)

theorem lineBreak_ne_nil : lineBreak ≠ [] := List.cons_ne_nil 13 [10]

theorem lineBreak_borderless : Borderless lineBreak := ⟨13, [10], rfl, by decide⟩

theorem delimiter_ne_nil (boundary : Bytes) : delimiter boundary ≠ [] := List.cons_ne_nil 13 _

theorem delimiter_borderless {boundary : Bytes} (oneLine : 13 ∉ boundary) : Borderless (delimiter boundary) := by
  refine ⟨13, 10 :: 45 :: 45 :: boundary, rfl, ?_⟩
  simpa using oneLine

@[simp] theorem headerSection_nil : headerSection [] = [] := rfl

@[simp] theorem headerSection_cons (header : Bytes) (headers : List Bytes) :
    headerSection (header :: headers) = header ++ (lineBreak ++ headerSection headers) := by
  rw [headerSection, List.flatMap_cons, List.append_assoc, headerSection]

theorem continues_append {line : Bytes} (written : line ≠ []) (rest : Bytes) :
    continues (line ++ rest) = continues line := by
  obtain ⟨byte, line, rfl⟩ := List.exists_cons_of_ne_nil written
  rfl

theorem ne_nil_of_continues {line : Bytes} (blank : continues line = true) : line ≠ [] := by
  intro empty
  rw [empty] at blank
  cases blank

theorem isField_iff {text : Bytes} :
    isField text = true ↔ ∃ line folded, segments lineBreak text = line :: folded ∧ line ≠ [] ∧ continues line = false ∧
      ∀ next ∈ folded, continues next = true := by
  obtain ⟨line, folded, cut⟩ := List.exists_cons_of_ne_nil (segments_ne_nil lineBreak_ne_nil text)
  simp [isField, cut, and_assoc]

/-- The lines of a text begin with those bytes with which the text begins. -/
theorem continues_of_segments {text line : Bytes} {folded : List Bytes} (cut : segments lineBreak text = line :: folded)
    (written : line ≠ []) : continues text = continues line := by
  have whole := intercalate_segments lineBreak_ne_nil text
  rw [cut] at whole
  cases folded with
  | nil => rw [← whole, List.intercalate_singleton]
  | cons next folded => rw [← whole, List.intercalate_cons_cons, List.append_assoc, continues_append written]

/-- The lines of one field are gathered into it when the next line begins another field. -/
theorem gather_lines (line : Bytes) {folded lines : List Bytes} (blank : ∀ next ∈ folded, continues next = true)
    (apart : ∀ field ∈ gather lines, continues field = false) :
    gather (line :: (folded ++ lines)) = lineBreak.intercalate (line :: folded) :: gather lines := by
  induction folded generalizing line with
  | nil =>
      rw [List.nil_append, gather, List.intercalate_singleton]
      cases gathered : gather lines with
      | nil => rfl
      | cons field fields =>
          have first := apart field (by rw [gathered]; exact List.mem_cons_self)
          simp [first]
  | cons next folded ih =>
      have begins := blank next List.mem_cons_self
      have rest := ih next fun other among => blank other (List.mem_cons_of_mem _ among)
      have continued : continues (lineBreak.intercalate (next :: folded)) = true := by
        cases folded with
        | nil => rwa [List.intercalate_singleton]
        | cons other folded =>
            rw [List.intercalate_cons_cons, List.append_assoc, continues_append (ne_nil_of_continues begins), begins]
      rw [List.cons_append, gather, rest]
      simp [continued]

theorem gather_fields {headers : List Bytes} (fields : ∀ header ∈ headers, isField header = true) :
    gather (headers.flatMap (segments lineBreak)) = headers := by
  induction headers with
  | nil => rfl
  | cons header headers ih =>
      have rest := ih fun other among => fields other (List.mem_cons_of_mem _ among)
      obtain ⟨line, folded, cut, written, begins, blank⟩ := isField_iff.mp (fields header List.mem_cons_self)
      have apart : ∀ field ∈ gather (headers.flatMap (segments lineBreak)), continues field = false := by
        intro field among
        rw [rest] at among
        obtain ⟨line, folded, cut, written, begins, blank⟩ :=
          isField_iff.mp (fields field (List.mem_cons_of_mem _ among))
        rw [continues_of_segments cut written, begins]
      rw [List.flatMap_cons, cut, List.cons_append, gather_lines line blank apart, rest, ← cut,
        intercalate_segments lineBreak_ne_nil]

/-- The gathered fields have the bytes of the lines; each of them begins with a line and goes on with lines that
continue it. -/
theorem gather_spec {lines : List Bytes} (lines' : ∀ line ∈ lines, line ≠ [] ∧ ¬lineBreak <:+: line) :
    headerSection (gather lines) = headerSection lines ∧
      ∀ field ∈ gather lines, continues field = false → isField field = true := by
  have shape : headerSection (gather lines) = headerSection lines ∧
      ∀ field ∈ gather lines, ∃ line folded, segments lineBreak field = line :: folded ∧ line ≠ [] ∧
        ∀ next ∈ folded, continues next = true := by
    induction lines with
    | nil => simp [gather]
    | cons line lines ih =>
        obtain ⟨written, oneLine⟩ := lines' line List.mem_cons_self
        obtain ⟨bytes, shapes⟩ := ih fun other among => lines' other (List.mem_cons_of_mem _ among)
        have alone := segments_eq_singleton oneLine
        rw [gather]
        cases gathered : gather lines with
        | nil =>
            rw [gathered] at bytes
            refine ⟨by simp [← bytes], ?_⟩
            intro field among
            rw [List.mem_singleton] at among
            rw [among]
            exact ⟨line, [], alone, written, by simp⟩
        | cons field fields =>
            rw [gathered] at bytes shapes
            obtain ⟨first, folded, cut, firstWritten, blank⟩ := shapes field List.mem_cons_self
            by_cases continued : continues field = true
            · simp only [if_pos continued]
              refine ⟨by simp [← bytes], ?_⟩
              intro other among
              rcases List.mem_cons.mp among with rfl | among
              · refine ⟨line, first :: folded, ?_, written, ?_⟩
                · rw [segments_append lineBreak_borderless, alone, cut, List.singleton_append]
                · intro next among
                  rcases List.mem_cons.mp among with rfl | among
                  · rwa [← continues_of_segments cut firstWritten]
                  · exact blank next among
              · exact shapes other (List.mem_cons_of_mem _ among)
            · simp only [if_neg continued]
              refine ⟨by simp [← bytes], ?_⟩
              intro other among
              rcases List.mem_cons.mp among with rfl | among
              · exact ⟨other, [], alone, written, by simp⟩
              · exact shapes other among
  refine ⟨shape.1, ?_⟩
  intro field among begins
  obtain ⟨line, folded, cut, written, blank⟩ := shape.2 field among
  exact isField_iff.mpr ⟨line, folded, cut, written, by rw [← continues_of_segments cut written, begins], blank⟩

theorem segments_headerSection (headers : List Bytes) (rest : Bytes) :
    segments lineBreak (headerSection headers ++ rest) =
        headers.flatMap (segments lineBreak) ++ segments lineBreak rest := by
  induction headers with
  | nil => rfl
  | cons header headers ih =>
      rw [headerSection_cons, List.append_assoc, List.append_assoc, segments_append lineBreak_borderless, ih,
        List.flatMap_cons, List.append_assoc]

/-- A header section is read up to the empty line that ends it. -/
theorem readBodyPart_headerSection {headers : List Bytes} (fields : ∀ header ∈ headers, isField header = true)
    {rest : Bytes} {lines : List Bytes} (ended : segments lineBreak rest = [] :: lines) :
    readBodyPart (headerSection headers ++ rest) =
      some { headers := headers, content := lineBreak.intercalate lines } := by
  have written : ∀ line ∈ headers.flatMap (segments lineBreak), line ≠ [] := by
    intro line among
    obtain ⟨header, isHeader, among⟩ := List.mem_flatMap.mp among
    obtain ⟨first, folded, cut, firstWritten, begins, blank⟩ := isField_iff.mp (fields header isHeader)
    rw [cut] at among
    rcases List.mem_cons.mp among with rfl | among
    · exact firstWritten
    · exact ne_nil_of_continues (blank line among)
  have headerLines : ((headers.flatMap (segments lineBreak)) ++ [] :: lines).takeWhile (· ≠ []) =
      headers.flatMap (segments lineBreak) := by
    rw [List.takeWhile_append_of_pos (by simpa using written)]
    simp
  have begins : ∀ header ∈ headers, continues header = false := by
    intro header among
    obtain ⟨first, folded, cut, firstWritten, begins, blank⟩ := isField_iff.mp (fields header among)
    rw [continues_of_segments cut firstWritten, begins]
  simp only [readBodyPart, segments_headerSection, ended, headerLines, gather_fields fields]
  rw [if_neg (by simp), if_neg (by simpa using begins), List.drop_length_add_append, List.drop_succ_cons,
    List.drop_zero]

theorem intercalate_headerLines (headerLines : List Bytes) (line : Bytes) (lines : List Bytes) :
    lineBreak.intercalate (headerLines ++ line :: lines) =
        headerSection headerLines ++ lineBreak.intercalate (line :: lines) := by
  induction headerLines with
  | nil => rfl
  | cons header headerLines ih =>
      rw [List.cons_append, List.intercalate_cons_of_ne_nil (by simp), ih, headerSection_cons]
      simp only [List.append_assoc]

/-- What is read as a part is its header section and its content, with an empty line between them. -/
theorem readBodyPart_eq_some {bytes : Bytes} {part : BodyPart} (read : readBodyPart bytes = some part) :
    (∀ header ∈ part.headers, isField header = true) ∧
      (bytes = headerSection part.headers ++ (lineBreak ++ part.content) ∨
        bytes = headerSection part.headers ∧ part.content = []) := by
  have whole := intercalate_segments lineBreak_ne_nil bytes
  have oneLine : ∀ line ∈ segments lineBreak bytes, ¬lineBreak <:+: line := by
    intro line among
    exact not_infix_of_mem_segments lineBreak_ne_nil among
  rw [readBodyPart] at read
  generalize segments lineBreak bytes = lines at read whole oneLine
  generalize cutAt : lines.takeWhile (· ≠ []) = headerLines at read
  have joined := List.takeWhile_append_dropWhile (p := fun line : Bytes => decide (line ≠ [])) (l := lines)
  have written : ∀ line ∈ headerLines, line ≠ [] ∧ ¬lineBreak <:+: line := by
    intro line among
    rw [← cutAt] at among
    exact ⟨by simpa using List.mem_takeWhile_imp among, oneLine line (List.takeWhile_subset _ among)⟩
  obtain ⟨bytes', fields⟩ := gather_spec written
  rw [cutAt] at joined
  cases ended : lines.dropWhile (· ≠ []) with
  | nil =>
      rw [ended, List.append_nil] at joined
      rw [if_pos (by rw [joined])] at read
      cases read
  | cons line rest =>
      have empty : line = [] := by
        have first := List.head?_dropWhile_not (fun line : Bytes => decide (line ≠ [])) lines
        rw [ended] at first
        simpa using first
      rw [ended, empty] at joined
      simp only [← joined] at read
      split at read
      · cases read
      · split at read
        · cases read
        · next single begins =>
            have part' := Option.some.inj read
            have begins' : ∀ field ∈ gather headerLines, continues field = false := by simpa using begins
            rw [← part', ← whole, ← joined, intercalate_headerLines, ← bytes']
            refine ⟨fun field among => fields field among (begins' field among), ?_⟩
            cases rest with
            | nil => simp
            | cons next rest => simp

/-- What the reader takes for a part stands behind a blank rest of the boundary line. -/
theorem readBodyParts_eq_some {pieces : List Bytes} {part : BodyPart} {parts : List BodyPart}
    (read : readBodyParts pieces = some (part :: parts)) :
    ∃ padding bytes rest, pieces = (padding ++ (lineBreak ++ bytes)) :: rest ∧ (∀ byte ∈ padding, isBlank byte = true) ∧
      readBodyPart bytes = some part ∧ readBodyParts rest = some parts := by
  cases pieces with
  | nil => cases read
  | cons piece pieces =>
      rw [readBodyParts] at read
      split at read
      · cases read
      · simp only [bind, Option.bind_eq_some_iff, pure, Option.some.injEq, List.cons.injEq, skipPadding] at read
        obtain ⟨bytes, skipped, one, readOne, others, readOthers, rfl, rfl⟩ := read
        split at skipped
        · next begins =>
            obtain ⟨after, same⟩ := begins
            have joined := List.takeWhile_append_dropWhile (p := isBlank) (l := piece)
            rw [← same] at joined skipped
            rw [List.drop_left] at skipped
            rw [← Option.some.inj skipped] at readOne
            refine ⟨piece.takeWhile isBlank, after, pieces, by rw [joined], ?_, readOne, readOthers⟩
            intro byte among
            exact List.mem_takeWhile_imp among
        · cases skipped

/-- These bytes follow a boundary, and the reader takes them for the parts. -/
def Follows (boundary bytes : Bytes) (parts : List BodyPart) : Prop :=
  readBodyParts (segments (delimiter boundary) bytes) = some parts

theorem readMultipart_iff {boundary rest : Bytes} {parts : List BodyPart} :
    readMultipart boundary (hyphens ++ (boundary ++ rest)) = some parts ↔ Follows boundary rest parts := by
  have begins : lineBreak ++ (hyphens ++ (boundary ++ rest)) = delimiter boundary ++ rest := by
    simp only [delimiter, List.append_assoc]
  rw [readMultipart, begins, segments_mark (delimiter_ne_nil boundary), List.tail_cons, Follows]

/-- The closing delimiter is a boundary and two hyphens. -/
theorem follows_close (boundary : Bytes) : Follows boundary (hyphens ++ lineBreak) [] := by
  have absent : ¬delimiter boundary <:+: hyphens ++ lineBreak := by
    intro stands
    have longer : (hyphens ++ lineBreak).length ≤ (delimiter boundary).length := by
      simp only [delimiter, List.length_append]
      omega
    have same := stands.eq_of_length_le longer
    cases same
  rw [Follows, segments_eq_singleton absent]
  rfl

/-- A part that is read and that holds no delimiter is followed by the others. -/
theorem follows_cons {boundary bytes rest : Bytes} {part : BodyPart} {parts : List BodyPart} (oneLine : 13 ∉ boundary)
    (absent : ¬delimiter boundary <:+: lineBreak ++ bytes) (read : readBodyPart bytes = some part)
    (others : Follows boundary rest parts) :
    Follows boundary (lineBreak ++ (bytes ++ (delimiter boundary ++ rest))) (part :: parts) := by
  rw [Follows] at others ⊢
  rw [← List.append_assoc, segments_append (delimiter_borderless oneLine), segments_eq_singleton absent,
    List.singleton_append, readBodyParts, others]
  have skipped : skipPadding (lineBreak ++ bytes) = some bytes := by
    simp [skipPadding, lineBreak, isBlank]
  rw [skipped, if_neg (by simp [lineBreak, hyphens, List.cons_prefix_cons])]
  simp [read]

/-- The bytes after a boundary line begin with the part that the reader takes from them. -/
theorem Follows.cons {boundary bytes : Bytes} {part : BodyPart} {parts : List BodyPart}
    (follows : Follows boundary (lineBreak ++ bytes) (part :: parts)) :
    ∃ one rest, bytes = one ++ (delimiter boundary ++ rest) ∧ ¬delimiter boundary <:+: lineBreak ++ one ∧
      readBodyPart one = some part ∧ Follows boundary rest parts := by
  rw [Follows] at follows
  obtain ⟨padding, one, pieces, cut, blank, readOne, readOthers⟩ := readBodyParts_eq_some follows
  have more : pieces ≠ [] := by
    intro none
    rw [none] at readOthers
    cases readOthers
  obtain ⟨rest, whole, after⟩ := segments_eq_cons (delimiter_ne_nil boundary) cut more
  have noPadding : padding = [] := by
    cases padding with
    | nil => rfl
    | cons byte padding =>
        have first : byte = 13 := (List.cons.inj whole).1.symm
        have isBlank := blank byte List.mem_cons_self
        rw [first] at isBlank
        cases isBlank
  subst noPadding
  have absent : ¬delimiter boundary <:+: lineBreak ++ one := by
    apply not_infix_of_mem_segments (delimiter_ne_nil boundary)
    rw [cut]
    exact List.mem_cons_self
  refine ⟨one, rest, ?_, absent, readOne, by rw [Follows, after, readOthers]⟩
  rw [List.nil_append, List.append_assoc] at whole
  exact List.append_cancel_left whole

end Foundation.Mime
