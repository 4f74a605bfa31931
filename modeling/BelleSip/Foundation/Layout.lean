import BelleSip.Foundation.Codec

/-
This file develops texts of tagged lines, whose sections are required, optional or repeated.
-/

namespace Foundation

/-- A line `tag=value`. -/
abbrev TaggedLine := Char × List Char

/-- The lines do not go on with one of the tags. -/
def Avoids (tags : List Char) (lines : List TaggedLine) : Prop := ∀ line ∈ lines.head?, line.1 ∉ tags

def disjoint (tags others : List Char) : Bool := tags.all (!others.contains ·)

theorem not_mem_of_disjoint {tags others : List Char} (apart : disjoint tags others = true) {tag : Char}
    (among : tag ∈ tags) : tag ∉ others := by
  have absent := List.all_eq_true.mp apart tag among
  simpa using absent

/-- A writer and a reader of the first lines of a text. Its lines begin with the tags `first`, and it ends before the
lines that do not go on with the tags `stop`. -/
structure Layout (α : Type) where
  first : List Char
  stop : List Char
  nullable : Bool
  write : α → List TaggedLine
  read : List TaggedLine → Option (α × List TaggedLine)
  Fits : α → Prop
  begins : ∀ value, ∀ line ∈ (write value).head?, line.1 ∈ first
  filled : ∀ value, write value = [] → nullable = true
  read_write : ∀ value rest, Fits value → Avoids stop rest → read (write value ++ rest) = some (value, rest)
  fits : ∀ lines value rest, read lines = some (value, rest) → Fits value
  oneLine : ∀ value, Fits value → ∀ line ∈ write value, '\r' ∉ line.1 :: line.2

theorem Avoids.of_subset {tags others : List Char} {lines : List TaggedLine} (avoids : Avoids others lines)
    (subset : tags ⊆ others) : Avoids tags lines :=
  fun line head among => avoids line head (subset among)

theorem avoids_nil (tags : List Char) : Avoids tags [] := fun _ head => absurd head (Option.not_mem_none _)

namespace Layout

variable {α β : Type}

/-- What is written avoids the tags with which it does not begin, when what follows it avoids them. -/
theorem avoids_write (layout : Layout α) {tags : List Char} (apart : disjoint tags layout.first = true)
    {rest : List TaggedLine} (follows : layout.nullable = true → Avoids tags rest) (value : α) :
    Avoids tags (layout.write value ++ rest) := by
  intro line head among
  cases same : layout.write value with
  | nil =>
      rw [same, List.nil_append] at head
      exact follows (layout.filled value same) line head among
  | cons first others =>
      rw [same, List.cons_append, List.head?_cons] at head
      apply not_mem_of_disjoint apart among
      apply layout.begins value
      rw [same, List.head?_cons]
      exact head

/-- A required line. -/
def readOne (tag : Char) (codec : Codec α) : List TaggedLine → Option (α × List TaggedLine)
  | [] => none
  | line :: rest => if line.1 = tag then (codec.read line.2).map fun value => (value, rest) else none

def one (tag : Char) (codec : Codec α) (plainTag : tag ≠ '\r' := by decide)
    (plain : codec.alphabet '\r' = false := by decide) : Layout α where
  first := [tag]
  stop := []
  nullable := false
  write value := [(tag, codec.write value)]
  read := readOne tag codec
  Fits := codec.Fits
  begins value line head := by
    rw [List.head?_cons, Option.mem_some_iff] at head
    rw [← head]
    exact List.mem_cons_self
  filled value empty := absurd empty (List.cons_ne_nil _ _)
  read_write value rest fits _ := by
    rw [List.singleton_append, readOne, if_pos rfl, codec.read_write value fits, Option.map_some]
  fits lines value rest read := by
    cases lines with
    | nil => cases read
    | cons line lines =>
        rw [readOne] at read
        split at read
        · obtain ⟨found, readFound, same⟩ := Option.map_eq_some_iff.mp read
          rw [← (Prod.mk.inj same).1]
          exact codec.fits line.2 found readFound
        · cases read
  oneLine value fits line among := by
    rw [List.mem_singleton.mp among]
    intro stands
    rcases List.mem_cons.mp stands with same | stands
    · exact plainTag same.symm
    · exact codec.absent_of_fits plain fits stands

/-- A line that no value holds is skipped. -/
def readSkip (tag : Char) : List TaggedLine → Option (Unit × List TaggedLine)
  | [] => some ((), [])
  | line :: rest => some ((), if line.1 = tag then rest else line :: rest)

def skip (tag : Char) : Layout Unit where
  first := []
  stop := [tag]
  nullable := true
  write _ := []
  read := readSkip tag
  Fits _ := True
  begins _ line head := absurd head (Option.not_mem_none line)
  filled _ _ := rfl
  read_write value rest _ avoids := by
    rw [List.nil_append]
    cases rest with
    | nil => rfl
    | cons line rest =>
        have other : line.1 ≠ tag := fun same => avoids line rfl (same ▸ List.mem_cons_self)
        rw [readSkip, if_neg other]
  fits _ _ _ _ := trivial
  oneLine _ _ line among := absurd among List.not_mem_nil

def readThen (left : Layout α) (right : Layout β) (lines : List TaggedLine) :
    Option ((α × β) × List TaggedLine) := do
  let head ← left.read lines
  let tail ← right.read head.2
  return ((head.1, tail.1), tail.2)

/-- Two sections. -/
def followedBy (left : Layout α) (right : Layout β) (apart : disjoint left.stop right.first = true := by decide) :
    Layout (α × β) where
  first := left.first ++ if left.nullable then right.first else []
  stop := right.stop ++ if right.nullable then left.stop else []
  nullable := left.nullable && right.nullable
  write values := left.write values.1 ++ right.write values.2
  read := readThen left right
  Fits values := left.Fits values.1 ∧ right.Fits values.2
  begins values line head := by
    rw [List.head?_append, Option.mem_def, Option.or_eq_some_iff] at head
    rcases head with head | ⟨empty, head⟩
    · exact List.mem_append_left _ (left.begins values.1 line head)
    · rw [left.filled values.1 (List.head?_eq_none_iff.mp empty), if_pos rfl]
      exact List.mem_append_right _ (right.begins values.2 line head)
  filled values empty := by
    obtain ⟨first, second⟩ := List.append_eq_nil_iff.mp empty
    rw [left.filled values.1 first, right.filled values.2 second, Bool.and_self]
  read_write values rest fits avoids := by
    have stops : Avoids left.stop (right.write values.2 ++ rest) := by
      apply right.avoids_write apart
      intro nullable
      rw [if_pos nullable] at avoids
      exact avoids.of_subset (List.subset_append_right _ _)
    have second := right.read_write values.2 rest fits.2 (avoids.of_subset (List.subset_append_left _ _))
    rw [readThen, List.append_assoc, left.read_write values.1 _ fits.1 stops]
    simp [second]
  fits lines values rest read := by
    simp only [readThen, Option.pure_def, Option.bind_eq_bind, Option.bind_eq_some_iff, Option.some.injEq,
      Prod.mk.injEq] at read
    obtain ⟨head, readHead, tail, readTail, rfl, rfl⟩ := read
    exact ⟨left.fits lines head.1 head.2 readHead, right.fits head.2 tail.1 tail.2 readTail⟩
  oneLine values fits line among := by
    rcases List.mem_append.mp among with first | second
    · exact left.oneLine values.1 fits.1 line first
    · exact right.oneLine values.2 fits.2 line second

def goesOn (layout : Layout α) (lines : List TaggedLine) : Bool := lines.head?.any (layout.first.contains ·.1)

def readOptional (layout : Layout α) (lines : List TaggedLine) : Option (Option α × List TaggedLine) :=
  if layout.goesOn lines then (layout.read lines).map fun found => (some found.1, found.2) else some (none, lines)

theorem goesOn_write (layout : Layout α) (required : layout.nullable = false) (value : α) (rest : List TaggedLine) :
    layout.goesOn (layout.write value ++ rest) = true := by
  cases same : layout.write value with
  | nil =>
      have nullable := layout.filled value same
      rw [required] at nullable
      exact absurd nullable Bool.false_ne_true
  | cons line others =>
      have begins := layout.begins value line (by rw [same, List.head?_cons]; rfl)
      simpa [goesOn] using begins

theorem goesOn_avoids (layout : Layout α) {lines : List TaggedLine} (avoids : Avoids layout.first lines) :
    layout.goesOn lines = false := by
  cases lines with
  | nil => rfl
  | cons line lines =>
      have other := avoids line rfl
      simpa [goesOn] using other

/-- A section that may be left out. -/
def optional (layout : Layout α) (required : layout.nullable = false := by decide) : Layout (Option α) where
  first := layout.first
  stop := layout.stop ++ layout.first
  nullable := true
  write value := value.elim [] layout.write
  read := readOptional layout
  Fits value := ∀ held ∈ value, layout.Fits held
  begins value line head := by
    cases value with
    | none => exact absurd head (Option.not_mem_none line)
    | some held => exact layout.begins held line head
  filled _ _ := rfl
  read_write value rest fits avoids := by
    cases value with
    | none =>
        rw [Option.elim_none, List.nil_append, readOptional,
          layout.goesOn_avoids (avoids.of_subset (List.subset_append_right _ _)), if_neg Bool.false_ne_true]
    | some held =>
        rw [Option.elim_some, readOptional, layout.goesOn_write required, if_pos rfl,
          layout.read_write held rest (fits held rfl) (avoids.of_subset (List.subset_append_left _ _)), Option.map_some]
  fits lines value rest read := by
    rw [readOptional] at read
    split at read
    · obtain ⟨found, readFound, same⟩ := Option.map_eq_some_iff.mp read
      obtain ⟨rfl, rfl⟩ := Prod.mk.inj same
      intro held same
      rw [← Option.some.inj same]
      exact layout.fits lines found.1 found.2 readFound
    · obtain ⟨rfl, rfl⟩ := Prod.mk.inj (Option.some.inj read)
      exact fun held absent => absurd absent (Option.not_mem_none held)
  oneLine value fits line among := by
    cases value with
    | none => exact absurd among List.not_mem_nil
    | some held => exact layout.oneLine held (fits held rfl) line among

/-- The sections, as many as there are, with at most as many as the lines. -/
def readMany (layout : Layout α) : Nat → List TaggedLine → Option (List α × List TaggedLine)
  | 0, lines => some ([], lines)
  | bound + 1, lines =>
      if layout.goesOn lines then do
        let head ← layout.read lines
        let tail ← readMany layout bound head.2
        return (head.1 :: tail.1, tail.2)
      else some ([], lines)

theorem avoids_flatMap (layout : Layout α) (again : disjoint layout.stop layout.first = true) {values : List α}
    {rest : List TaggedLine} (avoids : Avoids layout.stop rest) :
    Avoids layout.stop (values.flatMap layout.write ++ rest) := by
  induction values with
  | nil => exact avoids
  | cons value values ih =>
      rw [List.flatMap_cons, List.append_assoc]
      exact layout.avoids_write again (fun _ => ih) value

theorem readMany_write (layout : Layout α) (required : layout.nullable = false)
    (again : disjoint layout.stop layout.first = true) {values : List α} {rest : List TaggedLine}
    (fits : ∀ value ∈ values, layout.Fits value) (stops : Avoids layout.stop rest)
    (ends : Avoids layout.first rest) {bound : Nat} (enough : values.length ≤ bound) :
    readMany layout bound (values.flatMap layout.write ++ rest) = some (values, rest) := by
  induction values generalizing bound with
  | nil =>
      rw [List.flatMap_nil, List.nil_append]
      cases bound with
      | zero => rfl
      | succ bound => rw [readMany, layout.goesOn_avoids ends, if_neg Bool.false_ne_true]
  | cons value values ih =>
      rw [List.length_cons] at enough
      obtain ⟨bound, rfl⟩ : ∃ smaller, bound = smaller + 1 := ⟨bound - 1, by omega⟩
      have others : readMany layout bound (values.flatMap layout.write ++ rest) = some (values, rest) :=
        ih (fun other among => fits other (List.mem_cons_of_mem _ among)) (by omega)
      have first := layout.read_write value (values.flatMap layout.write ++ rest) (fits value List.mem_cons_self)
        (layout.avoids_flatMap again stops)
      rw [List.flatMap_cons, List.append_assoc, readMany, layout.goesOn_write required, if_pos rfl, first]
      simp [others]

theorem readMany_fits (layout : Layout α) {bound : Nat} {lines rest : List TaggedLine} {values : List α}
    (read : readMany layout bound lines = some (values, rest)) : ∀ value ∈ values, layout.Fits value := by
  have none : ∀ value ∈ ([] : List α), layout.Fits value := fun _ among => absurd among List.not_mem_nil
  induction bound generalizing lines values with
  | zero =>
      rw [readMany] at read
      obtain ⟨rfl, -⟩ := Prod.mk.inj (Option.some.inj read)
      exact none
  | succ bound ih =>
      rw [readMany] at read
      split at read
      · simp only [Option.pure_def, Option.bind_eq_bind, Option.bind_eq_some_iff, Option.some.injEq,
          Prod.mk.injEq] at read
        obtain ⟨head, readHead, ⟨others, last⟩, readTail, rfl, rfl⟩ := read
        intro value among
        rcases List.mem_cons.mp among with rfl | among
        · exact layout.fits lines head.1 head.2 readHead
        · exact ih readTail value among
      · obtain ⟨rfl, -⟩ := Prod.mk.inj (Option.some.inj read)
        exact none

theorem length_le_flatMap (layout : Layout α) (required : layout.nullable = false) (values : List α) :
    values.length ≤ (values.flatMap layout.write).length := by
  induction values with
  | nil => exact Nat.le_refl 0
  | cons value values ih =>
      have written : layout.write value ≠ [] := by
        intro empty
        have nullable := layout.filled value empty
        rw [required] at nullable
        exact absurd nullable Bool.false_ne_true
      have positive := List.length_pos_iff.mpr written
      rw [List.flatMap_cons, List.length_cons, List.length_append]
      omega

/-- A section that is repeated. -/
def many (layout : Layout α) (required : layout.nullable = false := by decide)
    (again : disjoint layout.stop layout.first = true := by decide) : Layout (List α) where
  first := layout.first
  stop := layout.stop ++ layout.first
  nullable := true
  write values := values.flatMap layout.write
  read lines := readMany layout lines.length lines
  Fits values := ∀ value ∈ values, layout.Fits value
  begins values line head := by
    cases values with
    | nil => exact absurd head (Option.not_mem_none line)
    | cons value values =>
        rw [List.flatMap_cons, List.head?_append, Option.mem_def, Option.or_eq_some_iff] at head
        rcases head with head | ⟨empty, -⟩
        · exact layout.begins value line head
        · have nullable := layout.filled value (List.head?_eq_none_iff.mp empty)
          rw [required] at nullable
          exact absurd nullable Bool.false_ne_true
  filled _ _ := rfl
  read_write values rest fits avoids := by
    apply layout.readMany_write required again fits (avoids.of_subset (List.subset_append_left _ _))
      (avoids.of_subset (List.subset_append_right _ _))
    have enough := layout.length_le_flatMap required values
    rw [List.length_append]
    omega
  fits _ _ _ := layout.readMany_fits
  oneLine values fits line among := by
    obtain ⟨value, member, among⟩ := List.mem_flatMap.mp among
    exact layout.oneLine value (fits value member) line among

/-- The values with a property. -/
def filter (layout : Layout α) (property : α → Bool) : Layout α where
  first := layout.first
  stop := layout.stop
  nullable := layout.nullable
  write := layout.write
  read lines := (layout.read lines).filter (property ·.1)
  Fits value := layout.Fits value ∧ property value = true
  begins := layout.begins
  filled := layout.filled
  read_write value rest fits avoids := by
    rw [layout.read_write value rest fits.1 avoids]
    exact Option.filter_some_pos fits.2
  fits lines value rest read := by
    obtain ⟨found, holds⟩ := Option.filter_eq_some_iff.mp read
    exact ⟨layout.fits lines value rest found, holds⟩
  oneLine value fits := layout.oneLine value fits.1

/-- Values that stand for other values. -/
def imap (layout : Layout β) (into : α → β) (back : β → α) (left : ∀ value, back (into value) = value)
    (right : ∀ other, into (back other) = other) : Layout α where
  first := layout.first
  stop := layout.stop
  nullable := layout.nullable
  write value := layout.write (into value)
  read lines := (layout.read lines).map fun found => (back found.1, found.2)
  Fits value := layout.Fits (into value)
  begins value := layout.begins (into value)
  filled value := layout.filled (into value)
  read_write value rest fits avoids := by
    rw [layout.read_write _ rest fits avoids, Option.map_some, left]
  fits lines value rest read := by
    obtain ⟨found, readFound, same⟩ := Option.map_eq_some_iff.mp read
    obtain ⟨rfl, rfl⟩ := Prod.mk.inj same
    rw [right]
    exact layout.fits lines found.1 found.2 readFound
  oneLine value fits := layout.oneLine (into value) fits

def lineBreak : List Char := ['\r', '\n']

def lineText (line : TaggedLine) : List Char := line.1 :: '=' :: line.2

/-- The text of lines, each with its line break. -/
def linesText (lines : List TaggedLine) : List Char := lines.flatMap (lineText · ++ lineBreak)

def readLine : List Char → Option TaggedLine
  | tag :: '=' :: value => some (tag, value)
  | _ => none

/-- The lines of a text whose last line has its line break. -/
def readPieces : List (List Char) → Option (List TaggedLine)
  | [] => none
  | [last] => if last = [] then some [] else none
  | piece :: pieces => do
      let line ← readLine piece
      let lines ← readPieces pieces
      return line :: lines

def readLines (text : List Char) : Option (List TaggedLine) := readPieces (segments lineBreak text)

theorem lineBreak_borderless : Borderless lineBreak := ⟨'\r', ['\n'], rfl, by decide⟩

theorem segments_line {line : TaggedLine} (plain : '\r' ∉ line.1 :: line.2) (rest : List Char) :
    segments lineBreak (lineText line ++ (lineBreak ++ rest)) = lineText line :: segments lineBreak rest := by
  have absent : ¬lineBreak <:+: lineText line := by
    intro stands
    have among : '\r' ∈ line.1 :: '=' :: line.2 := stands.subset List.mem_cons_self
    simp only [List.mem_cons] at among plain
    rcases among with same | same | among
    · exact plain (.inl same)
    · exact absurd same (by decide)
    · exact plain (.inr among)
  rw [segments_append lineBreak_borderless, segments_eq_singleton absent, List.singleton_append]

theorem readPieces_cons (line : TaggedLine) {pieces : List (List Char)} (more : pieces ≠ []) :
    readPieces (lineText line :: pieces) = (readPieces pieces).map (line :: ·) := by
  obtain ⟨piece, pieces, rfl⟩ := List.exists_cons_of_ne_nil more
  rw [readPieces]
  · cases readPieces (piece :: pieces) <;> rfl
  · simp

theorem readLines_linesText {lines : List TaggedLine} (plain : ∀ line ∈ lines, '\r' ∉ line.1 :: line.2) :
    readLines (linesText lines) = some lines := by
  induction lines with
  | nil => rfl
  | cons line lines ih =>
      have others := ih fun other among => plain other (List.mem_cons_of_mem _ among)
      rw [readLines] at others
      rw [readLines, linesText, List.flatMap_cons, List.append_assoc,
        segments_line (plain line List.mem_cons_self), readPieces_cons line (segments_ne_nil (by decide) _)]
      rw [linesText] at others
      rw [others, Option.map_some]

/-- The text of a value. -/
def text (layout : Layout α) (value : α) : List Char := linesText (layout.write value)

theorem linesText_append (lines others : List TaggedLine) :
    linesText (lines ++ others) = linesText lines ++ linesText others := by
  rw [linesText, List.flatMap_append]
  rfl

@[simp] theorem text_one (tag : Char) (codec : Codec α) (plainTag : tag ≠ '\r') (plain : codec.alphabet '\r' = false)
    (value : α) : (one tag codec plainTag plain).text value = lineText (tag, codec.write value) ++ lineBreak := by
  rw [text, linesText]
  exact List.append_nil _

@[simp] theorem text_followedBy (left : Layout α) (right : Layout β) (apart : disjoint left.stop right.first = true)
    (values : α × β) : (left.followedBy right apart).text values = left.text values.1 ++ right.text values.2 :=
  linesText_append _ _

@[simp] theorem text_optional (layout : Layout α) (required : layout.nullable = false) (value : Option α) :
    (layout.optional required).text value = value.elim [] layout.text := by
  cases value <;> rfl

@[simp] theorem text_many (layout : Layout α) (required : layout.nullable = false)
    (again : disjoint layout.stop layout.first = true) (values : List α) :
    (layout.many required again).text values = values.flatMap layout.text := by
  induction values with
  | nil => rfl
  | cons value values ih =>
      rw [List.flatMap_cons, ← ih]
      exact linesText_append _ _

theorem text_ne_nil (layout : Layout α) (required : layout.nullable = false) (value : α) : layout.text value ≠ [] := by
  intro empty
  cases same : layout.write value with
  | nil =>
      have nullable := layout.filled value same
      rw [required] at nullable
      exact absurd nullable Bool.false_ne_true
  | cons line lines =>
      rw [text, same] at empty
      exact absurd empty (List.cons_ne_nil _ _)

theorem eq_none_of_text (layout : Layout α) (required : layout.nullable = false) {value : Option α}
    (empty : ((layout.optional required).text value).length = 0) : value = none := by
  cases value with
  | none => rfl
  | some held => exact absurd (List.eq_nil_of_length_eq_zero empty) (layout.text_ne_nil required held)

theorem eq_nil_of_text (layout : Layout α) (required : layout.nullable = false)
    (again : disjoint layout.stop layout.first = true) {values : List α}
    (empty : ((layout.many required again).text values).length = 0) : values = [] := by
  cases values with
  | nil => rfl
  | cons value values =>
      rw [text_many, List.flatMap_cons] at empty
      have first := List.append_eq_nil_iff.mp (List.eq_nil_of_length_eq_zero empty)
      exact absurd first.1 (layout.text_ne_nil required value)

@[simp] theorem text_skip (tag : Char) (value : Unit) : (skip tag).text value = [] := rfl

@[simp] theorem text_filter (layout : Layout α) (property : α → Bool) (value : α) :
    (layout.filter property).text value = layout.text value := rfl

@[simp] theorem text_imap (layout : Layout β) (into : α → β) (back : β → α) (left : ∀ value, back (into value) = value)
    (right : ∀ other, into (back other) = other) (value : α) :
    (layout.imap into back left right).text value = layout.text (into value) := rfl

@[simp] theorem one_fits (tag : Char) (codec : Codec α) (plainTag : tag ≠ '\r') (plain : codec.alphabet '\r' = false)
    (value : α) : (one tag codec plainTag plain).Fits value ↔ codec.Fits value := Iff.rfl

@[simp] theorem skip_fits (tag : Char) (value : Unit) : (skip tag).Fits value := trivial

@[simp] theorem followedBy_fits (left : Layout α) (right : Layout β) (apart : disjoint left.stop right.first = true)
    (values : α × β) : (left.followedBy right apart).Fits values ↔ left.Fits values.1 ∧ right.Fits values.2 := Iff.rfl

@[simp] theorem optional_fits (layout : Layout α) (required : layout.nullable = false) (value : Option α) :
    (layout.optional required).Fits value ↔ ∀ held ∈ value, layout.Fits held := Iff.rfl

@[simp] theorem many_fits (layout : Layout α) (required : layout.nullable = false)
    (again : disjoint layout.stop layout.first = true) (values : List α) :
    (layout.many required again).Fits values ↔ ∀ value ∈ values, layout.Fits value := Iff.rfl

@[simp] theorem filter_fits (layout : Layout α) (property : α → Bool) (value : α) :
    (layout.filter property).Fits value ↔ layout.Fits value ∧ property value = true := Iff.rfl

@[simp] theorem imap_fits (layout : Layout β) (into : α → β) (back : β → α) (left : ∀ value, back (into value) = value)
    (right : ∀ other, into (back other) = other) (value : α) :
    (layout.imap into back left right).Fits value ↔ layout.Fits (into value) := Iff.rfl

/-- The value of a whole text. -/
def readText (layout : Layout α) (text : List Char) : Option α := do
  let lines ← readLines text
  let found ← layout.read lines
  if found.2 = [] then some found.1 else none

/-- A value that fits is read back from its text. -/
theorem readText_text (layout : Layout α) {value : α} (fits : layout.Fits value) :
    layout.readText (layout.text value) = some value := by
  have read := layout.read_write value [] fits (avoids_nil _)
  rw [List.append_nil] at read
  simp [readText, text, readLines_linesText (layout.oneLine value fits), read]

/-- Only values that fit are read. -/
theorem readText_fits (layout : Layout α) {text : List Char} {value : α} (read : layout.readText text = some value) :
    layout.Fits value := by
  simp only [readText, Option.bind_eq_bind, Option.bind_eq_some_iff] at read
  obtain ⟨lines, -, found, readFound, same⟩ := read
  split at same
  · rw [← Option.some.inj same]
    exact layout.fits lines found.1 found.2 readFound
  · cases same

end Layout

end Foundation
