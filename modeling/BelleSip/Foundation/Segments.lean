import Mathlib.Data.List.Infix
import Mathlib.Tactic.Common

/-
This file develops the cutting of a text at each place where a mark stands.
-/

namespace Foundation

variable {Symbol : Type} [DecidableEq Symbol]

/-- The pieces between the marks, from the left; the symbols of a mark are skipped. -/
def segmentsFrom (mark : List Symbol) : Nat → List Symbol → List (List Symbol)
  | _, [] => [[]]
  | skip + 1, _ :: rest => segmentsFrom mark skip rest
  | 0, symbol :: rest =>
      if mark <+: symbol :: rest then [] :: segmentsFrom mark (mark.length - 1) rest
      else (segmentsFrom mark 0 rest).modifyHead (symbol :: ·)

abbrev segments (mark text : List Symbol) : List (List Symbol) := segmentsFrom mark 0 text

/-- The first symbol of the mark stands nowhere else in it, so that no two marks share a symbol. -/
def Borderless (mark : List Symbol) : Prop := ∃ first rest, mark = first :: rest ∧ first ∉ rest

variable {mark : List Symbol}

theorem segmentsFrom_drop (mark : List Symbol) (skip : Nat) (text : List Symbol) :
    segmentsFrom mark skip text = segments mark (text.drop skip) := by
  induction skip generalizing text with
  | zero => rfl
  | succ skip ih =>
      cases text with
      | nil => rw [List.drop_nil, segments, segmentsFrom, segmentsFrom]
      | cons symbol rest => rw [segmentsFrom, ih, List.drop_succ_cons]

@[simp] theorem segments_nil (mark : List Symbol) : segments mark [] = [[]] := by rw [segments, segmentsFrom]

theorem segments_mark (marked : mark ≠ []) (text : List Symbol) :
    segments mark (mark ++ text) = [] :: segments mark text := by
  obtain ⟨first, rest, rfl⟩ := List.exists_cons_of_ne_nil marked
  have stands : first :: rest <+: first :: (rest ++ text) := List.prefix_append (first :: rest) text
  rw [List.cons_append, segments, segmentsFrom, if_pos stands, segmentsFrom_drop]
  simp

theorem segments_cons {symbol : Symbol} {text : List Symbol} (absent : ¬mark <+: symbol :: text) :
    segments mark (symbol :: text) = (segments mark text).modifyHead (symbol :: ·) := by
  rw [segments, segmentsFrom, if_neg absent]

/-- A text ends, begins with the mark, or begins with a symbol before which no mark stands. -/
theorem segments_induction {property : List Symbol → Prop} (marked : mark ≠ []) (nil : property [])
    (atMark : ∀ text, property text → property (mark ++ text))
    (atSymbol : ∀ symbol text, ¬mark <+: symbol :: text → property text → property (symbol :: text))
    (text : List Symbol) : property text := by
  have shorter : ∀ bound (text : List Symbol), text.length ≤ bound → property text := by
    intro bound
    induction bound with
    | zero =>
        intro text short
        rw [List.eq_nil_of_length_eq_zero (Nat.le_zero.mp short)]
        exact nil
    | succ bound ih =>
        intro text short
        cases text with
        | nil => exact nil
        | cons symbol rest =>
            by_cases stands : mark <+: symbol :: rest
            · obtain ⟨text, same⟩ := stands
              rw [← same] at short ⊢
              have positive := List.length_pos_iff.mpr marked
              rw [List.length_append] at short
              exact atMark text (ih text (by omega))
            · rw [List.length_cons] at short
              exact atSymbol symbol rest stands (ih rest (by omega))
  exact shorter text.length text (Nat.le_refl _)

theorem segments_ne_nil (marked : mark ≠ []) (text : List Symbol) : segments mark text ≠ [] := by
  induction text using segments_induction marked with
  | nil => simp
  | atMark text ih => simp [segments_mark marked]
  | atSymbol symbol text absent ih => simpa [segments_cons absent] using ih

/-- The pieces with the mark between them are the text. -/
theorem intercalate_segments (marked : mark ≠ []) (text : List Symbol) :
    mark.intercalate (segments mark text) = text := by
  induction text using segments_induction marked with
  | nil => simp
  | atMark text ih =>
      rw [segments_mark marked, List.intercalate_cons_of_ne_nil (segments_ne_nil marked text), ih, List.nil_append]
  | atSymbol symbol text absent ih =>
      rw [segments_cons absent]
      obtain ⟨piece, pieces, same⟩ := List.exists_cons_of_ne_nil (segments_ne_nil marked text)
      rw [same] at ih ⊢
      rw [List.modifyHead_cons, List.intercalate_cons_cons_left, ih]

/-- The mark stands in none of the pieces. -/
theorem not_infix_of_mem_segments (marked : mark ≠ []) {text piece : List Symbol}
    (among : piece ∈ segments mark text) : ¬mark <:+: piece := by
  have empty : ¬mark <:+: [] := by
    intro stands
    exact marked (List.infix_nil.mp stands)
  induction text using segments_induction marked generalizing piece with
  | nil =>
      rw [segments_nil, List.mem_singleton] at among
      rw [among]
      exact empty
  | atMark text ih =>
      rw [segments_mark marked] at among
      rcases List.mem_cons.mp among with rfl | among
      · exact empty
      · exact ih among
  | atSymbol symbol text absent ih =>
      rw [segments_cons absent] at among
      obtain ⟨first, pieces, same⟩ := List.exists_cons_of_ne_nil (segments_ne_nil marked text)
      rw [same, List.modifyHead_cons] at among
      rcases List.mem_cons.mp among with rfl | among
      · intro stands
        rcases List.infix_cons_iff.mp stands with stands | stands
        · have begins : first <+: text := by
            have whole := intercalate_segments marked text
            rw [same] at whole
            cases pieces with
            | nil => rw [← whole, List.intercalate_singleton]
            | cons next pieces =>
                rw [List.intercalate_cons_cons] at whole
                exact ⟨_, by rw [← whole, List.append_assoc]⟩
          exact absent (stands.trans (List.prefix_cons_inj symbol |>.mpr begins))
        · exact ih (by rw [same]; exact List.mem_cons_self) stands
      · exact ih (by rw [same]; exact List.mem_cons_of_mem _ among)

theorem segments_eq_singleton {text : List Symbol} (absent : ¬mark <:+: text) :
    segments mark text = [text] := by
  induction text with
  | nil => simp
  | cons symbol text ih =>
      have notHere : ¬mark <+: symbol :: text := fun stands => absent stands.isInfix
      have notLater : ¬mark <:+: text := fun stands => absent (List.infix_cons_iff.mpr (.inr stands))
      rw [segments_cons notHere, ih notLater, List.modifyHead_cons]

/-- The first piece ends at a mark, and the other pieces are those of the text after it. -/
theorem segments_eq_cons (marked : mark ≠ []) {text piece : List Symbol} {pieces : List (List Symbol)}
    (cut : segments mark text = piece :: pieces) (more : pieces ≠ []) :
    ∃ after, text = piece ++ (mark ++ after) ∧ segments mark after = pieces := by
  induction text using segments_induction marked generalizing piece with
  | nil =>
      rw [segments_nil] at cut
      exact absurd (List.cons.inj cut).2.symm more
  | atMark text ih =>
      rw [segments_mark marked] at cut
      obtain ⟨rfl, rest⟩ := List.cons.inj cut
      exact ⟨text, rfl, rest⟩
  | atSymbol symbol text absent ih =>
      obtain ⟨first, others, same⟩ := List.exists_cons_of_ne_nil (segments_ne_nil marked text)
      rw [segments_cons absent, same, List.modifyHead_cons] at cut
      obtain ⟨rfl, rfl⟩ := List.cons.inj cut
      obtain ⟨after, whole, rest⟩ := ih same
      exact ⟨after, by rw [whole, List.cons_append], rest⟩

/-- A borderless mark cuts the text before it and the text after it apart. -/
theorem segments_append (borderless : Borderless mark) (before after : List Symbol) :
    segments mark (before ++ (mark ++ after)) = segments mark before ++ segments mark after := by
  obtain ⟨first, rest, whole, once⟩ := borderless
  have marked : mark ≠ [] := by
    rw [whole]
    exact List.cons_ne_nil first rest
  induction before using segments_induction marked with
  | nil => rw [List.nil_append, segments_mark marked, segments_nil, List.singleton_append]
  | atMark before ih => rw [List.append_assoc, segments_mark marked, ih, segments_mark marked, List.cons_append]
  | atSymbol symbol before absent ih =>
      have still : ¬mark <+: symbol :: (before ++ (mark ++ after)) := by
        intro stands
        rw [← List.cons_append] at stands
        rcases List.prefix_or_prefix_of_prefix stands (List.prefix_append (symbol :: before) (mark ++ after)) with
          within | beyond
        · exact absent within
        · -- the mark would end with a part that begins another mark
          obtain ⟨tail, same⟩ := beyond
          cases tail with
          | nil =>
              rw [List.append_nil] at same
              exact absent (by rw [same])
          | cons symbol' tail =>
              have shared : symbol' :: tail <+: mark ++ after := by
                apply (List.prefix_append_right_inj (symbol :: before)).mp
                rw [same]
                exact stands
              have begins : symbol' = first := by
                rw [whole] at shared
                exact (List.cons_prefix_cons.mp shared).1
              rw [whole, List.cons_append] at same
              apply once
              rw [← (List.cons.inj same).2, begins]
              exact List.mem_append_right _ List.mem_cons_self
      rw [List.cons_append, segments_cons still, ih, segments_cons absent]
      obtain ⟨piece, pieces, same⟩ := List.exists_cons_of_ne_nil (segments_ne_nil marked before)
      rw [same, List.cons_append, List.modifyHead_cons, List.modifyHead_cons, List.cons_append]

end Foundation
