import BelleSip.Foundation.Checked
import BelleSip.Sip.Escaping
import Mathlib.Algebra.Group.Nat.Even

/-
This file models the loops that unescape a text, and proves for which texts they stop at its terminator.
-/

namespace BelleSip

open Foundation

/-- A character of `belle_sip_string_to_backslash_less_unescaped_string`, and the bytes that it takes. Behind a last
backslash the terminator is stored. -/
def backslashChar (text : CString) : Option UInt8 × Nat :=
  match text with
  | [] => (some 0, 1)
  | byte :: rest => if byte = 92 then (some (rest.headD 0), 2) else (some byte, 1)

/-- The loop of a decoder, with the bytes that are left of the last character. -/
def decode (char : CString → Option UInt8 × Nat) : Nat → CString → Checked (List (Option UInt8))
  | 0, [] => .ok []
  | _ + 1, [] => .error .overread
  | skip + 1, _ :: rest => decode char skip rest
  | 0, byte :: rest => do
      let stored := (char (byte :: rest)).1
      let others ← decode char ((char (byte :: rest)).2 - 1) rest
      return stored :: others

/-- The texts from each character on that a decoder takes. -/
def visits (char : CString → Option UInt8 × Nat) : Nat → CString → List CString
  | _, [] => []
  | skip + 1, _ :: rest => visits char skip rest
  | 0, byte :: rest => (byte :: rest) :: visits char ((char (byte :: rest)).2 - 1) rest

/-- A percent sign with two hexadecimal digits stands at the beginning. -/
def beginsEscape : CString → Bool
  | 37 :: high :: low :: _ => Percent.isHexChar high && Percent.isHexChar low
  | _ => false

/-- A decoder stops at the terminator, and stores bytes with a value into the `strlen` bytes before the last one. -/
def Decodes (char : CString → Option UInt8 × Nat) (text : CString) : Prop :=
  Checked.Returns (decode char 0 text) fun output =>
    output.length + 1 ≤ text.length + 1 ∧ ∀ stored ∈ output, stored.isSome = true

/-- This is `belle_sip_to_unescaped_string` on a text in which it decodes escapes only. -/
def Unescapes (text : CString) : Prop :=
  Decodes (getChar · 3) text ∧
    ∀ here ∈ visits (getChar · 3) 0 text, here.head? = some 37 → beginsEscape here = true

/-- The backslashes at the end of a text. -/
def lastBackslashes (text : CString) : Nat := (text.reverse.takeWhile (· = 92)).length

section
variable {char : CString → Option UInt8 × Nat} {text rest : CString} {byte high low : UInt8}

theorem hexDigit_isSome (isHex : Percent.isHexChar byte = true) :
    (hexDigit byte).isSome = true ∧ isSpaceByte byte = false ∧ byte ≠ 43 ∧ byte ≠ 45 ∧ byte ≠ 37 ∧
      upperChar byte ≠ 88 := by
  revert byte
  apply Percent.all_bytes
  decide +kernel

/-- Two hexadecimal digits have a value. -/
theorem scanHex_isSome (isHigh : Percent.isHexChar high = true) (isLow : Percent.isHexChar low = true) :
    (scanHex (high :: low :: rest)).isSome = true := by
  obtain ⟨digit, noSpace, noPlus, noMinus, -, -⟩ := hexDigit_isSome isHigh
  have noPrefix : ¬(high = 48 ∧ upperChar low = 88) := fun both => (hexDigit_isSome isLow).2.2.2.2.2 both.2
  rw [scanHex, List.dropWhile_cons, noSpace]
  simp only [Bool.false_eq_true, if_false, noPlus, noMinus, noPrefix, Option.isSome_map]
  exact digit

/-- A decoder stores at most one byte for each byte of the text. -/
theorem length_decode {skip : Nat} {output : List (Option UInt8)} (ended : decode char skip text = .ok output) :
    output.length ≤ text.length := by
  induction text generalizing skip output with
  | nil =>
      cases skip with
      | zero =>
          cases ended
          exact Nat.le_refl 0
      | succ skip => cases ended
  | cons byte rest ih =>
      cases skip with
      | zero =>
          rw [decode] at ended
          cases others : decode char ((char (byte :: rest)).2 - 1) rest with
          | ok output =>
              rw [others] at ended
              cases ended
              exact Nat.succ_le_succ (ih others)
          | error fault =>
              rw [others] at ended
              cases ended
      | succ skip => exact Nat.le_succ_of_le (ih ended)

/-- A decoder goes on behind a character that has a value. -/
theorem decodes_cons {skipped : CString} (stored : (char (byte :: skipped ++ rest)).1.isSome = true)
    (taken : (char (byte :: skipped ++ rest)).2 = skipped.length + 1) :
    Decodes char (byte :: skipped ++ rest) ↔ Decodes char rest := by
  have behind : ∀ skipped : CString, decode char skipped.length (skipped ++ rest) = decode char 0 rest := by
    intro skipped
    induction skipped with
    | nil => rfl
    | cons first skipped ih => rw [List.length_cons, List.cons_append, decode, ih]
  rw [Decodes, Decodes, List.cons_append, decode, ← List.cons_append, taken, Nat.add_sub_cancel, behind]
  cases ended : decode char 0 rest with
  | error fault =>
      refine iff_of_false ?_ ?_ <;>
        · rintro ⟨output, stopped, -⟩
          cases stopped
  | ok output =>
      have short := length_decode ended
      rw [Checked.ok_bind, Checked.returns_pure, Checked.returns_ok]
      constructor
      · rintro ⟨-, values⟩
        exact ⟨Nat.succ_le_succ short, fun other among => values other (List.mem_cons_of_mem _ among)⟩
      · rintro ⟨-, values⟩
        refine ⟨?_, ?_⟩
        · rw [List.length_cons, List.length_append, List.length_cons]
          omega
        · rintro other among
          rcases List.mem_cons.mp among with rfl | old
          · exact stored
          · exact values other old

theorem decodes_nil : Decodes char [] := Checked.returns_ok.mpr ⟨Nat.le_refl _, by simp⟩

/-- A text with nothing but escapes and other bytes is decoded. -/
theorem Unescapes.of_composed (composed : Percent.Composed (· != 37) text) : Unescapes text := by
  induction composed with
  | nil => exact ⟨decodes_nil, by simp [visits]⟩
  | @byte byte rest other composed ih =>
      have plain : getChar (byte :: rest) 3 = (some byte, 1) := by simp [getChar, bne_iff_ne.mp other]
      have goesOn := @decodes_cons (getChar · 3) rest byte [] (by rw [List.cons_append, List.nil_append, plain]; rfl)
        (by rw [List.cons_append, List.nil_append, plain]; rfl)
      refine ⟨goesOn.mpr ih.1, ?_⟩
      rw [visits, plain]
      intro here among percent
      rcases List.mem_cons.mp among with rfl | behind
      · exact absurd (Option.some.inj percent) (bne_iff_ne.mp other)
      · exact ih.2 here behind percent
  | @escape high low rest isHigh isLow composed ih =>
      have escape : getChar (37 :: high :: low :: rest) 3 = (scanHex (high :: low :: rest), 3) := by simp [getChar]
      refine ⟨(@decodes_cons (getChar · 3) rest 37 [high, low] ?_ ?_).mpr ih.1, ?_⟩
      · show (getChar (37 :: high :: low :: rest) 3).1.isSome = true
        rw [escape]
        exact scanHex_isSome isHigh isLow
      · show (getChar (37 :: high :: low :: rest) 3).2 = 3
        rw [escape]
      · rw [visits, escape]
        intro here among percent
        rcases List.mem_cons.mp among with rfl | behind
        · rw [beginsEscape, isHigh, isLow]
          rfl
        · exact ih.2 here behind percent

theorem beginsEscape_iff : beginsEscape (37 :: text) = true ↔
    ∃ high low rest, text = high :: low :: rest ∧ Percent.isHexChar high = true ∧ Percent.isHexChar low = true := by
  match text with
  | [] => simp [beginsEscape]
  | [_] => simp [beginsEscape]
  | high :: low :: rest => simp [beginsEscape]

/-- Where every percent sign that is reached begins an escape, the text has nothing but escapes and other bytes. -/
theorem composed_of_visits {text : CString}
    (escapes : ∀ here ∈ visits (getChar · 3) 0 text, here.head? = some 37 → beginsEscape here = true) :
    Percent.Composed (· != 37) text := by
  have general : ∀ (bound : Nat) (text : CString), text.length ≤ bound →
      (∀ here ∈ visits (getChar · 3) 0 text, here.head? = some 37 → beginsEscape here = true) →
        Percent.Composed (· != 37) text := by
    intro bound
    induction bound with
    | zero =>
        intro text short _
        rw [List.length_eq_zero_iff.mp (Nat.le_zero.mp short)]
        exact .nil
    | succ bound ih =>
        intro text short escapes
        cases text with
        | nil => exact .nil
        | cons byte rest =>
            rw [List.length_cons] at short
            by_cases percent : byte = 37
            · subst percent
              have here := escapes (37 :: rest) (by rw [visits]; exact List.mem_cons_self) rfl
              obtain ⟨high, low, behind, rfl, isHigh, isLow⟩ := beginsEscape_iff.mp here
              refine .escape isHigh isLow (ih behind ?_ fun there among => ?_)
              · rw [List.length_cons, List.length_cons] at short
                omega
              · apply escapes
                have escape : getChar (37 :: high :: low :: behind) 3 = (scanHex (high :: low :: behind), 3) := by
                  simp [getChar]
                rw [visits, escape]
                exact List.mem_cons_of_mem _ among
            · refine .byte (bne_iff_ne.mpr percent) (ih rest (by omega) fun there among => ?_)
              apply escapes
              have plain : getChar (byte :: rest) 3 = (some byte, 1) := by simp [getChar, percent]
              rw [visits, plain]
              exact List.mem_cons_of_mem _ among
  exact general text.length text (Nat.le_refl _) escapes

/-! Backslashes. -/

theorem lastBackslashes_cons_plain (plain : byte ≠ 92) : lastBackslashes (byte :: rest) = lastBackslashes rest := by
  rw [lastBackslashes, lastBackslashes, List.reverse_cons, List.takeWhile_append]
  split
  · next all => simp [plain, ← all]
  · rfl

/-- Two bytes in front of a text of which the first is a backslash change its last backslashes by none or two. -/
theorem lastBackslashes_cons_pair :
    Even (lastBackslashes (92 :: byte :: rest)) ↔ Even (lastBackslashes rest) := by
  rw [lastBackslashes, lastBackslashes, List.reverse_cons, List.reverse_cons, List.append_assoc, List.takeWhile_append]
  split
  · next all =>
      have whole : (rest.reverse.takeWhile fun byte => decide (byte = 92)).length = rest.reverse.length := all
      by_cases backslash : byte = 92
      · have two : Even 2 := ⟨1, rfl⟩
        simp [backslash, whole, Nat.even_add, two]
      · simp [backslash, whole]
  · rfl

theorem decodes_backslash_iff : Decodes backslashChar text ↔ Even (lastBackslashes text) := by
  have general : ∀ (bound : Nat) (text : CString), text.length ≤ bound →
      (Decodes backslashChar text ↔ Even (lastBackslashes text)) := by
    intro bound
    induction bound with
    | zero =>
        intro text short
        rw [List.length_eq_zero_iff.mp (Nat.le_zero.mp short)]
        exact iff_of_true decodes_nil ⟨0, rfl⟩
    | succ bound ih =>
        intro text short
        match text with
        | [] => exact iff_of_true decodes_nil ⟨0, rfl⟩
        | [byte] =>
            by_cases backslash : byte = 92
            · rw [backslash]
              refine iff_of_false ?_ (by rw [Nat.even_iff]; decide)
              rintro ⟨output, stopped, -⟩
              cases stopped
            · rw [lastBackslashes_cons_plain backslash, ← ih [] (Nat.zero_le _)]
              exact @decodes_cons backslashChar [] byte [] (by simp [backslashChar, backslash])
                (by simp [backslashChar, backslash])
        | byte :: next :: rest =>
            rw [List.length_cons, List.length_cons] at short
            by_cases backslash : byte = 92
            · rw [backslash, lastBackslashes_cons_pair, ← ih rest (by omega)]
              exact @decodes_cons backslashChar rest 92 [next] (by simp [backslashChar]) (by simp [backslashChar])
            · rw [lastBackslashes_cons_plain backslash, ← ih (next :: rest) (by rw [List.length_cons]; omega)]
              exact @decodes_cons backslashChar (next :: rest) byte [] (by simp [backslashChar, backslash])
                (by simp [backslashChar, backslash])
  exact general text.length text (Nat.le_refl _)

end

/-- The two decoders stay inside the text, decode escapes only and store bytes with a value, if and only if every
percent sign is followed by two hexadecimal digits, and the number of backslashes at the end is even. -/
theorem decoders_iff (text : CString) :
    (Unescapes text ↔ Percent.Composed (· != 37) text) ∧
      (Decodes backslashChar text ↔ Even (lastBackslashes text)) :=
  ⟨⟨fun unescapes => composed_of_visits unescapes.2, Unescapes.of_composed⟩, decodes_backslash_iff⟩

/-- A percent sign at the end takes the terminator with it, one before other letters leaves a byte without a value, and
a blank is passed over. A backslash at the end takes the terminator with it. -/
theorem not_decoders :
    decode (getChar · 3) 0 (asciiBytes "100%") = .error .overread ∧
      decode (getChar · 3) 0 (asciiBytes "%zzb") = .ok [none, some 98] ∧
        decode (getChar · 3) 0 (asciiBytes "% 41") = .ok [some 65, some 49] ∧
          decode backslashChar 0 (asciiBytes "a\\") = .error .overread ∧
            ¬Unescapes (asciiBytes "100%") ∧ ¬Decodes backslashChar (asciiBytes "a\\") := by
  refine ⟨by decide, by decide, by decide, by decide, fun unescapes => ?_, fun decodes => ?_⟩
  · obtain ⟨output, stopped, -⟩ := unescapes.1
    cases stopped
  · obtain ⟨output, stopped, -⟩ := decodes
    cases stopped

end BelleSip
