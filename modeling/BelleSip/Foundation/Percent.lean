import Mathlib.Data.List.Basic
import Mathlib.Tactic.Common

/-
This file develops texts in which bytes are escaped by a percent sign and two hexadecimal digits.
-/

namespace Foundation.Percent

theorem all_bytes {property : UInt8 → Prop} (each : ∀ byte : Fin 256, property (UInt8.ofFin byte)) (byte : UInt8) :
    property byte := each byte.toFin

/-- The hexadecimal digit of a value below 16. -/
def hexChar (value : UInt8) : UInt8 := if value < 10 then 48 + value else 87 + value

def isHexChar (byte : UInt8) : Bool :=
  (48 ≤ byte && byte ≤ 57) || (65 ≤ byte && byte ≤ 70) || (97 ≤ byte && byte ≤ 102)

def escape (byte : UInt8) : List UInt8 := [37, hexChar (byte / 16), hexChar (byte % 16)]

/-- Every byte is kept or escaped. -/
def encode (keep : UInt8 → Bool) (text : List UInt8) : List UInt8 :=
  text.flatMap fun byte => if keep byte then [byte] else escape byte

/-- The longest prefix of allowed bytes and escapes, with the rest. A percent sign that begins no escape is an error. -/
def readRun (allowed : UInt8 → Bool) : List UInt8 → Option (List UInt8 × List UInt8)
  | [] => some ([], [])
  | byte :: rest =>
      if byte = 37 then
        match rest with
        | high :: low :: rest =>
            if isHexChar high && isHexChar low then
              (readRun allowed rest).map fun run => (37 :: high :: low :: run.1, run.2)
            else none
        | _ => none
      else if allowed byte then (readRun allowed rest).map fun run => (byte :: run.1, run.2)
      else some ([], byte :: rest)

variable {keep allowed : UInt8 → Bool}

theorem isHexChar_high (byte : UInt8) : isHexChar (hexChar (byte / 16)) = true := by
  revert byte
  apply all_bytes
  decide +kernel

theorem isHexChar_low (byte : UInt8) : isHexChar (hexChar (byte % 16)) = true := by
  revert byte
  apply all_bytes
  decide +kernel

@[simp] theorem encode_nil : encode keep [] = [] := rfl

theorem encode_cons (byte : UInt8) (text : List UInt8) :
    encode keep (byte :: text) = (if keep byte then [byte] else escape byte) ++ encode keep text := rfl

theorem encode_eq_nil {text : List UInt8} : encode keep text = [] ↔ text = [] := by
  cases text with
  | nil => simp
  | cons byte text =>
      rw [encode_cons]
      split <;> simp [escape]

/-- An encoded text consists of kept bytes, percent signs and hexadecimal digits. -/
theorem mem_encode {byte : UInt8} {text : List UInt8} (among : byte ∈ encode keep text) :
    keep byte = true ∨ byte = 37 ∨ isHexChar byte = true := by
  obtain ⟨source, _, produced⟩ := List.mem_flatMap.mp among
  split at produced
  next kept =>
    rw [List.mem_singleton.mp produced]
    exact .inl kept
  next =>
    simp only [escape, List.mem_cons, List.not_mem_nil, or_false] at produced
    rcases produced with rfl | rfl | rfl
    · exact .inr (.inl rfl)
    · exact .inr (.inr (isHexChar_high source))
    · exact .inr (.inr (isHexChar_low source))

@[simp] theorem readRun_nil : readRun allowed [] = some ([], []) := rfl

theorem readRun_escape (high low : UInt8) (rest : List UInt8) :
    readRun allowed (37 :: high :: low :: rest) =
      if isHexChar high && isHexChar low then
        (readRun allowed rest).map fun run => (37 :: high :: low :: run.1, run.2)
      else none := rfl

theorem readRun_other {byte : UInt8} (other : byte ≠ 37) (rest : List UInt8) :
    readRun allowed (byte :: rest) =
      if allowed byte then (readRun allowed rest).map fun run => (byte :: run.1, run.2)
      else some ([], byte :: rest) := by
  rw [readRun.eq_def]
  simp only [if_neg other]

/-- What is read and the rest make up the text. -/
theorem readRun_append {text run rest : List UInt8} (read : readRun allowed text = some (run, rest)) :
    run ++ rest = text := by
  fun_induction readRun allowed text generalizing run with
  | case1 =>
      cases read
      rfl
  | case2 high low text digits ih =>
      obtain ⟨⟨inner, _⟩, readInner, same⟩ := Option.map_eq_some_iff.mp read
      cases same
      rw [← ih readInner]
      rfl
  | case3 => cases read
  | case4 => cases read
  | case5 byte text other isAllowed ih =>
      obtain ⟨⟨inner, _⟩, readInner, same⟩ := Option.map_eq_some_iff.mp read
      cases same
      rw [← ih readInner]
      rfl
  | case6 =>
      cases read
      rfl

/-- A text ends a run: it is empty, or begins with a byte that is neither allowed nor a percent sign. -/
def Stops (allowed : UInt8 → Bool) (text : List UInt8) : Prop := ∀ byte ∈ text.head?, byte ≠ 37 ∧ allowed byte = false

theorem readRun_stops {text : List UInt8} (stops : Stops allowed text) : readRun allowed text = some ([], text) := by
  cases text with
  | nil => rfl
  | cons byte rest =>
      obtain ⟨other, notAllowed⟩ := stops byte rfl
      simp [readRun_other other, notAllowed]

/-- An encoded text is read back when its kept bytes are allowed. -/
theorem readRun_encode {text rest : List UInt8}
    (plain : ∀ byte ∈ text, keep byte = true → allowed byte = true ∧ byte ≠ 37) (stops : Stops allowed rest) :
    readRun allowed (encode keep text ++ rest) = some (encode keep text, rest) := by
  induction text with
  | nil => exact readRun_stops stops
  | cons byte text ih =>
      have ih := ih fun other among => plain other (List.mem_cons_of_mem byte among)
      rw [encode_cons]
      split
      next kept =>
        obtain ⟨isAllowed, other⟩ := plain byte List.mem_cons_self kept
        simp [readRun_other other, isAllowed, ih]
      next =>
        simp [escape, readRun_escape, isHexChar_high, isHexChar_low, ih]

/-- A text of allowed bytes and escapes. -/
inductive Composed (allowed : UInt8 → Bool) : List UInt8 → Prop where
  | nil : Composed allowed []
  | byte {byte : UInt8} {rest : List UInt8} (isAllowed : allowed byte = true) (composed : Composed allowed rest) :
      Composed allowed (byte :: rest)
  | escape {high low : UInt8} {rest : List UInt8} (isHigh : isHexChar high = true) (isLow : isHexChar low = true)
      (composed : Composed allowed rest) : Composed allowed (37 :: high :: low :: rest)

/-- An encoded text is composed of its kept bytes and escapes. -/
theorem composed_encode {text : List UInt8} (plain : ∀ byte ∈ text, keep byte = true → allowed byte = true) :
    Composed allowed (encode keep text) := by
  induction text with
  | nil => exact .nil
  | cons byte text ih =>
      have ih := ih fun other among => plain other (List.mem_cons_of_mem byte among)
      rw [encode_cons]
      split
      next kept => exact .byte (plain byte List.mem_cons_self kept) ih
      next => exact .escape (isHexChar_high byte) (isHexChar_low byte) ih

end Foundation.Percent
