import BelleSip.Sip.UriRoundTrip

/-
This file models `belle_sip_escape` with its tables, and proves when the escaped texts are unescaped again.
-/

namespace BelleSip

open Foundation

/-- This is `get_generic_uri_query_noescapes`, which adds the characters `=&`. -/
def queryNoescapes (byte : UInt8) : Bool := isUnreserved byte || byte ∈ [61, 38]

/-- This is `get_generic_uri_path_noescapes`, which adds the characters `:@&=+$,;/`. -/
def pathNoescapes (byte : UInt8) : Bool := isUnreserved byte || byte ∈ [58, 64, 38, 61, 43, 36, 44, 59, 47]

/-- The parts of a SIP URI or a generic URI that have an escaping function. -/
inductive UriComponent where
  | username
  | userpasswd
  | parameter
  | header
  | query
  | path
deriving DecidableEq, Repr

namespace UriComponent

def noescapes : UriComponent → UInt8 → Bool
  | username => usernameNoescapes
  | userpasswd => userpasswdNoescapes
  | parameter => parameterNoescapes
  | header => headerNoescapes
  | query => queryNoescapes
  | path => pathNoescapes

/-- The escaping function of a component, in a buffer that is large enough. -/
def toEscaped (component : UriComponent) (text : CString) : CString := Percent.encode component.noescapes text

/-- The characters of a component that stand for themselves. -/
def isPlain (component : UriComponent) (byte : UInt8) : Bool := component.noescapes byte && byte != 37

end UriComponent

/-- A text comes back from its escaped form, which has only characters of the component and escapes. -/
def Recovered (component : UriComponent) (text : CString) : Prop :=
  toUnescapedString (component.toEscaped text) = text ∧
    Percent.Composed component.isPlain (component.toEscaped text)

/-- Only the table of the parameters leaves the percent sign alone. -/
theorem noescapes_percent {component : UriComponent} : component.noescapes 37 = true ↔ component = .parameter := by
  cases component <;> decide

theorem recovered {component : UriComponent} {text : CString} (terminated : 0 ∉ text)
    (plain : component ≠ .parameter ∨ 37 ∉ text) : Recovered component text := by
  have other : ∀ byte ∈ text, component.noescapes byte = true → byte ≠ 37 := by
    rintro byte among kept rfl
    rcases plain with differs | absent
    · exact differs (noescapes_percent.mp kept)
    · exact absent among
  refine ⟨toUnescapedString_encode terminated other, Percent.composed_encode fun byte among kept => ?_⟩
  rw [UriComponent.isPlain, kept, Bool.true_and, bne_iff_ne]
  exact other byte among kept

/-! A percent sign that is left alone takes two more bytes with it when the text is unescaped. -/

theorem hexDigit_le {byte digit : UInt8} (read : hexDigit byte = some digit) : digit ≤ 15 := by
  have general : ∀ byte : UInt8, ∀ digit ∈ hexDigit byte, digit ≤ 15 := by
    apply Percent.all_bytes
    decide +kernel
  exact general byte digit read

theorem hexDigit_two {byte : UInt8} (read : hexDigit byte = some 2) : byte = 50 := by
  revert byte
  apply Percent.all_bytes
  decide +kernel

theorem hexDigit_five {byte : UInt8} (read : hexDigit byte = some 5) : byte = 53 := by
  revert byte
  apply Percent.all_bytes
  decide +kernel

theorem parameter_notSpace {byte : UInt8} (kept : parameterNoescapes byte = true) : isSpaceByte byte = false := by
  revert byte
  apply Percent.all_bytes
  decide +kernel

theorem hex_sum {high low : UInt8} (highLe : high ≤ 15) (lowLe : low ≤ 15) (sum : 16 * high + low = 37) :
    high = 2 ∧ low = 5 := by
  have value := congrArg UInt8.toNat sum
  rw [UInt8.toNat_add, UInt8.toNat_mul] at value
  have highLe := UInt8.le_iff_toNat_le.mp highLe
  have lowLe := UInt8.le_iff_toNat_le.mp lowLe
  simp only [UInt8.reduceToNat] at value highLe lowLe
  refine ⟨UInt8.toNat_inj.mp ?_, UInt8.toNat_inj.mp ?_⟩ <;> simp only [UInt8.reduceToNat] <;> omega

theorem neg_digit {digit : UInt8} (small : digit ≤ 15) : 0 - digit ≠ 37 := by
  revert digit
  apply Percent.all_bytes
  decide +kernel

/-- The two digits of a percent sign. -/
theorem scanHex_percent {first second : UInt8} {rest : CString} (noSpace : isSpaceByte first = false)
    (read : scanHex (first :: second :: rest) = some 37) : first = 50 ∧ second = 53 := by
  rw [scanHex, List.dropWhile_cons, noSpace] at read
  simp only [Bool.false_eq_true, if_false] at read
  split at read
  · exact absurd (hexDigit_le read) (by decide)
  split at read
  · obtain ⟨digit, isDigit, negated⟩ := Option.map_eq_some_iff.mp read
    exact absurd negated (neg_digit (hexDigit_le isDigit))
  split at read
  · cases read
  obtain ⟨high, isHigh, sum⟩ := Option.map_eq_some_iff.mp read
  split at sum
  · next low isLow =>
      obtain ⟨rfl, rfl⟩ := hex_sum (hexDigit_le isHigh) (hexDigit_le isLow) sum
      exact ⟨hexDigit_two isHigh, hexDigit_five isLow⟩
  · rw [sum] at isHigh
    exact absurd (hexDigit_le isHigh) (by decide)

theorem unescapeFrom_plain {byte : UInt8} (other : byte ≠ 37) (rest : CString) :
    unescapeFrom 0 (byte :: rest) = byte :: unescapeFrom 0 rest := by simp [unescapeFrom, getChar, other]

theorem unescapeFrom_percent (rest : CString) :
    unescapeFrom 0 (37 :: rest) = (scanHex rest).getD 0 :: unescapeFrom 2 rest := by simp [unescapeFrom, getChar]

theorem hexChar_ne_percent (byte : UInt8) :
    Percent.hexChar (byte / 16) ≠ 37 ∧ Percent.hexChar (byte % 16) ≠ 37 := by
  revert byte
  apply Percent.all_bytes
  decide +kernel

/-- An escaped text has at most as many characters as the text, wherever the first of them begins. -/
theorem length_unescapeFrom_encode (keep : UInt8 → Bool) (text : CString) :
    (unescapeFrom 0 (Percent.encode keep text)).length ≤ text.length ∧
      (unescapeFrom 1 (Percent.encode keep text)).length ≤ text.length + 1 ∧
        (unescapeFrom 2 (Percent.encode keep text)).length ≤ text.length := by
  induction text with
  | nil => simp [unescapeFrom]
  | cons byte text ih =>
      obtain ⟨whole, behindOne, behindTwo⟩ := ih
      rw [Percent.encode_cons]
      split
      next kept =>
        rw [List.singleton_append, List.length_cons]
        refine ⟨?_, ?_, ?_⟩
        · by_cases percent : byte = 37
          · rw [percent, unescapeFrom_percent, List.length_cons]
            omega
          · rw [unescapeFrom_plain percent, List.length_cons]
            omega
        · rw [unescapeFrom]
          omega
        · rw [unescapeFrom]
          omega
      next =>
        have digits := hexChar_ne_percent byte
        have behind : unescapeFrom 0 (Percent.hexChar (byte % 16) :: Percent.encode keep text) =
            Percent.hexChar (byte % 16) :: unescapeFrom 0 (Percent.encode keep text) := unescapeFrom_plain digits.2 _
        rw [Percent.escape, List.cons_append, List.cons_append, List.singleton_append, List.length_cons]
        refine ⟨?_, ?_, ?_⟩
        · rw [unescapeFrom_percent, unescapeFrom, unescapeFrom, List.length_cons]
          omega
        · rw [unescapeFrom, unescapeFrom_plain digits.1, behind, List.length_cons, List.length_cons]
          omega
        · rw [unescapeFrom, unescapeFrom, behind, List.length_cons]
          omega

/-- When the first character of an escaped text is read as a percent sign, its digits are gone. -/
theorem length_unescapeFrom_percent {text : CString}
    (read : scanHex (Percent.encode parameterNoescapes text) = some 37) :
    (unescapeFrom 2 (Percent.encode parameterNoescapes text)).length < text.length := by
  cases text with
  | nil => cases read
  | cons first text =>
      rw [Percent.encode_cons] at read ⊢
      split at read
      next keptFirst =>
        have noSpace := parameter_notSpace keptFirst
        rw [if_pos keptFirst]
        cases text with
        | nil =>
            rw [Percent.encode_nil, List.append_nil, scanHex, List.dropWhile_cons, noSpace] at read
            exact absurd (hexDigit_le read) (by decide)
        | cons second text =>
            rw [Percent.encode_cons] at read ⊢
            split at read
            next keptSecond =>
              have shorter := (length_unescapeFrom_encode parameterNoescapes text).1
              rw [if_pos keptSecond, List.singleton_append, List.singleton_append, unescapeFrom, unescapeFrom,
                List.length_cons, List.length_cons]
              omega
            next =>
              have digits := scanHex_percent noSpace read
              exact absurd digits.2 (by decide)
      next =>
        have digits := scanHex_percent (by decide) read
        exact absurd digits.1 (by decide)

/-- A parameter in which a percent sign is left alone does not come back. -/
theorem unescapeFrom_parameter {text : CString} (percent : 37 ∈ text) :
    (unescapeFrom 0 (Percent.encode parameterNoescapes text)).takeWhile (· ≠ 0) ≠ text := by
  induction text with
  | nil => cases percent
  | cons byte text ih =>
      rw [Percent.encode_cons]
      by_cases own : byte = 37
      · have kept : parameterNoescapes 37 = true := by decide
        rw [own, if_pos kept, List.singleton_append, unescapeFrom_percent, List.takeWhile_cons]
        split
        · intro same
          obtain ⟨head, tail⟩ := List.cons.inj same
          have read : scanHex (Percent.encode parameterNoescapes text) = some 37 := by
            cases scanned : scanHex (Percent.encode parameterNoescapes text) with
            | none =>
                rw [scanned] at head
                cases head
            | some value =>
                rw [scanned] at head
                exact congrArg some head
          have shorter := length_unescapeFrom_percent read
          have taken := @List.takeWhile_sublist _ (unescapeFrom 2 (Percent.encode parameterNoescapes text))
            fun byte => decide (byte ≠ 0)
          have taken := taken.length_le
          rw [tail] at taken
          omega
        · simp
      · have behind := ih ((List.mem_cons.mp percent).resolve_left fun same => own same.symm)
        have first : unescapeFrom 0 ((if parameterNoescapes byte then [byte] else Percent.escape byte) ++
            Percent.encode parameterNoescapes text) =
              byte :: unescapeFrom 0 (Percent.encode parameterNoescapes text) := by
          split
          · exact unescapeFrom_plain own _
          · simp [unescapeFrom, Percent.escape, getChar, scanHex_escape]
        rw [first, List.takeWhile_cons]
        split
        · intro same
          exact behind (List.cons.inj same).2
        · simp

/-- Two texts come back from their escaped forms, which differ when the texts do, if and only if the texts are no
parameters with a percent sign. -/
theorem escaped_recovered_iff {component : UriComponent} {first second : CString} (terminatedFirst : 0 ∉ first)
    (terminatedSecond : 0 ∉ second) :
    (Recovered component first ∧ Recovered component second ∧
      (first ≠ second → component.toEscaped first ≠ component.toEscaped second)) ↔
    (component ≠ .parameter ∨ 37 ∉ first ∧ 37 ∉ second) := by
  constructor
  · rintro ⟨firstRecovered, secondRecovered, -⟩
    by_cases parameter : component = .parameter
    · subst parameter
      refine .inr ⟨fun percent => ?_, fun percent => ?_⟩
      · exact unescapeFrom_parameter percent firstRecovered.1
      · exact unescapeFrom_parameter percent secondRecovered.1
    · exact .inl parameter
  · intro plain
    have firstRecovered : Recovered component first := recovered terminatedFirst (plain.imp_right And.left)
    have secondRecovered : Recovered component second := recovered terminatedSecond (plain.imp_right And.right)
    refine ⟨firstRecovered, secondRecovered, fun differs same => differs ?_⟩
    rw [← firstRecovered.1, same, secondRecovered.1]

theorem escaped_recovered_user :
    Recovered .username (asciiBytes "100% é") ∧ Recovered .username (asciiBytes "bob") ∧
      (asciiBytes "100% é" ≠ asciiBytes "bob" →
        UriComponent.username.toEscaped (asciiBytes "100% é") ≠ UriComponent.username.toEscaped (asciiBytes "bob")) :=
  (escaped_recovered_iff (by decide) (by decide)).mpr (.inl (by decide))

/-- A blank and its escape have one escaped form as parameters, and the escape comes back as a blank. -/
theorem not_escaped_recovered :
    UriComponent.parameter.toEscaped (asciiBytes " ") = UriComponent.parameter.toEscaped (asciiBytes "%20") ∧
      asciiBytes " " ≠ asciiBytes "%20" ∧
        toUnescapedString (UriComponent.parameter.toEscaped (asciiBytes "%20")) = asciiBytes " " ∧
          ¬Recovered .parameter (asciiBytes "%20") := by
  refine ⟨by decide, by decide, by decide, fun back => ?_⟩
  exact absurd back.1 (by decide)

end BelleSip
