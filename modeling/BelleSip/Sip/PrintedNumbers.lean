import BelleSip.Sdp.Recovery
import BelleSip.Sip.HeaderAuthorization

/-
This file compares the formats that print the numbers of headers and descriptions with the rules that read them, and
proves for which numbers they agree.
-/

namespace BelleSip

open Foundation
open Sdp (Text percentI)

/-- A number of some objects, its printed text with what follows it, and the rule of the grammar with its action. -/
structure PrintedNumber (α β : Type) where
  number : α → β
  printed : α → Option Text
  read : Text → Option β

/-- The text of the number is read as the number. -/
def PrintedNumber.ReadBack {α β : Type} (field : PrintedNumber α β) (object : α) : Prop :=
  ∀ text, field.printed object = some text → field.read text = some (field.number object)

/-- A rule of the form `DIGIT+` takes the longest text. -/
def readRun (allowed : Char → Bool) (text : Text) : Option Text :=
  if text.takeWhile allowed = [] then none else some (text.takeWhile allowed)

/-- The rules `seq_number`, `content_length`, `sess_id` and `sess_version`. -/
def readDecimal (text : Text) : Option UInt32 :=
  (readRun Char.isDigit text).map fun digits => UInt32.ofInt (Text.atoi (String.ofList digits))

/-- The rule `hexdigit`. -/
def isHexdigit (character : Char) : Bool :=
  ('a' ≤ character && character ≤ 'f') || ('A' ≤ character && character ≤ 'F') || character.isDigit

/-- The rule `nc_value`, whose action is the one of a decimal number. -/
def readNonceCount (text : Text) : Option Int32 :=
  (readRun isHexdigit text).map fun digits => Int32.ofInt (Text.atoi (String.ofList digits))

/-- This is `belle_sip_header_cseq_t`. -/
structure PrintedCseq where
  seqNumber : UInt32
  method : Text

/-- This is `belle_sip_header_cseq_marshal` behind the name of the header. -/
def PrintedCseq.marshal (cseq : PrintedCseq) : Text := percentI cseq.seqNumber ++ ' ' :: cseq.method

def seqNumber : PrintedNumber PrintedCseq UInt32 where
  number := PrintedCseq.seqNumber
  printed cseq := some cseq.marshal
  read := readDecimal

/-- This is `belle_sip_header_content_length_marshal`. -/
def contentLength : PrintedNumber UInt32 UInt32 where
  number length := length
  printed length := some (percentI length)
  read := readDecimal

/-- The session identifier stands behind the name of the user. -/
def sessId : PrintedNumber Sdp.Origin UInt32 where
  number := Sdp.Origin.sessionId
  printed origin := some (origin.marshal.drop (origin.username.length + 3))
  read := readDecimal

def sessVersion : PrintedNumber Sdp.Origin UInt32 where
  number := Sdp.Origin.sessionVersion
  printed origin := some (origin.marshal.drop (origin.username.length + (percentI origin.sessionId).length + 4))
  read := readDecimal

def nonceCount : PrintedNumber HeaderAuthorization Int32 where
  number := HeaderAuthorization.nonceCount
  printed := HeaderAuthorization.nonceCountAsString
  read := readNonceCount

section Decimal
variable {value : UInt32} {rest : Text}

/-- A text that does not go on with a digit. -/
def Breaks (rest : Text) : Prop := ∀ character ∈ rest.head?, character.isDigit = false

theorem takeWhile_breaks (breaks : Breaks rest) : rest.takeWhile Char.isDigit = [] := by
  cases rest with
  | nil => rfl
  | cons first others => simp [breaks first rfl]

theorem readRun_digits (breaks : Breaks rest) (number : Nat) :
    readRun Char.isDigit (Nat.toDigits 10 number ++ rest) = some (Nat.toDigits 10 number) := by
  have digits : (Nat.toDigits 10 number ++ rest).takeWhile Char.isDigit = Nat.toDigits 10 number := by
    rw [List.takeWhile_append_of_pos fun _ among => Codec.isDigit_of_mem_toDigits among, takeWhile_breaks breaks,
      List.append_nil]
  rw [readRun, digits, if_neg Nat.toDigits_ne_nil]

/-- The format `%i` and the rule `DIGIT+` agree on the numbers of an `int`. -/
theorem readDecimal_iff (breaks : Breaks rest) :
    readDecimal (percentI value ++ rest) = some value ↔ value < 2147483648 := by
  constructor
  · intro read
    by_contra large
    obtain ⟨digits, signed⟩ := Sdp.percentI_large large
    rw [signed] at read
    exact absurd read (by simp [readDecimal, readRun])
  · intro small
    have bound : value.toNat < 2147483648 := UInt32.lt_iff_toNat_lt.mp small
    rw [Sdp.percentI_small small, Codec.decimal_natCast, readDecimal, readRun_digits breaks, Option.map_some,
      ← Nat.repr_eq_ofList_toDigits, Text.atoi_repr bound]
    have whole : (value.toNat : Int) % 4294967296 = value.toNat := by omega
    show some (UInt32.ofNat ((value.toNat : Int) % 4294967296).toNat) = some value
    rw [whole, Int.toNat_natCast, UInt32.ofNat_toNat]

end Decimal

section Hexadecimal
variable {digits : Text} {number : Nat}

/-- The value of a last hexadecimal digit for `atoi`, which stops at a letter. -/
theorem magnitude_digitChar : ∀ digit < 16, Text.magnitude [Nat.digitChar digit] = if digit < 10 then digit else 0 := by
  decide

theorem magnitude_append_one (last : Char) :
    Text.magnitude (digits ++ [last]) ≤ 10 * Text.magnitude digits + Text.magnitude [last] := by
  by_cases all : ∀ character ∈ digits, character.isDigit = true
  · have kept : digits.takeWhile Char.isDigit = digits := List.takeWhile_eq_self_iff.mpr all
    rw [Text.magnitude, List.takeWhile_append_of_pos all, Nat.ofDigitChars_append, Text.magnitude, kept,
      Text.magnitude]
    by_cases digit : last.isDigit = true
    · simp [digit, Nat.ofDigitChars_cons]
    · simp only [List.takeWhile_cons, digit, Bool.false_eq_true, if_false, Nat.ofDigitChars_nil]
      omega
  · have cut : (digits ++ [last]).takeWhile Char.isDigit = digits.takeWhile Char.isDigit := by
      rw [List.takeWhile_append, if_neg]
      intro same
      exact all (List.takeWhile_eq_self_iff.mp (List.takeWhile_prefix _ |>.eq_of_length same))
    rw [Text.magnitude, cut, ← Text.magnitude]
    omega

/-- `atoi` finds the number in its hexadecimal text only when that is a digit. -/
theorem magnitude_hexadecimal (number : Nat) :
    Text.magnitude (Nat.toDigits 16 number) ≤ number ∧
      (Text.magnitude (Nat.toDigits 16 number) = number ↔ number < 10) := by
  induction number using Nat.strong_induction_on with
  | _ number inductionHypothesis =>
      by_cases single : number < 16
      · rw [Nat.toDigits_of_lt_base single, magnitude_digitChar number single]
        split <;> omega
      · have higher := (inductionHypothesis (number / 16) (by omega)).1
        have lower := magnitude_digitChar (number % 16) (by omega)
        have sum := @magnitude_append_one (Nat.toDigits 16 (number / 16)) (Nat.digitChar (number % 16))
        rw [Nat.toDigits_of_base_le (by decide) (by omega)]
        split at lower <;> omega

theorem isHexdigit_digitChar : ∀ digit < 16, isHexdigit (Nat.digitChar digit) = true := by decide

theorem isHexdigit_toDigits (number : Nat) : ∀ character ∈ Nat.toDigits 16 number, isHexdigit character = true := by
  induction number using Nat.strong_induction_on with
  | _ number inductionHypothesis =>
      by_cases single : number < 16
      · rw [Nat.toDigits_of_lt_base single]
        intro character among
        rw [List.mem_singleton.mp among]
        exact isHexdigit_digitChar number single
      · rw [Nat.toDigits_of_base_le (by decide) (by omega)]
        intro character among
        rcases List.mem_append.mp among with higher | last
        · exact inductionHypothesis (number / 16) (by omega) character higher
        · rw [List.mem_singleton.mp last]
          exact isHexdigit_digitChar (number % 16) (by omega)

end Hexadecimal

section NonceCount
variable {value : UInt32}

theorem length_hexadecimal (value : UInt32) : (Nat.toDigits 16 value.toNat).length ≤ 8 :=
  (Nat.length_toDigits_le_iff (by decide) (by decide)).mpr value.toNat_lt

/-- The array of nine bytes is large enough. -/
theorem percent08x_take (value : UInt32) : (percent08x value).take 8 = percent08x value := by
  have bound := length_hexadecimal value
  apply List.take_of_length_le
  rw [percent08x, List.length_append, List.length_replicate]
  omega

theorem isHexdigit_percent08x : ∀ character ∈ percent08x value, isHexdigit character = true := by
  intro character among
  rcases List.mem_append.mp among with padding | digit
  · rw [List.eq_of_mem_replicate padding]
    decide
  · exact isHexdigit_toDigits _ character digit

theorem magnitude_percent08x : Text.magnitude (percent08x value) = Text.magnitude (Nat.toDigits 16 value.toNat) := by
  have padding : ∀ character ∈ List.replicate (8 - (Nat.toDigits 16 value.toNat).length) '0',
      character.isDigit = true := by
    intro character among
    rw [List.eq_of_mem_replicate among]
    decide
  rw [Text.magnitude, percent08x, List.takeWhile_append_of_pos padding, Nat.ofDigitChars_append,
    Nat.ofDigitChars_replicate_zero, Nat.mul_zero, ← Text.magnitude]

/-- No hexadecimal digit is a blank or a sign. -/
theorem isHexdigit_visible {character : Char} (digit : isHexdigit character = true) :
    Text.isSpace character = false ∧ character ≠ '-' ∧ character ≠ '+' := by
  have range : 48 ≤ character.toNat := by
    simp only [isHexdigit, Bool.or_eq_true, Bool.and_eq_true, decide_eq_true_eq, Char.le_def, Char.isDigit,
      UInt32.le_iff_toNat_le] at digit
    rcases digit with (⟨lower, -⟩ | ⟨upper, -⟩) | ⟨decimal, -⟩
    · exact Nat.le_trans (by decide) lower
    · exact Nat.le_trans (by decide) upper
    · exact decimal
  have apart : ∀ other : Char, other.toNat < 48 → character ≠ other := by
    rintro other below rfl
    omega
  refine ⟨?_, apart '-' (by decide), apart '+' (by decide)⟩
  simp only [Text.isSpace, apart ' ' (by decide), decide_false, Bool.false_or, Bool.and_eq_false_iff,
    decide_eq_false_iff_not]
  omega

theorem percent08x_ne_nil : percent08x value ≠ [] := by
  simp [percent08x, Nat.toDigits_ne_nil]

/-- The rule takes the whole text, and its action the decimal digits at its beginning. -/
theorem readNonceCount_percent08x (int : value.toNat < 2147483648) :
    readNonceCount (percent08x value) = some (Int32.ofInt (Text.magnitude (Nat.toDigits 16 value.toNat))) := by
  have whole : (percent08x value).takeWhile isHexdigit = percent08x value :=
    List.takeWhile_eq_self_iff.mpr isHexdigit_percent08x
  obtain ⟨first, rest, split⟩ := List.exists_cons_of_ne_nil (@percent08x_ne_nil value)
  obtain ⟨visible, minus, plus⟩ := isHexdigit_visible (isHexdigit_percent08x first (split ▸ List.mem_cons_self))
  have bound := (magnitude_hexadecimal value.toNat).1
  have range : UInt32.size = 4294967296 := rfl
  rw [readNonceCount, readRun, whole, if_neg percent08x_ne_nil, Option.map_some, Text.atoi, String.toList_ofList, split,
    Text.strtol_unsigned visible minus plus, ← split, magnitude_percent08x, Text.longMax, Int.min_eq_left (by omega),
    range, Int.bmod_eq_of_le (by omega) (by omega)]

end NonceCount

/-- The nonce count is printed in hexadecimal and read in decimal. -/
theorem nonceCount_readBack (header : HeaderAuthorization) :
    nonceCount.ReadBack header ↔ header.nonceCount < 10 := by
  by_cases counted : 0 < header.nonceCount
  · have natural : (header.nonceCount.toUInt32.toNat : Int) = header.nonceCount.toInt := by
      rw [Int32.toNat_toUInt32_of_le (Int32.le_of_lt counted), Int32.cast_toNatClampNeg _ (Int32.le_of_lt counted)]
    have below := header.nonceCount.toInt_lt
    have magnitude := magnitude_hexadecimal header.nonceCount.toUInt32.toNat
    have printed : header.nonceCountAsString = some (percent08x header.nonceCount.toUInt32) := by
      rw [HeaderAuthorization.nonceCountAsString, if_pos counted, percent08x_take]
    have read : nonceCount.ReadBack header ↔
        Int32.ofInt (Text.magnitude (Nat.toDigits 16 header.nonceCount.toUInt32.toNat)) = header.nonceCount := by
      rw [PrintedNumber.ReadBack]
      show (∀ text, header.nonceCountAsString = some text → readNonceCount text = some header.nonceCount) ↔ _
      rw [printed]
      simp only [Option.some.injEq, forall_eq']
      rw [readNonceCount_percent08x (by omega), Option.some.injEq]
    rw [read, ← Int32.toInt_inj, Int32.toInt_ofInt_of_le (by omega) (by omega), ← natural, Int32.lt_iff_toInt_lt,
      ← natural, Int.natCast_inj, magnitude.2]
    exact Int.ofNat_lt.symm
  · have small : header.nonceCount < 10 := by
      have negative := Int32.not_lt.mp counted
      rw [Int32.le_iff_toInt_le] at negative
      rw [Int32.lt_iff_toInt_lt]
      exact Int.lt_of_le_of_lt negative (by decide)
    simp only [small, iff_true]
    intro text printed
    have absent : header.nonceCountAsString = none := if_neg counted
    exact absurd (absent.symm.trans printed) (by simp)

theorem breaks_blank (rest : Text) : Breaks (' ' :: rest) := by
  intro character first
  cases first
  decide

theorem drop_sessId (origin : Sdp.Origin) : origin.marshal.drop (origin.username.length + 3) =
    percentI origin.sessionId ++ ' ' :: (percentI origin.sessionVersion ++ origin.host) := by
  have marshal := Sdp.origin_marshal origin []
  simp only [List.append_nil] at marshal
  rw [marshal]
  simp

theorem drop_sessVersion (origin : Sdp.Origin) :
    origin.marshal.drop (origin.username.length + (percentI origin.sessionId).length + 4) =
      percentI origin.sessionVersion ++ origin.host := by
  have further : origin.username.length + (percentI origin.sessionId).length + 4 =
      origin.username.length + 3 + ((percentI origin.sessionId).length + 1) := by omega
  rw [further, ← List.drop_drop, drop_sessId, List.drop_append]
  simp

/-- A number that is always printed is read back when its rule reads its text. -/
theorem readBack_printed {α β : Type} {field : PrintedNumber α β} {object : α} {text : Text}
    (printed : field.printed object = some text) :
    field.ReadBack object ↔ field.read text = some (field.number object) := by
  simp only [PrintedNumber.ReadBack, printed, Option.some.injEq, forall_eq']

/-- A number is read back from its text when it is an `int`, and the nonce count when it is a digit. -/
theorem printed_numbers_read_back (cseq : PrintedCseq) (length : UInt32) (origin : Sdp.Origin)
    (authorization : HeaderAuthorization) :
    (seqNumber.ReadBack cseq ↔ cseq.seqNumber < 2147483648) ∧
      (contentLength.ReadBack length ↔ length < 2147483648) ∧
      (sessId.ReadBack origin ↔ origin.sessionId < 2147483648) ∧
      (sessVersion.ReadBack origin ↔ origin.sessionVersion < 2147483648) ∧
      (nonceCount.ReadBack authorization ↔ authorization.nonceCount < 10) := by
  refine ⟨?_, ?_, ?_, ?_, nonceCount_readBack authorization⟩
  · rw [readBack_printed rfl]
    exact readDecimal_iff (breaks_blank cseq.method)
  · have ends : Breaks [] := by simp [Breaks]
    have alone := @readDecimal_iff length [] ends
    rw [List.append_nil] at alone
    rw [readBack_printed rfl]
    exact alone
  · rw [readBack_printed (congrArg some (drop_sessId origin))]
    exact readDecimal_iff (breaks_blank _)
  · rw [readBack_printed (congrArg some (drop_sessVersion origin))]
    exact readDecimal_iff (breaks_blank _)

/-- The sequence number 2^31 is printed with a sign, and the nonce count 16 is printed as the digits of ten. -/
theorem not_printed_numbers_read_back :
    ¬seqNumber.ReadBack ⟨2147483648, "INVITE".toList⟩ ∧ ¬nonceCount.ReadBack { nonceCount := 16 } := by
  constructor
  · intro readBack
    exact absurd (readBack _ rfl) (by decide)
  · intro readBack
    exact absurd (readBack "00000010".toList (by decide)) (by decide)

end BelleSip
