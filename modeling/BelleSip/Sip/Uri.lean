import Mathlib.Data.List.Nodup
import Mathlib.Tactic.Common

/-
This file defines SIP URIs as they are held in memory, and how their texts are read character by character.
-/

namespace BelleSip

/-- The bytes of a C string before its terminator. -/
abbrev CString := List UInt8

/-- This is `belle_sip_param_pair_t`; its field `ref` is always 0. -/
structure ParamPair where
  name : CString
  value : Option CString := none
deriving DecidableEq, Repr

/-- This is `belle_sip_uri_t`; the two lists are `params.param_list` and `header_list->param_list`. -/
structure SipUri where
  secure : Bool := false
  user : Option CString := none
  userPassword : Option CString := none
  host : Option CString := none
  port : Int := 0
  params : List ParamPair := []
  headerList : List ParamPair := []
deriving DecidableEq, Repr

/-- A small letter becomes a capital one, as in `uri_strncmp_common`. -/
def upperChar (byte : UInt8) : UInt8 := if 96 < byte ∧ byte < 123 then byte - 32 else byte

/-- Two names are the same for `strcasecmp`. -/
def sameName (first second : CString) : Bool := first.map upperChar = second.map upperChar

/-- This is `belle_sip_parameters_get_parameter`. -/
def getParameter (params : List ParamPair) (name : CString) : Option CString :=
  (params.find? fun pair => pair.name = name).bind ParamPair.value

/-- This is `belle_sip_parameters_get_case_parameter`. -/
def getCaseParameter (params : List ParamPair) (name : CString) : Option CString :=
  (params.find? fun pair => sameName pair.name name).bind ParamPair.value

def hexDigit (byte : UInt8) : Option UInt8 :=
  if 48 ≤ byte ∧ byte ≤ 57 then some (byte - 48)
  else if 65 ≤ upperChar byte ∧ upperChar byte ≤ 70 then some (upperChar byte - 55)
  else none

/-- This is `isspace` in the C locale. -/
def isSpaceByte (byte : UInt8) : Bool := byte = 32 || 9 ≤ byte && byte ≤ 13

/-- The low byte that `sscanf` stores for `%02x`: blanks are skipped, then at most two characters are read, a sign
among them. Where they are no number, nothing is stored. -/
def scanHex (text : CString) : Option UInt8 :=
  match text.dropWhile isSpaceByte with
  | [] => none
  | [digit] => hexDigit digit
  | first :: second :: _ =>
      if first = 43 then hexDigit second
      else if first = 45 then (hexDigit second).map (0 - ·)
      else if first = 48 ∧ upperChar second = 88 then none
      else (hexDigit first).map fun high =>
        match hexDigit second with
        | some low => 16 * high + low
        | none => high

/-- This is `belle_sip_get_char`: the character and the number of bytes that it takes. Where `sscanf` stores nothing,
the character is a variable without a value. -/
def getChar (text : CString) (available : Nat) : Option UInt8 × Nat :=
  match text with
  | [] => (some 0, 1)
  | byte :: rest => if byte = 37 ∧ 2 < available then (scanHex rest, 3) else (some byte, 1)

end BelleSip
