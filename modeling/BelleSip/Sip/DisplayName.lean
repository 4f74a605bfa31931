import BelleSip.Sip.Unescaping

/-
This file models the display name of a header address, as it is printed and as the grammar reads it back, and proves
what comes back of it.
-/

namespace BelleSip

open Foundation

/-- This is the size of the buffer in `belle_sip_display_name_to_backslashed_escaped_string`. -/
def maxToStringSize : Nat := 2048

/-- A quotation mark or a backslash. -/
def isBackslashed (byte : UInt8) : Bool := byte = 34 || byte = 92

/-- The loop of `belle_sip_display_name_to_backslashed_escaped_string` from an index of its buffer on. It ends where a
byte and its backslash may not fit. -/
def backslashFrom : Nat → CString → CString
  | _, [] => []
  | index, byte :: rest =>
      if index < maxToStringSize - 2 then
        if isBackslashed byte then 92 :: byte :: backslashFrom (index + 2) rest
        else byte :: backslashFrom (index + 1) rest
      else []

/-- The part of `_belle_sip_header_address_marshal` that prints the display name. -/
def displaynameMarshal (displayname : Option CString) : CString :=
  match displayname with
  | some displayname => 34 :: backslashFrom 0 displayname ++ [34, 32]
  | none => []

/-- The rule `quoted_string` of the grammar behind its first quotation mark, with what follows its last one. -/
def quotedRest : CString → Option (CString × CString)
  | [] => none
  | [byte] => if byte = 34 then some ([34], []) else none
  | byte :: next :: rest =>
      if byte = 34 then some ([34], next :: rest)
      else if byte = 92 then (quotedRest rest).map fun read => (92 :: next :: read.1, read.2)
      else (quotedRest (next :: rest)).map fun read => (byte :: read.1, read.2)

/-- The rule `quoted_string` of the grammar. -/
def quotedString (text : CString) : Option (CString × CString) :=
  match text with
  | 34 :: rest => (quotedRest rest).map fun read => (34 :: read.1, read.2)
  | _ => none

/-- This is `belle_sip_string_to_backslash_less_unescaped_string`, whose result ends at its first terminator. -/
def toBackslashLess (text : CString) : Checked CString := do
  let output ← decode backslashChar 0 text
  return (output.map fun stored => stored.getD 0).takeWhile (· ≠ 0)

/-- This is `_belle_sip_str_dup_and_unquote_string`. -/
def dupAndUnquoteString (text : CString) : CString := (text.drop 1).take (text.length - 2)

/-- This is `belle_sip_header_address_set_quoted_displayname`. -/
def setQuotedDisplayname (value : CString) : Option CString :=
  if 2 < value.length then some (dupAndUnquoteString value) else none

/-- The rule `display_name` of the grammar on a quoted string: the display name that is set, and the text behind. -/
def displayName (text : CString) : Checked (Option (Option CString × CString)) :=
  match quotedString text with
  | none => return none
  | some (token, behind) => do
      let unescaped ← toBackslashLess token
      return some (setQuotedDisplayname unescaped, behind)

/-- The first bytes of a display name that are printed from an index of the buffer on. -/
def printedFrom : Nat → CString → CString
  | _, [] => []
  | index, byte :: rest =>
      if index < maxToStringSize - 2 then
        byte :: printedFrom (index + if isBackslashed byte then 2 else 1) rest
      else []

/-- The length of a display name with its backslashes. -/
def backslashedLength (text : CString) : Nat := text.length + text.countP isBackslashed

variable {index : Nat} {text behind : CString}

/-- A quoted string ends behind the display name that has been printed. -/
theorem quotedRest_backslashFrom :
    quotedRest (backslashFrom index text ++ 34 :: behind) = some (backslashFrom index text ++ [34], behind) := by
  have closing : quotedRest (34 :: behind) = some ([34], behind) := by cases behind <;> simp [quotedRest]
  induction text generalizing index with
  | nil => exact closing
  | cons byte text ih =>
      rw [backslashFrom]
      split
      · split
        · next escaped =>
            rw [List.cons_append, List.cons_append, quotedRest]
            simp [ih]
        · next plain =>
            have other : byte ≠ 34 ∧ byte ≠ 92 := by simpa [isBackslashed] using plain
            rw [List.cons_append]
            cases rest : backslashFrom (index + 1) text ++ 34 :: behind with
            | nil => simp at rest
            | cons next more =>
                rw [quotedRest, ← rest, ih]
                simp [other]
      · exact closing

theorem decode_backslashFrom :
    decode backslashChar 0 (backslashFrom index text ++ [34]) =
        .ok ((printedFrom index text).map some ++ [some 34]) := by
  have closing : decode backslashChar 0 [34] = .ok [some 34] := by decide
  induction text generalizing index with
  | nil => exact closing
  | cons byte text ih =>
      rw [backslashFrom, printedFrom]
      split
      · split
        · next escaped => simp [decode, backslashChar, ih]
        · next plain =>
            have other : byte ≠ 92 := by
              intro same
              simp [isBackslashed, same] at plain
            simp [decode, backslashChar, other, ih]
      · exact closing

theorem printedFrom_grows : printedFrom index text <+: text := by
  induction text generalizing index with
  | nil => exact List.prefix_refl _
  | cons byte text ih =>
      rw [printedFrom]
      split
      · exact List.cons_prefix_cons.mpr ⟨rfl, ih⟩
      · exact List.nil_prefix

/-- A display name is printed whole when its last byte begins in time. -/
theorem printedFrom_eq_iff : printedFrom index text = text ↔
    text = [] ∨ index + backslashedLength text.dropLast < maxToStringSize - 2 := by
  induction text generalizing index with
  | nil => simp [printedFrom]
  | cons byte text ih =>
      rw [printedFrom]
      have grows : ∀ others : CString, backslashedLength (byte :: others) =
          (if isBackslashed byte then 2 else 1) + backslashedLength others := by
        intro others
        rw [backslashedLength, backslashedLength, List.length_cons, List.countP_cons]
        split <;> omega
      split
      · next inside =>
          rw [List.cons_inj_right, ih]
          cases text with
          | nil => simp [backslashedLength, inside]
          | cons next text =>
              rw [List.dropLast_cons_cons, grows]
              simp only [List.cons_ne_nil, false_or]
              omega
      · next outside =>
          refine iff_of_false (List.cons_ne_nil _ _).symm ?_
          rintro (none_ | short)
          · cases none_
          · exact outside (Nat.lt_of_le_of_lt (Nat.le_add_right _ _) short)

/-- The quoted string that is printed is read back up to the byte where the printing ended. -/
theorem displayName_marshal {name : CString} (terminated : 0 ∉ name) (behind : CString) :
    displayName (displaynameMarshal (some name) ++ behind) =
      .ok (some (if name = [] then none else some (printedFrom 0 name), 32 :: behind)) := by
  have token : quotedString (displaynameMarshal (some name) ++ behind) =
      some (34 :: (backslashFrom 0 name ++ [34]), 32 :: behind) := by
    have read := @quotedRest_backslashFrom 0 name (32 :: behind)
    simp only [displaynameMarshal, List.cons_append, List.append_assoc, List.nil_append, quotedString, read,
      Option.map_some]
  have decoded : decode backslashChar 0 (34 :: (backslashFrom 0 name ++ [34])) =
      .ok (some 34 :: ((printedFrom 0 name).map some ++ [some 34])) := by
    rw [decode]
    simp [backslashChar, decode_backslashFrom]
  have unescaped : toBackslashLess (34 :: (backslashFrom 0 name ++ [34])) =
      .ok (34 :: (printedFrom 0 name ++ [34])) := by
    have whole : (34 :: (printedFrom 0 name ++ [34])).takeWhile (· ≠ 0) = 34 :: (printedFrom 0 name ++ [34]) := by
      apply List.takeWhile_eq_self_iff.mpr
      intro byte among
      rcases List.mem_cons.mp among with rfl | inside
      · decide
      rcases List.mem_append.mp inside with printed | last
      · have other : byte ≠ 0 := by
          rintro rfl
          exact terminated (printedFrom_grows.subset printed)
        simpa using other
      · rw [List.mem_singleton.mp last]
        decide
    rw [toBackslashLess, decoded, Checked.ok_bind]
    simp only [List.map_cons, List.map_append, List.map_map, List.map_nil, Option.getD_some]
    have same : (printedFrom 0 name).map ((fun stored => stored.getD 0) ∘ some) = printedFrom 0 name := by
      exact List.map_id _
    rw [same, whole]
    rfl
  rw [displayName, token]
  dsimp only
  rw [unescaped, Checked.ok_bind]
  refine congrArg (fun set => (Except.ok (some (set, 32 :: behind)) : Checked _)) ?_
  cases name with
  | nil => rfl
  | cons byte name =>
      have first : printedFrom 0 (byte :: name) =
          byte :: printedFrom (0 + if isBackslashed byte then 2 else 1) name := if_pos (by decide)
      rw [setQuotedDisplayname, first, if_neg (List.cons_ne_nil _ _), if_pos (by simp), dupAndUnquoteString]
      simp

/-- A display name comes back up to the byte where the printing ended: whole, when there is room for all bytes before
its last one, and not at all when it is empty. -/
theorem displayName_recovered (name behind : CString) (terminated : 0 ∉ name) :
    displayName (displaynameMarshal (some name) ++ behind) =
        .ok (some (if name = [] then none else some (printedFrom 0 name), 32 :: behind)) ∧
      printedFrom 0 name <+: name ∧
        (printedFrom 0 name = name ↔ name = [] ∨ backslashedLength name.dropLast < maxToStringSize - 2) := by
  refine ⟨displayName_marshal terminated behind, printedFrom_grows, ?_⟩
  rw [printedFrom_eq_iff, Nat.zero_add]

theorem displayName_recovered_quotes :
    displayName (displaynameMarshal (some (asciiBytes "a\\\"b")) ++ asciiBytes "<sip:c>") =
      .ok (some (some (asciiBytes "a\\\"b"), asciiBytes " <sip:c>")) :=
  (displayName_recovered (asciiBytes "a\\\"b") (asciiBytes "<sip:c>") (by decide)).1

/-- Of a name of letters, one byte less than the end of the loop is printed. -/
theorem printedFrom_letters (count : Nat) :
    printedFrom 0 (List.replicate (count + 1) 97) = List.replicate (count + 1) 97 ↔ count < maxToStringSize - 2 := by
  have plain : isBackslashed 97 = false := by decide
  have letters : backslashedLength (List.replicate count 97) = count := by
    rw [backslashedLength, List.length_replicate, List.countP_replicate, plain]
    rfl
  rw [printedFrom_eq_iff, List.dropLast_replicate, Nat.add_sub_cancel, letters, Nat.zero_add]
  exact or_iff_right (by rw [List.replicate_succ]; exact List.cons_ne_nil _ _)

/-- An empty display name comes back as none, and one with 2047 letters without its last one. -/
theorem not_displayName_recovered :
    displayName (displaynameMarshal (some []) ++ asciiBytes "<sip:c>") =
        .ok (some (none, asciiBytes " <sip:c>")) ∧
      ∃ printed, displayName (displaynameMarshal (some (List.replicate 2047 97)) ++ asciiBytes "<sip:c>") =
          .ok (some (some printed, asciiBytes " <sip:c>")) ∧ printed ≠ List.replicate 2047 97 := by
  refine ⟨by decide, printedFrom 0 (List.replicate 2047 97), ?_, ?_⟩
  · have terminated : (0 : UInt8) ∉ List.replicate 2047 97 :=
      fun among => absurd (List.eq_of_mem_replicate among) (by decide)
    rw [displayName_marshal terminated, if_neg]
    · rfl
    · rw [List.replicate_succ]
      exact List.cons_ne_nil _ _
  · exact fun same => absurd ((printedFrom_letters 2046).mp same) (by decide)

end BelleSip
