import BelleSip.Foundation.Percent
import BelleSip.Sip.Uri

/-
This file defines the comparison of two SIP URIs, and proves on which URIs it decides the equality of RFC 3261.
-/

namespace BelleSip

/-- The loop of `uri_strncmp_common` from two positions on; there is no value where a character has none. -/
def strncmpLoop (fold : UInt8 → UInt8) (first second : CString) (size : Nat) :
    (rounds indexA indexB result : Nat) → Option Nat
  | 0, _, _, result => some result
  | rounds + 1, indexA, indexB, result =>
      if first.drop indexA ≠ [] ∧ second.drop indexB ≠ [] ∧ indexA < size ∧ indexB < size then do
        let charA ← (getChar (first.drop indexA) (size - indexA)).1
        let charB ← (getChar (second.drop indexB) (size - indexB)).1
        strncmpLoop fold first second size rounds
          (indexA + (getChar (first.drop indexA) (size - indexA)).2)
          (indexB + (getChar (second.drop indexB) (size - indexB)).2)
          (result + if fold charA ≠ fold charB then 1 else 0)
      else some result

/-- This is `uri_strncmp_common`, whose loop moves both positions in each round. -/
def uriStrncmpCommon (fold : UInt8 → UInt8) (first second : CString) (size : Nat) : Option Nat :=
  strncmpLoop fold first second size size 0 0 0

/-- A comparison that `belle_sip_uri_equals` makes: a test, or the macro `IS_EQUAL` or `IS_EQUAL_CASE` on two texts. -/
inductive Comparison where
  | test (same : Bool)
  | texts (fold : UInt8 → UInt8) (first second : CString)

/-- Two texts are compared up to the end of the shorter one. -/
def Comparison.run : Comparison → Option Bool
  | .test same => some same
  | .texts fold first second =>
      (uriStrncmpCommon fold first second (min first.length second.length)).map fun result => result = 0

/-- This is the macro `PARAM_CASE_CMP`. -/
def paramCaseCmp (uriA uriB : SipUri) (name : CString) : Comparison :=
  match getCaseParameter uriA.params name, getCaseParameter uriB.params name with
  | some first, some second => .texts upperChar first second
  | first, second => .test (first.isSome = second.isSome)

def transportName : CString := [116, 114, 97, 110, 115, 112, 111, 114, 116]
def userName : CString := [117, 115, 101, 114]
def ttlName : CString := [116, 116, 108]
def methodName : CString := [109, 101, 116, 104, 111, 100]
def maddrName : CString := [109, 97, 100, 100, 114]

def significantNames : List CString := [transportName, userName, ttlName, methodName, maddrName]

/-- The comparisons of `belle_sip_uri_equals` in their order. -/
def comparisons (uriA uriB : SipUri) : List Comparison :=
  [.test (uriA.secure = uriB.secure),
    match uriA.user, uriB.user with
    | some first, some second => .texts id first second
    -- the pointer is compared with itself
    | user, _ => .test (user = user),
    match uriA.host, uriB.host with
    | some first, some second => .texts upperChar first second
    | _, _ => .test false,
    .test (uriA.port = uriB.port)] ++
  significantNames.map (paramCaseCmp uriA uriB) ++
  -- the pair is read as a text, which is empty because its field `ref` is 0
  uriA.params.map fun _ =>
    match getParameter uriB.params [] with
    | some value => .texts upperChar value []
    | none => .test true

/-- The first comparison that finds a difference returns. -/
def runAll : List Comparison → Option Bool
  | [] => some true
  | comparison :: rest => comparison.run.bind fun same => if same then runAll rest else some false

/-- This is `belle_sip_uri_equals`. -/
def belleSipUriEquals (uriA uriB : SipUri) : Option Bool := runAll (comparisons uriA uriB)

/-- The first parameter or header with the name, in any case. -/
def component (pairs : List ParamPair) (name : CString) : Option (Option CString) :=
  (pairs.find? fun pair => sameName pair.name name).map ParamPair.value

/-- The text in capital letters. -/
def capitals (text : CString) : CString := text.map upperChar

def ParamPair.capitals (pair : ParamPair) : ParamPair :=
  { name := BelleSip.capitals pair.name, value := pair.value.map BelleSip.capitals }

/-- RFC 3261, 19.1.4, on the components of two URIs. -/
structure Equivalent (uriA uriB : SipUri) : Prop where
  secure : uriA.secure = uriB.secure
  user : uriA.user = uriB.user
  userPassword : uriA.userPassword = uriB.userPassword
  host : ∃ first second, uriA.host = some first ∧ uriB.host = some second ∧ capitals first = capitals second
  port : uriA.port = uriB.port
  significant : ∀ name ∈ significantNames,
    (component uriA.params name).map (·.map capitals) = (component uriB.params name).map (·.map capitals)
  others : ∀ name first second, component uriA.params name = some first → component uriB.params name = some second →
    first.map capitals = second.map capitals
  headers : ∀ header, header ∈ uriA.headerList.map ParamPair.capitals ↔ header ∈ uriB.headerList.map ParamPair.capitals

/-- The characters of the text within its first bytes, as `belle_sip_get_char` reads them. -/
def glyphs : Nat → CString → List (Option UInt8)
  | _, [] => []
  | 0, _ :: _ => []
  | 1, byte :: _ => [some byte]
  | 2, byte :: rest => some byte :: glyphs 1 rest
  | available + 3, byte :: rest =>
      if byte = 37 then scanHex rest :: glyphs available (rest.drop 2) else some byte :: glyphs (available + 2) rest

/-- The characters that stand at the same places, as far as both texts go. -/
def opposite (first second : CString) : List (Option UInt8 × Option UInt8) :=
  (glyphs (min first.length second.length) first).zip (glyphs (min first.length second.length) second)

/-- Two texts have a value at each place that both of them have. -/
def Legible : Option CString → Option CString → Prop
  | some first, some second => ∀ pair ∈ opposite first second, pair.1.isSome ∧ pair.2.isSome
  | _, _ => True

/-- Two texts differ at a place that both of them have. -/
def Differ (fold : UInt8 → UInt8) : Option CString → Option CString → Prop
  | some first, some second => ∃ pair ∈ opposite first second, pair.1.map fold ≠ pair.2.map fold
  | _, _ => False

/-- The value of the first parameter with the name. -/
def SipUri.value (uri : SipUri) (name : CString) : Option CString := (component uri.params name).join

/-- The values of a parameter differ, or only one of the URIs has one; those of the names before it are legible. -/
def ValuesDiffer (uriA uriB : SipUri) : List CString → Prop
  | [] => False
  | name :: rest => Legible (uriA.value name) (uriB.value name) ∧
      (Differ upperChar (uriA.value name) (uriB.value name) ∨ (uriA.value name).isSome ≠ (uriB.value name).isSome ∨
        ValuesDiffer uriA uriB rest)

/-- The URIs differ in a component, and what comes before it in the order of the function is legible. -/
def ShowDifference (uriA uriB : SipUri) : Prop :=
  uriA.secure ≠ uriB.secure ∨ Legible uriA.user uriB.user ∧
    (Differ id uriA.user uriB.user ∨ uriA.host = none ∨ uriB.host = none ∨ Legible uriA.host uriB.host ∧
      (Differ upperChar uriA.host uriB.host ∨ uriA.port ≠ uriB.port ∨ ValuesDiffer uriA uriB significantNames))

/-- The texts that both URIs have can be read. -/
structure AllLegible (uriA uriB : SipUri) : Prop where
  user : Legible uriA.user uriB.user
  host : Legible uriA.host uriB.host
  values : ∀ name ∈ significantNames, Legible (uriA.value name) (uriB.value name)

/-- All characters that are compared have values. -/
def Comparison.Readable : Comparison → Prop
  | .test _ => True
  | .texts _ first second => ∀ pair ∈ opposite first second, pair.1.isSome ∧ pair.2.isSome

/-- No difference can be seen at the places that both texts have. -/
def Comparison.Agrees : Comparison → Prop
  | .test same => same = true
  | .texts fold first second => ∀ pair ∈ opposite first second, pair.1.map fold = pair.2.map fold

/-- The first comparison with a difference is readable, and so are those before it. -/
def SeenDifference : List Comparison → Prop
  | [] => False
  | comparison :: rest => comparison.Readable ∧ (comparison.Agrees → SeenDifference rest)

theorem upperChar_upperChar (byte : UInt8) : upperChar (upperChar byte) = upperChar byte := by
  revert byte
  apply Foundation.Percent.all_bytes
  decide +kernel

theorem isSpaceByte_upperChar (byte : UInt8) : isSpaceByte (upperChar byte) = isSpaceByte byte := by
  revert byte
  apply Foundation.Percent.all_bytes
  decide +kernel

theorem hexDigit_upperChar (byte : UInt8) : hexDigit (upperChar byte) = hexDigit byte := by
  revert byte
  apply Foundation.Percent.all_bytes
  decide +kernel

/-- The signs and the digit 0 stand for no letter. -/
theorem upperChar_eq_iff (byte : UInt8) :
    (upperChar byte = 37 ↔ byte = 37) ∧ (upperChar byte = 43 ↔ byte = 43) ∧ (upperChar byte = 45 ↔ byte = 45) ∧
      (upperChar byte = 48 ↔ byte = 48) := by
  revert byte
  apply Foundation.Percent.all_bytes
  decide +kernel

/-- A hexadecimal number does not depend on the case of its text. -/
theorem scanHex_capitals (text : CString) : scanHex (capitals text) = scanHex text := by
  have skipped : (capitals text).dropWhile isSpaceByte = capitals (text.dropWhile isSpaceByte) := by
    induction text with
    | nil => rfl
    | cons byte rest ih =>
        rw [capitals, List.map_cons, List.dropWhile_cons, List.dropWhile_cons, isSpaceByte_upperChar]
        split
        · exact ih
        · rfl
  rw [scanHex, scanHex, skipped]
  generalize text.dropWhile isSpaceByte = rest
  cases rest with
  | nil => rfl
  | cons first rest =>
      cases rest with
      | nil => exact hexDigit_upperChar first
      | cons second rest =>
          obtain ⟨_, plus, minus, zero⟩ := upperChar_eq_iff first
          simp only [capitals, List.map_cons, plus, minus, zero, hexDigit_upperChar, upperChar_upperChar]

/-- The characters of a text in capital letters are those of the text, up to their case. -/
theorem glyphs_capitals (available : Nat) (text : CString) :
    (glyphs available (capitals text)).map (·.map upperChar) = (glyphs available text).map (·.map upperChar) := by
  induction available, text using glyphs.induct with
  | case1 => rfl
  | case2 => rfl
  | case3 byte rest => simp [capitals, glyphs, upperChar_upperChar]
  | case4 byte rest ih =>
      rw [capitals] at ih
      simp [capitals, glyphs, upperChar_upperChar, ih]
  | case5 available rest ih =>
      have escaped : upperChar 37 = 37 := by decide
      have tails : (capitals rest).drop 2 = capitals (rest.drop 2) := (List.map_drop).symm
      have hex := scanHex_capitals rest
      rw [capitals] at tails hex
      rw [capitals, List.map_cons, glyphs, glyphs, if_pos escaped, if_pos rfl, hex, tails, List.map_cons, ih,
        List.map_cons]
  | case6 available byte rest noEscape ih =>
      have notEscaped := mt (upperChar_eq_iff byte).1.mp noEscape
      rw [capitals] at ih
      rw [capitals, List.map_cons, glyphs, glyphs, if_neg notEscaped, if_neg noEscape, List.map_cons, ih,
        List.map_cons, Option.map_some, Option.map_some, upperChar_upperChar]

/-- The first character of a text, and those after the bytes that it takes. -/
theorem glyphs_cons {available : Nat} {text : CString} (positive : 0 < available) (more : text ≠ []) :
    0 < (getChar text available).2 ∧ glyphs available text =
      (getChar text available).1 ::
        glyphs (available - (getChar text available).2) (text.drop (getChar text available).2) := by
  obtain ⟨byte, rest, rfl⟩ := List.exists_cons_of_ne_nil more
  match available, positive with
  | 1, _ => cases rest <;> simp [getChar, glyphs]
  | 2, _ => simp [getChar, glyphs]
  | available + 3, _ =>
      by_cases escape : byte = 37
      · simp [getChar, glyphs, escape]
      · simp [getChar, glyphs, escape]

@[simp] theorem glyphs_nil (available : Nat) : glyphs available [] = [] := by rw [glyphs]

theorem glyphs_zero (text : CString) : glyphs 0 text = [] := by cases text <;> rfl

/-- The number of places at which two characters differ; there is none where a character has no value. -/
def differences (fold : UInt8 → UInt8) : List (Option UInt8 × Option UInt8) → Option Nat
  | [] => some 0
  | pair :: rest => do
      let charA ← pair.1
      let charB ← pair.2
      (differences fold rest).map (· + if fold charA ≠ fold charB then 1 else 0)

/-- The loop counts the differences from its positions on. -/
theorem strncmpLoop_eq (fold : UInt8 → UInt8) (first second : CString) (size : Nat) {rounds indexA indexB : Nat}
    (result : Nat) (enough : size - indexA ≤ rounds) :
    strncmpLoop fold first second size rounds indexA indexB result =
      (differences fold ((glyphs (size - indexA) (first.drop indexA)).zip
        (glyphs (size - indexB) (second.drop indexB)))).map (result + ·) := by
  induction rounds generalizing indexA indexB result with
  | zero =>
      have none : size - indexA = 0 := by omega
      rw [none, glyphs_zero, List.zip_nil_left, strncmpLoop]
      rfl
  | succ rounds ih =>
      rw [strncmpLoop]
      split
      · next more =>
          obtain ⟨moreA, moreB, insideA, insideB⟩ := more
          obtain ⟨stepA, glyphsA⟩ := glyphs_cons (Nat.sub_pos_of_lt insideA) moreA
          obtain ⟨stepB, glyphsB⟩ := glyphs_cons (Nat.sub_pos_of_lt insideB) moreB
          rw [glyphsA, glyphsB, List.zip_cons_cons, differences]
          cases charA : (getChar (first.drop indexA) (size - indexA)).1 with
          | none => rfl
          | some charA =>
              cases charB : (getChar (second.drop indexB) (size - indexB)).1 with
              | none => rfl
              | some charB =>
                  simp only [bind, Option.bind_some]
                  rw [ih _ (by omega), Nat.sub_sub, Nat.sub_sub, List.drop_drop, List.drop_drop, Option.map_map]
                  congr 1
                  funext count
                  simp only [Function.comp_apply]
                  omega
      · next ended =>
          have nothing : (glyphs (size - indexA) (first.drop indexA)).zip
              (glyphs (size - indexB) (second.drop indexB)) = [] := by
            by_cases endA : first.drop indexA = []
            · rw [endA, glyphs_nil, List.zip_nil_left]
            · by_cases endB : second.drop indexB = []
              · rw [endB, glyphs_nil, List.zip_nil_right]
              · by_cases insideA : indexA < size
                · have insideB : size - indexB = 0 := by
                    by_contra inside
                    exact ended ⟨endA, endB, insideA, by omega⟩
                  rw [insideB, glyphs_zero, List.zip_nil_right]
                · rw [Nat.sub_eq_zero_of_le (Nat.le_of_not_lt insideA), glyphs_zero, List.zip_nil_left]
          rw [nothing]
          rfl

theorem differences_some (fold : UInt8 → UInt8) (charA charB : UInt8) (rest : List (Option UInt8 × Option UInt8)) :
    differences fold ((some charA, some charB) :: rest) =
      (differences fold rest).map (· + if fold charA ≠ fold charB then 1 else 0) := rfl

theorem differences_readable (fold : UInt8 → UInt8) {pairs : List (Option UInt8 × Option UInt8)}
    (readable : ∀ pair ∈ pairs, pair.1.isSome ∧ pair.2.isSome) :
    ∃ count, differences fold pairs = some count ∧
      (count = 0 ↔ ∀ pair ∈ pairs, pair.1.map fold = pair.2.map fold) := by
  induction pairs with
  | nil => exact ⟨0, rfl, iff_of_true rfl (List.forall_mem_nil _)⟩
  | cons pair rest ih =>
      obtain ⟨charA, charB⟩ := pair
      rw [List.forall_mem_cons] at readable
      obtain ⟨⟨readableA, readableB⟩, others⟩ := readable
      obtain ⟨valueA, rfl⟩ := Option.isSome_iff_exists.mp readableA
      obtain ⟨valueB, rfl⟩ := Option.isSome_iff_exists.mp readableB
      obtain ⟨count, counted, agree⟩ := ih others
      refine ⟨count + if fold valueA ≠ fold valueB then 1 else 0,
        by rw [differences_some, counted, Option.map_some], ?_⟩
      rw [List.forall_mem_cons, ← agree, Option.map_some, Option.map_some, Option.some.injEq]
      split
      · next different =>
          exact iff_of_false (Nat.succ_ne_zero count) fun all => different all.1
      · next same =>
          rw [Nat.add_zero, and_iff_right (not_not.mp same)]

theorem differences_unreadable (fold : UInt8 → UInt8) {pairs : List (Option UInt8 × Option UInt8)}
    (unreadable : ¬∀ pair ∈ pairs, pair.1.isSome ∧ pair.2.isSome) : differences fold pairs = none := by
  induction pairs with
  | nil => exact absurd (List.forall_mem_nil _) unreadable
  | cons pair rest ih =>
      obtain ⟨charA, charB⟩ := pair
      cases charA with
      | none => rfl
      | some valueA =>
          cases charB with
          | none => rfl
          | some valueB =>
              rw [List.forall_mem_cons, and_iff_right ⟨rfl, rfl⟩] at unreadable
              rw [differences_some, ih unreadable, Option.map_none]

namespace Comparison

/-- A readable comparison finds whether the texts agree, and no other one finds anything. -/
theorem run_spec (comparison : Comparison) :
    (comparison.run = some true ↔ comparison.Readable ∧ comparison.Agrees) ∧
      (comparison.run = some false ↔ comparison.Readable ∧ ¬comparison.Agrees) := by
  cases comparison with
  | test same => cases same <;> simp [run, Readable, Agrees]
  | texts fold first second =>
      have looped : uriStrncmpCommon fold first second (min first.length second.length) =
          differences fold (opposite first second) := by
        rw [uriStrncmpCommon, strncmpLoop_eq fold first second _ 0 (by omega)]
        simp only [Nat.sub_zero, List.drop_zero, Nat.zero_add, Option.map_id', opposite]
      rw [run, looped, Readable, Agrees]
      by_cases readable : ∀ pair ∈ opposite first second, pair.1.isSome ∧ pair.2.isSome
      · obtain ⟨count, counts, agree⟩ := differences_readable fold readable
        rw [counts, ← agree, and_iff_right readable, and_iff_right readable]
        simp only [Option.map_some, Option.some.injEq, decide_eq_true_eq, decide_eq_false_iff_not, and_self]
      · rw [differences_unreadable fold readable]
        simp only [Option.map_none, reduceCtorEq, false_iff, not_and]
        exact ⟨fun readable' => absurd readable' readable, fun readable' => absurd readable' readable⟩

end Comparison

theorem runAll_true {rows : List Comparison} :
    runAll rows = some true ↔ ∀ comparison ∈ rows, comparison.Readable ∧ comparison.Agrees := by
  induction rows with
  | nil => simp [runAll]
  | cons comparison rest ih =>
      obtain ⟨finds, _⟩ := comparison.run_spec
      rw [List.forall_mem_cons, ← finds, ← ih, runAll]
      cases comparison.run with
      | none => simp
      | some same => cases same <;> simp

theorem runAll_false {rows : List Comparison} : runAll rows = some false ↔ SeenDifference rows := by
  induction rows with
  | nil => simp [runAll, SeenDifference]
  | cons comparison rest ih =>
      obtain ⟨agrees, differs⟩ := comparison.run_spec
      rw [SeenDifference, ← ih, runAll]
      cases found : comparison.run with
      | none =>
          rw [found] at agrees differs
          have unreadable : ¬comparison.Readable := by
            intro readable
            by_cases agree : comparison.Agrees
            · cases agrees.mpr ⟨readable, agree⟩
            · cases differs.mpr ⟨readable, agree⟩
          simp [unreadable]
      | some same =>
          cases same with
          | true =>
              obtain ⟨readable, agree⟩ := agrees.mp found
              simp [readable, agree]
          | false =>
              obtain ⟨readable, disagree⟩ := differs.mp found
              simp [readable, disagree]

/-- Texts that are the same up to the case of their letters agree in all their characters. -/
theorem agrees_of_capitals {first second : CString} (same : capitals first = capitals second) :
    (Comparison.texts upperChar first second).Agrees := by
  have length : first.length = second.length := by
    have lengths := congrArg List.length same
    simpa [capitals] using lengths
  have lists : (glyphs first.length first).map (·.map upperChar) =
      (glyphs first.length second).map (·.map upperChar) := by
    rw [← glyphs_capitals, same, glyphs_capitals]
  intro pair among
  rw [opposite, ← length, Nat.min_self] at among
  generalize glyphs first.length first = left at among lists
  generalize glyphs first.length second = right at among lists
  induction left generalizing right with
  | nil => cases among
  | cons head left ih =>
      cases right with
      | nil => cases among
      | cons other right =>
          rw [List.map_cons, List.map_cons] at lists
          obtain ⟨heads, tails⟩ := List.cons.inj lists
          rcases List.mem_cons.mp among with rfl | among
          · exact heads
          · exact ih right among tails

theorem agrees_self (fold : UInt8 → UInt8) (text : CString) : (Comparison.texts fold text text).Agrees := by
  intro pair among
  rw [opposite] at among
  generalize glyphs (min text.length text.length) text = characters at among
  induction characters with
  | nil => cases among
  | cons character characters ih =>
      rcases List.mem_cons.mp among with rfl | among
      · rfl
      · exact ih among

theorem getCaseParameter_eq (params : List ParamPair) (name : CString) :
    getCaseParameter params name = (component params name).join := by
  rw [getCaseParameter, component]
  cases params.find? fun pair => sameName pair.name name <;> rfl

namespace Equivalent

variable {uriA uriB uriC : SipUri}

/-- The URIs agree in a parameter that must be in both of them or in none. -/
theorem paramCaseCmp_agrees (equivalent : Equivalent uriA uriB) {name : CString}
    (significant : name ∈ significantNames) :
    (paramCaseCmp uriA uriB name).Agrees := by
  have same := equivalent.significant name significant
  rw [paramCaseCmp, getCaseParameter_eq, getCaseParameter_eq]
  cases inA : component uriA.params name with
  | none =>
      rw [inA] at same
      cases inB : component uriB.params name with
      | none => simp [Comparison.Agrees]
      | some second =>
          rw [inB] at same
          cases same
  | some first =>
      rw [inA] at same
      cases inB : component uriB.params name with
      | none =>
          rw [inB] at same
          cases same
      | some second =>
          rw [inB] at same
          cases first with
          | none =>
              cases second with
              | none => simp [Comparison.Agrees]
              | some second => simp at same
          | some first =>
              cases second with
              | none => simp at same
              | some second =>
                  simp only [Option.map_some, Option.some.injEq] at same
                  exact agrees_of_capitals same

/-- Nothing that the code compares shows a difference between equivalent URIs. -/
theorem agrees (equivalent : Equivalent uriA uriB) : ∀ comparison ∈ comparisons uriA uriB, comparison.Agrees := by
  intro comparison among
  simp only [comparisons, List.mem_append, List.mem_cons, List.not_mem_nil, or_false, List.mem_map] at among
  rcases among with ((rfl | rfl | rfl | rfl) | ⟨name, significant, rfl⟩) | ⟨pair, _, rfl⟩
  · simp [Comparison.Agrees, equivalent.secure]
  · rw [equivalent.user]
    cases uriB.user with
    | none => simp [Comparison.Agrees]
    | some user => exact agrees_self id user
  · obtain ⟨first, second, hostA, hostB, same⟩ := equivalent.host
    rw [hostA, hostB]
    exact agrees_of_capitals same
  · simp [Comparison.Agrees, equivalent.port]
  · exact equivalent.paramCaseCmp_agrees significant
  · cases getParameter uriB.params [] with
    | none => simp [Comparison.Agrees]
    | some value => simp [Comparison.Agrees, opposite]

end Equivalent

/-- A difference that is seen is a difference. -/
theorem SeenDifference.not_agrees {rows : List Comparison} (seen : SeenDifference rows) :
    ¬∀ comparison ∈ rows, comparison.Agrees := by
  induction rows with
  | nil => exact seen.elim
  | cons comparison rest ih =>
      intro agree
      rw [List.forall_mem_cons] at agree
      exact ih (seen.2 agree.1) agree.2

/-- The URIs show a difference, or they are equivalent and the texts that are compared can be read. -/
def Decided (uriA uriB : SipUri) : Prop := ShowDifference uriA uriB ∨ Equivalent uriA uriB ∧ AllLegible uriA uriB

theorem not_agrees_texts {fold : UInt8 → UInt8} {first second : CString} :
    ¬(Comparison.texts fold first second).Agrees ↔ Differ fold (some first) (some second) := by
  simp [Comparison.Agrees, Differ]

theorem seen_cons {comparison : Comparison} {rest : List Comparison} : SeenDifference (comparison :: rest) ↔
    comparison.Readable ∧ (¬comparison.Agrees ∨ SeenDifference rest) := by
  rw [SeenDifference, or_iff_not_imp_left, not_not]

theorem seen_test {same : Bool} {rest : List Comparison} :
    SeenDifference (.test same :: rest) ↔ same = false ∨ SeenDifference rest := by
  simp [seen_cons, Comparison.Readable, Comparison.Agrees]

/-- A comparison of the values of a parameter. -/
theorem seen_param {uriA uriB : SipUri} {name : CString} {rest : List Comparison} :
    SeenDifference (paramCaseCmp uriA uriB name :: rest) ↔ Legible (uriA.value name) (uriB.value name) ∧
      (Differ upperChar (uriA.value name) (uriB.value name) ∨ (uriA.value name).isSome ≠ (uriB.value name).isSome ∨
        SeenDifference rest) := by
  rw [paramCaseCmp, getCaseParameter_eq, getCaseParameter_eq]
  change SeenDifference ((match uriA.value name, uriB.value name with
    | some first, some second => Comparison.texts upperChar first second
    | first, second => .test (first.isSome = second.isSome)) :: rest) ↔ _
  cases uriA.value name with
  | none =>
      cases uriB.value name with
      | none => simp [seen_test, Legible, Differ]
      | some second => simp [seen_test, Legible, Differ]
  | some first =>
      cases uriB.value name with
      | none => simp [seen_test, Legible, Differ]
      | some second =>
          rw [seen_cons, not_agrees_texts]
          simp [Comparison.Readable, Legible]

theorem readable_param {uriA uriB : SipUri} {name : CString} :
    (paramCaseCmp uriA uriB name).Readable ↔ Legible (uriA.value name) (uriB.value name) := by
  rw [paramCaseCmp, getCaseParameter_eq, getCaseParameter_eq]
  unfold SipUri.value
  cases (component uriA.params name).join <;> cases (component uriB.params name).join <;> rfl

/-- The pair that is read as a text shows nothing. -/
theorem not_seen_others (uriB : SipUri) (params : List ParamPair) :
    ¬SeenDifference (params.map fun _ =>
      match getParameter uriB.params [] with
      | some value => Comparison.texts upperChar value []
      | none => .test true) := by
  intro seen
  apply seen.not_agrees
  intro comparison among
  obtain ⟨pair, _, rfl⟩ := List.mem_map.mp among
  cases getParameter uriB.params [] with
  | none => simp [Comparison.Agrees]
  | some value => simp [Comparison.Agrees, opposite]

theorem seen_values {uriA uriB : SipUri} {rest : List Comparison} (nothing : ¬SeenDifference rest)
    (names : List CString) :
    SeenDifference (names.map (paramCaseCmp uriA uriB) ++ rest) ↔ ValuesDiffer uriA uriB names := by
  induction names with
  | nil => exact iff_of_false nothing id
  | cons name names ih =>
      rw [List.map_cons, List.cons_append, seen_param, ih]
      rfl

/-- The difference that the comparisons see is one between the components. -/
theorem seen_iff (uriA uriB : SipUri) : SeenDifference (comparisons uriA uriB) ↔ ShowDifference uriA uriB := by
  have values := @seen_values uriA uriB _ (not_seen_others uriB uriA.params) significantNames
  unfold comparisons ShowDifference
  rw [List.append_assoc, List.cons_append, List.cons_append, List.cons_append, List.cons_append, List.nil_append,
    seen_test]
  have hosts : ∀ rest, SeenDifference ((match uriA.host, uriB.host with
      | some first, some second => Comparison.texts upperChar first second
      | _, _ => .test false) :: rest) ↔ uriA.host = none ∨ uriB.host = none ∨ Legible uriA.host uriB.host ∧
        (Differ upperChar uriA.host uriB.host ∨ SeenDifference rest) := by
    intro rest
    cases uriA.host with
    | none => simp [seen_test]
    | some first =>
        cases uriB.host with
        | none => simp [seen_test]
        | some second =>
            rw [seen_cons, not_agrees_texts]
            simp [Comparison.Readable, Legible]
  have users : ∀ rest, SeenDifference ((match uriA.user, uriB.user with
      | some first, some second => Comparison.texts id first second
      | user, _ => .test (user = user)) :: rest) ↔ Legible uriA.user uriB.user ∧
        (Differ id uriA.user uriB.user ∨ SeenDifference rest) := by
    intro rest
    cases uriA.user with
    | none => simp [seen_test, Legible, Differ]
    | some first =>
        cases uriB.user with
        | none => simp [seen_test, Legible, Differ]
        | some second =>
            rw [seen_cons, not_agrees_texts]
            simp [Comparison.Readable, Legible]
  rw [users, hosts, seen_test, values]
  simp only [decide_eq_false_iff_not, ne_eq]

/-- The texts that are compared are those of the components. -/
theorem readable_iff (uriA uriB : SipUri) :
    (∀ comparison ∈ comparisons uriA uriB, comparison.Readable) ↔ AllLegible uriA uriB := by
  have users : (match uriA.user, uriB.user with
      | some first, some second => Comparison.texts id first second
      | user, _ => .test (user = user)).Readable ↔ Legible uriA.user uriB.user := by
    cases uriA.user <;> cases uriB.user <;> rfl
  have hosts : (match uriA.host, uriB.host with
      | some first, some second => Comparison.texts upperChar first second
      | _, _ => .test false).Readable ↔ Legible uriA.host uriB.host := by
    cases uriA.host <;> cases uriB.host <;> rfl
  have others : ∀ comparison ∈ uriA.params.map fun _ =>
      match getParameter uriB.params [] with
      | some value => Comparison.texts upperChar value []
      | none => .test true, comparison.Readable := by
    intro comparison among
    obtain ⟨pair, _, rfl⟩ := List.mem_map.mp among
    cases getParameter uriB.params [] with
    | none => trivial
    | some value => simp [Comparison.Readable, opposite]
  rw [comparisons, List.forall_mem_append, List.forall_mem_append, List.forall_mem_cons, List.forall_mem_cons,
    List.forall_mem_cons, List.forall_mem_singleton, users, hosts, List.forall_mem_map, and_iff_left others]
  simp only [readable_param]
  exact ⟨fun ⟨⟨_, user, host, _⟩, values⟩ => ⟨user, host, values⟩,
    fun legible => ⟨⟨trivial, legible.user, legible.host, trivial⟩, legible.values⟩⟩

theorem belleSipUriEquals_iff (uriA uriB : SipUri) :
    (∃ answer, belleSipUriEquals uriA uriB = some answer ∧ (answer = true ↔ Equivalent uriA uriB)) ↔
      Decided uriA uriB := by
  rw [belleSipUriEquals, Decided, ← seen_iff, ← readable_iff]
  constructor
  · rintro ⟨answer, found, decides⟩
    cases answer with
    | true =>
        right
        exact ⟨decides.mp rfl, fun comparison among => (runAll_true.mp found comparison among).1⟩
    | false =>
        left
        exact runAll_false.mp found
  · rintro (seen | ⟨equivalent, readable⟩)
    · refine ⟨false, runAll_false.mpr seen, ?_⟩
      simp only [Bool.false_eq_true, false_iff]
      intro equivalent
      exact seen.not_agrees equivalent.agrees
    · refine ⟨true, runAll_true.mpr ?_, by simp [equivalent]⟩
      intro comparison among
      exact ⟨readable comparison among, equivalent.agrees comparison among⟩

namespace Equivalent

variable {uriA uriB uriC : SipUri}

/-- A parameter that two URIs share has the same value in both. -/
def MatchingOthers (uriA uriB : SipUri) : Prop :=
  ∀ name first second, component uriA.params name = some first → component uriB.params name = some second →
    first.map capitals = second.map capitals

theorem refl (uri : SipUri) (hosted : uri.host ≠ none) : Equivalent uri uri := by
  obtain ⟨host, named⟩ := Option.ne_none_iff_exists'.mp hosted
  refine ⟨rfl, rfl, rfl, ⟨host, host, named, named, rfl⟩, rfl, fun _ _ => rfl, ?_, fun _ => Iff.rfl⟩
  intro name first second inFirst inSecond
  rw [inFirst] at inSecond
  rw [Option.some.inj inSecond]

theorem symm (equivalent : Equivalent uriA uriB) : Equivalent uriB uriA := by
  obtain ⟨first, second, hostA, hostB, same⟩ := equivalent.host
  refine ⟨equivalent.secure.symm, equivalent.user.symm, equivalent.userPassword.symm,
    ⟨second, first, hostB, hostA, same.symm⟩, equivalent.port.symm,
    fun name significant => (equivalent.significant name significant).symm, ?_,
    fun header => (equivalent.headers header).symm⟩
  intro name first second inB inA
  exact (equivalent.others name second first inA inB).symm

/-- The rule for the other parameters is the only one that does not carry over to a third URI. -/
theorem trans (equivalent : Equivalent uriA uriB) (next : Equivalent uriB uriC) (others : MatchingOthers uriA uriC) :
    Equivalent uriA uriC := by
  obtain ⟨first, second, hostA, hostB, same⟩ := equivalent.host
  obtain ⟨second', third, hostB', hostC, same'⟩ := next.host
  rw [hostB] at hostB'
  cases hostB'
  exact ⟨equivalent.secure.trans next.secure, equivalent.user.trans next.user,
    equivalent.userPassword.trans next.userPassword, ⟨first, third, hostA, hostC, same.trans same'⟩,
    equivalent.port.trans next.port,
    fun name significant => (equivalent.significant name significant).trans (next.significant name significant), others,
    fun header => (equivalent.headers header).trans (next.headers header)⟩

end Equivalent

/-- On these URIs, `belle_sip_uri_equals` is an equivalence relation and returns true for the equivalent ones. -/
structure DecidesEquality (uris : SipUri → Prop) : Prop where
  reflexive : ∀ uri, uris uri → belleSipUriEquals uri uri = some true
  symmetric : ∀ uriA uriB, uris uriA → uris uriB →
    belleSipUriEquals uriA uriB = some true → belleSipUriEquals uriB uriA = some true
  transitive : ∀ uriA uriB uriC, uris uriA → uris uriB → uris uriC → belleSipUriEquals uriA uriB = some true →
    belleSipUriEquals uriB uriC = some true → belleSipUriEquals uriA uriC = some true
  decides : ∀ uriA uriB, uris uriA → uris uriB →
    ∃ answer, belleSipUriEquals uriA uriB = some answer ∧ (answer = true ↔ Equivalent uriA uriB)

theorem equals_true_iff {uriA uriB : SipUri} (decided : Decided uriA uriB) :
    belleSipUriEquals uriA uriB = some true ↔ Equivalent uriA uriB := by
  obtain ⟨answer, found, decides⟩ := (belleSipUriEquals_iff uriA uriB).mpr decided
  rw [found, Option.some.injEq, decides]

/-- Equality is decided exactly on those URIs that have hosts, of which any two show a difference or are equivalent and
readable, and among which RFC 3261 relates no two whose other parameters differ through a third one. -/
theorem decidesEquality_iff (uris : SipUri → Prop) :
    DecidesEquality uris ↔ (∀ uri, uris uri → uri.host ≠ none) ∧
      (∀ uriA uriB, uris uriA → uris uriB → Decided uriA uriB) ∧
      ∀ uriA uriB uriC, uris uriA → uris uriB → uris uriC → Equivalent uriA uriB → Equivalent uriB uriC →
        Equivalent.MatchingOthers uriA uriC := by
  constructor
  · intro decides
    have decided : ∀ uriA uriB, uris uriA → uris uriB → Decided uriA uriB := by
      intro uriA uriB isA isB
      exact (belleSipUriEquals_iff uriA uriB).mp (decides.decides uriA uriB isA isB)
    refine ⟨?_, decided, ?_⟩
    · intro uri is noHost
      obtain ⟨host, _, named, _⟩ := ((equals_true_iff (decided uri uri is is)).mp (decides.reflexive uri is)).host
      rw [noHost] at named
      cases named
    · intro uriA uriB uriC isA isB isC equivalent next
      have first := (equals_true_iff (decided uriA uriB isA isB)).mpr equivalent
      have second := (equals_true_iff (decided uriB uriC isB isC)).mpr next
      have third := decides.transitive uriA uriB uriC isA isB isC first second
      exact ((equals_true_iff (decided uriA uriC isA isC)).mp third).others
  · rintro ⟨hosted, decided, matching⟩
    refine ⟨?_, ?_, ?_, ?_⟩
    · intro uri is
      exact (equals_true_iff (decided uri uri is is)).mpr (Equivalent.refl uri (hosted uri is))
    · intro uriA uriB isA isB
      rw [equals_true_iff (decided uriA uriB isA isB), equals_true_iff (decided uriB uriA isB isA)]
      exact Equivalent.symm
    · intro uriA uriB uriC isA isB isC
      rw [equals_true_iff (decided uriA uriB isA isB), equals_true_iff (decided uriB uriC isB isC),
        equals_true_iff (decided uriA uriC isA isC)]
      intro equivalent next
      exact equivalent.trans next (matching uriA uriB uriC isA isB isC equivalent next)
    · intro uriA uriB isA isB
      exact (belleSipUriEquals_iff uriA uriB).mpr (decided uriA uriB isA isB)

def atHost (user : CString) : SipUri := { user := some user, host := some [104] }

/-- The users `al`, `alice` and `albert` at one host: the first one equals the other two, which differ. -/
theorem equals_not_transitive :
    belleSipUriEquals (atHost [97, 108, 105, 99, 101]) (atHost [97, 108]) = some true ∧
      belleSipUriEquals (atHost [97, 108]) (atHost [97, 108, 98, 101, 114, 116]) = some true ∧
      belleSipUriEquals (atHost [97, 108, 105, 99, 101]) (atHost [97, 108, 98, 101, 114, 116]) = some false ∧
      ¬DecidesEquality fun uri => uri.host ≠ none := by
  have first : belleSipUriEquals (atHost [97, 108, 105, 99, 101]) (atHost [97, 108]) = some true := by decide
  have second : belleSipUriEquals (atHost [97, 108]) (atHost [97, 108, 98, 101, 114, 116]) = some true := by decide
  have third : belleSipUriEquals (atHost [97, 108, 105, 99, 101]) (atHost [97, 108, 98, 101, 114, 116]) =
      some false := by decide
  refine ⟨first, second, third, ?_⟩
  intro decides
  have related := decides.transitive _ _ _ (by simp [atHost]) (by simp [atHost]) (by simp [atHost]) first second
  rw [third] at related
  cases related

end BelleSip
