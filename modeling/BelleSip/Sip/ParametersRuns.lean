import BelleSip.Foundation.Machine
import BelleSip.Sip.ParametersMemory

/-
This file proves what the parameters of an object are after any calls, and what a marshalled text sets.
-/

namespace BelleSip.ParametersMemory

open Foundation

/-- The value of the first pair with the name. -/
def valueOf (params : List ParamPair) (name : CString) : Option (Option CString) :=
  (params.find? fun pair => pair.name = name).map ParamPair.value

/-- The value of the last pair with the name. -/
def lastValue (pairs : List ParamPair) (name : CString) : Option (Option CString) :=
  valueOf pairs.reverse name

/-- What a call is given: the texts of its arguments. -/
inductive Given where
  | setParameter (obj : Nat) (name : CString) (value : Option CString)
  | removeParameter (obj : Nat) (name : CString)
  | set (obj : Nat) (params : Option CString)
  | clean (obj : Nat)
  | copyParametersFrom (obj orig : Nat)
deriving DecidableEq, Repr

def Change.given (memory : ParametersMemory) : Change → Checked Given
  | .setParameter obj name value => do
      let name ← memory.read name
      let value ← memory.readAny value
      return .setParameter obj name value
  | .removeParameter obj name => do
      let name ← memory.read name
      return .removeParameter obj name
  | .set obj params => do
      let params ← memory.readAny params
      return .set obj params
  | .clean obj => return .clean obj
  | .copyParametersFrom obj orig => return .copyParametersFrom obj orig

/-- The values that the names have been set to last and that have not been removed since. -/
def Given.values (values : Nat → CString → Option (Option CString)) : Given → Nat → CString → Option (Option CString)
  | .setParameter obj name value => Function.update values obj (Function.update (values obj) name (some value))
  | .removeParameter obj name => Function.update values obj (Function.update (values obj) name none)
  | .set obj params => Function.update values obj (lastValue ((cut [] (params.getD [])).map splitPiece))
  | .clean obj => Function.update values obj fun _ => none
  | .copyParametersFrom obj orig => Function.update values obj fun name => (values orig name).or (values obj name)

def lastValues (given : List Given) : Nat → CString → Option (Option CString) :=
  given.foldl Given.values fun _ _ => none

/-- The memory after some calls, and what they have been given. -/
structure Called where
  memory : ParametersMemory := {}
  given : List Given := []

def call (called : Checked Called) (change : Change) : Checked Called := do
  let called ← called
  let given ← change.given called.memory
  let memory ← called.memory.handle change
  return { memory, given := called.given ++ [given] }

/-- The strings are live and none of them belongs to what the call destroys: a parameter of the name that is set, or the
object that gets a new text. An object is not copied into itself. -/
def Change.Apart (memory : ParametersMemory) : Change → Prop
  | .setParameter obj name value => ∃ searched, memory.read name = .ok searched ∧
      memory.Spared (memory.Replaced obj searched) name ∧
        ∀ text ∈ value, memory.Spared (memory.Replaced obj searched) text
  | .removeParameter _ name => ∃ searched, memory.read name = .ok searched
  | .set obj params => ∀ text ∈ params, memory.Spared (· ∈ (memory.object obj).paramList) text
  | .clean _ => True
  | .copyParametersFrom obj orig => orig ≠ obj

def CallsApart (called : Checked Called) (change : Change) : Prop :=
  ∀ before, called = .ok before → change.Apart before.memory

variable {memory : ParametersMemory} {lists : Nat → List ParamPair} {obj : Nat} {name : CString}
  {params : List ParamPair}

theorem valueOf_cons (pair : ParamPair) (rest : List ParamPair) (name : CString) :
    valueOf (pair :: rest) name = if pair.name = name then some pair.value else valueOf rest name := by
  rw [valueOf, valueOf, List.find?_cons]
  by_cases named : pair.name = name
  · simp [named]
  · simp [named]

theorem valueOf_append (front rest : List ParamPair) (name : CString) :
    valueOf (front ++ rest) name = (valueOf front name).or (valueOf rest name) := by
  induction front with
  | nil => rfl
  | cons pair front ih =>
      rw [List.cons_append, valueOf_cons, valueOf_cons, ih]
      by_cases named : pair.name = name
      · rw [if_pos named, if_pos named, Option.some_or]
      · rw [if_neg named, if_neg named]

theorem valueOf_absent (others : ∀ other ∈ params, other.name ≠ name) : valueOf params name = none := by
  induction params with
  | nil => rfl
  | cons pair rest ih =>
      rw [valueOf_cons, if_neg (others pair List.mem_cons_self)]
      exact ih fun other among => others other (List.mem_cons_of_mem _ among)

/-- A name has a value when one of the pairs is named so. -/
theorem valueOf_isSome (params : List ParamPair) (name : CString) :
    (valueOf params name).isSome ↔ name ∈ params.map ParamPair.name := by
  induction params with
  | nil => simp [valueOf]
  | cons pair rest ih =>
      rw [valueOf_cons, List.map_cons, List.mem_cons, ← ih]
      by_cases named : pair.name = name
      · simp [named]
      · simp [named, Ne.symm named]

theorem valueOf_eraseP (distinct : (params.map ParamPair.name).Nodup) (name : CString) :
    valueOf (params.eraseP fun pair => pair.name = name) = Function.update (valueOf params) name none := by
  funext other
  by_cases same : other = name
  · rw [same, Function.update_self]
    exact valueOf_absent (eraseP_names distinct)
  · rw [Function.update_of_ne same]
    rcases named_or_absent params name with ⟨front, pair, rest, rfl, named, others⟩ | nowhere
    · rw [eraseP_named named others, valueOf_append, valueOf_append, valueOf_cons,
        if_neg fun sameName => same (sameName.symm.trans named)]
    · rw [eraseP_absent nowhere]

theorem valueOf_setPair (distinct : (params.map ParamPair.name).Nodup) (pair : ParamPair) :
    valueOf (setPair params pair) = Function.update (valueOf params) pair.name (some pair.value) := by
  funext other
  rw [setPair, valueOf_append, valueOf_eraseP distinct, valueOf_cons]
  by_cases same : other = pair.name
  · rw [same, Function.update_self, Function.update_self, if_pos rfl, Option.none_or]
  · rw [Function.update_of_ne same, Function.update_of_ne same, if_neg (Ne.symm same)]
    exact Option.or_none

theorem setPair_distinct (distinct : (params.map ParamPair.name).Nodup) (pair : ParamPair) :
    ((setPair params pair).map ParamPair.name).Nodup := by
  rw [setPair, List.map_append, List.nodup_append]
  refine ⟨distinct.sublist (List.eraseP_sublist.map _), List.nodup_singleton _, fun first among second last => ?_⟩
  obtain ⟨other, inside, rfl⟩ := List.mem_map.mp among
  rw [List.map_singleton, List.mem_singleton] at last
  rw [last]
  exact eraseP_names distinct other inside

theorem lastValue_cons (pair : ParamPair) (rest : List ParamPair) (name : CString) :
    lastValue (pair :: rest) name = (lastValue rest name).or (if pair.name = name then some pair.value else none) := by
  rw [lastValue, List.reverse_cons, valueOf_append, valueOf_cons]
  rfl

/-- The pairs that are set one after the other have their last values. -/
theorem valueOf_foldl (distinct : (params.map ParamPair.name).Nodup) (given : List ParamPair) (name : CString) :
    valueOf (given.foldl setPair params) name = (lastValue given name).or (valueOf params name) := by
  induction given generalizing params with
  | nil => rfl
  | cons pair rest ih =>
      rw [List.foldl_cons, ih (setPair_distinct distinct pair), valueOf_setPair distinct, lastValue_cons,
          Option.or_assoc]
      by_cases named : pair.name = name
      · rw [if_pos named, named, Function.update_self, Option.some_or]
      · rw [if_neg named, Function.update_of_ne (Ne.symm named), Option.none_or]

/-- Among distinct names the last value is the only one. -/
theorem lastValue_distinct (distinct : (params.map ParamPair.name).Nodup) (name : CString) :
    lastValue params name = valueOf params name := by
  induction params with
  | nil => rfl
  | cons pair rest ih =>
      obtain ⟨absent, distinct⟩ := List.nodup_cons.mp distinct
      rw [lastValue_cons, valueOf_cons, ih distinct]
      by_cases named : pair.name = name
      · rw [if_pos named, if_pos named, valueOf_absent, Option.none_or]
        exact fun other among same => absent (by rw [named, ← same]; exact List.mem_map_of_mem among)
      · rw [if_neg named, if_neg named, Option.or_none]

/-- One object changes together with its values. -/
theorem agrees_update {values : Nat → CString → Option (Option CString)}
    (agrees : ∀ obj, values obj = valueOf (lists obj)) {own : CString → Option (Option CString)}
    (same : own = valueOf params) (other : Nat) :
    Function.update values obj own other = valueOf (Function.update lists obj params other) := by
  by_cases here : other = obj
  · rw [here, Function.update_self, Function.update_self, same]
  · rw [Function.update_of_ne here, Function.update_of_ne here, agrees]

/-- A call keeps the objects apart, and their pairs have the values that have been set. -/
theorem Kept.handle (kept : memory.Kept lists) {values : Nat → CString → Option (Option CString)}
    (agrees : ∀ obj, values obj = valueOf (lists obj)) {change : Change} (apart : change.Apart memory) :
    ∃ given, change.given memory = .ok given ∧ Checked.Returns (memory.handle change) fun after =>
      ∃ later, after.Kept later ∧ ∀ obj, given.values values obj = valueOf (later obj) := by
  cases change with
  | setParameter obj pointer contents =>
      obtain ⟨name, reads, spared, others⟩ := apart
      obtain ⟨text, same, named⟩ := Spared.stays spared
      obtain ⟨value, readsValue, valued⟩ := Spared.stays_any others
      cases reads.symm.trans same
      refine ⟨.setParameter obj name value, ?_, (kept.setParameter named valued).mono fun after holds => ?_⟩
      · rw [Change.given, reads, Checked.ok_bind, readsValue]
        rfl
      · refine ⟨_, holds.1, agrees_update agrees ?_⟩
        rw [valueOf_setPair (kept.holds obj).distinct, agrees]
  | removeParameter obj pointer =>
      obtain ⟨name, reads⟩ := apart
      refine ⟨.removeParameter obj name, ?_, (kept.removeParameter obj reads).mono fun after holds => ?_⟩
      · rw [Change.given, reads]
        rfl
      · refine ⟨_, holds, agrees_update agrees ?_⟩
        rw [valueOf_eraseP (kept.holds obj).distinct, agrees]
  | set obj pointer =>
      obtain ⟨params, reads, stays⟩ := Spared.stays_any apart
      refine ⟨.set obj params, ?_, (kept.set stays).mono fun after holds => ⟨_, holds, agrees_update agrees ?_⟩⟩
      · rw [Change.given, reads]
        rfl
      · have none : (([] : List ParamPair).map ParamPair.name).Nodup := List.nodup_nil
        funext name
        rw [valueOf_foldl none]
        exact Option.or_none.symm
  | clean obj =>
      exact ⟨.clean obj, rfl, (kept.clean obj).mono fun after holds => ⟨_, holds.1, agrees_update agrees rfl⟩⟩
  | copyParametersFrom obj orig =>
      refine ⟨.copyParametersFrom obj orig, rfl, (kept.copyParametersFrom apart).mono fun after holds => ?_⟩
      refine ⟨_, holds, agrees_update agrees ?_⟩
      funext name
      rw [valueOf_foldl (kept.holds obj).distinct, lastValue_distinct (kept.holds orig).distinct, agrees, agrees]

/-- The objects hold what the calls have set. -/
def Accurate (called : Called) : Prop :=
  ∃ lists, called.memory.Kept lists ∧ ∀ obj, lastValues called.given obj = valueOf (lists obj)

theorem Accurate.call (called : Checked Called) (change : Change) (accurate : Checked.Returns called Accurate)
    (apart : CallsApart called change) : Checked.Returns (call called change) Accurate := by
  obtain ⟨before, rfl, lists, kept, agrees⟩ := accurate
  obtain ⟨given, reads, after, handled, later, keptLater, agreesLater⟩ := kept.handle agrees (apart before rfl)
  refine ⟨⟨after, before.given ++ [given]⟩, ?_, later, keptLater, fun obj => ?_⟩
  · rw [ParametersMemory.call, Checked.ok_bind, reads, Checked.ok_bind, handled]
    rfl
  · rw [lastValues, List.foldl_append]
    exact agreesLater obj

theorem kept_empty : ({} : ParametersMemory).Kept fun _ => [] where
  holds _ := ⟨rfl, rfl, List.nodup_nil⟩
  within _ _ among := absurd among List.not_mem_nil
  nodup _ := List.nodup_nil
  apart _ _ _ _ among := absurd among List.not_mem_nil

/-! The text of the pairs. -/

/-- A name has neither a semicolon nor an equals sign, and a value has no semicolon. -/
structure Plain (pair : ParamPair) : Prop where
  nameSemicolon : 59 ∉ pair.name
  nameEquals : 61 ∉ pair.name
  valueSemicolon : ∀ value ∈ pair.value, 59 ∉ value

def pairText (pair : ParamPair) : CString :=
  pair.name ++
    match pair.value with
    | some value => 61 :: value
    | none => []

theorem parametersMarshal_cons (pair : ParamPair) (rest : List ParamPair) :
    parametersMarshal (pair :: rest) = 59 :: (pairText pair ++ parametersMarshal rest) := rfl

/-- The text of the pairs behind the first semicolon is read as the pairs without a nameless last one. -/
def reread (params : List ParamPair) : List ParamPair :=
  if params.getLast? = some { name := [] } then params.dropLast else params

theorem splitPiece_pairText {pair : ParamPair} (plain : Plain pair) : splitPiece (pairText pair) = pair := by
  obtain ⟨name, value⟩ := pair
  have nameEquals : ∀ byte ∈ name, (fun byte : UInt8 => decide (byte ≠ 61)) byte = true := by
    intro byte among
    refine decide_eq_true ?_
    rintro rfl
    exact plain.nameEquals among
  cases value with
  | none =>
      rw [pairText, List.append_nil, splitPiece, List.takeWhile_eq_self_iff.mpr nameEquals,
        List.dropWhile_eq_nil_iff.mpr nameEquals]
      rfl
  | some value =>
      dsimp only [pairText]
      rw [splitPiece, List.takeWhile_append_of_pos nameEquals, List.dropWhile_append_of_pos nameEquals,
        List.takeWhile_cons_of_neg (by decide), List.dropWhile_cons_of_neg (by decide), List.append_nil]
      rfl

theorem pairText_semicolon {pair : ParamPair} (plain : Plain pair) : 59 ∉ pairText pair := by
  obtain ⟨name, value⟩ := pair
  have nameSemicolon : 59 ∉ name := plain.nameSemicolon
  cases value with
  | none => simpa [pairText] using nameSemicolon
  | some value =>
      have valueSemicolon : 59 ∉ value := plain.valueSemicolon value rfl
      simp [pairText, nameSemicolon, valueSemicolon]

/-- A piece ends at its semicolon or at the end of the text. -/
theorem cut_piece {piece : CString} (semicolon : 59 ∉ piece) (current : CString) :
    (cut current piece = if current ++ piece = [] then [] else [current ++ piece]) ∧
      ∀ rest, cut current (piece ++ 59 :: rest) = (current ++ piece) :: cut [] rest := by
  induction piece generalizing current with
  | nil =>
      rw [List.append_nil]
      exact ⟨rfl, fun rest => by rw [List.nil_append, cut, if_pos rfl]⟩
  | cons byte piece ih =>
      have other : byte ≠ 59 := fun same => semicolon (same ▸ List.mem_cons_self)
      have following := ih (mt (List.mem_cons_of_mem _) semicolon) (current ++ [byte])
      rw [List.append_assoc, List.singleton_append] at following
      refine ⟨?_, fun rest => ?_⟩
      · rw [cut, if_neg other]
        exact following.1
      · rw [List.cons_append, cut, if_neg other]
        exact following.2 rest

theorem pairText_eq_nil {pair : ParamPair} : pairText pair = [] ↔ pair = { name := [] } := by
  obtain ⟨name, value⟩ := pair
  cases value with
  | none => simp [pairText]
  | some value => simp [pairText]

theorem reread_cons (pair next : ParamPair) (rest : List ParamPair) :
    reread (pair :: next :: rest) = pair :: reread (next :: rest) := by
  rw [reread, reread, List.getLast?_cons_cons, List.dropLast_cons_cons]
  split
  · rfl
  · rfl

/-- The pairs are cut and split as they have been written. -/
theorem cut_pairs {pair : ParamPair} {rest : List ParamPair} (plain : ∀ other ∈ pair :: rest, Plain other) :
    (cut [] (pairText pair ++ parametersMarshal rest)).map splitPiece = reread (pair :: rest) := by
  induction rest generalizing pair with
  | nil =>
      have own := plain pair List.mem_cons_self
      have whole : parametersMarshal [] = [] := rfl
      rw [whole, List.append_nil, (cut_piece (pairText_semicolon own) []).1, List.nil_append, reread]
      by_cases nameless : pair = { name := [] }
      · rw [if_pos (pairText_eq_nil.mpr nameless), if_pos (by rw [nameless]; rfl)]
        rfl
      · rw [if_neg (mt pairText_eq_nil.mp nameless), if_neg (by simpa using nameless), List.map_singleton,
          splitPiece_pairText own]
  | cons next rest ih =>
      have own := plain pair List.mem_cons_self
      rw [parametersMarshal_cons, (cut_piece (pairText_semicolon own) []).2, List.nil_append, List.map_cons,
        splitPiece_pairText own, reread_cons]
      exact congrArg _ (ih fun other among => plain other (List.mem_cons_of_mem _ among))

theorem cut_marshalled (plain : ∀ pair ∈ params, Plain pair) :
    (cut [] ((parametersMarshal params).drop 1)).map splitPiece = reread params := by
  cases params with
  | nil => rfl
  | cons pair rest => exact cut_pairs plain

/-- The first semicolon ends a piece that has no name. -/
theorem cut_marshalled_whole (plain : ∀ pair ∈ params, Plain pair) :
    (cut [] (parametersMarshal params)).map splitPiece =
      if params = [] then [] else { name := [] } :: reread params := by
  cases params with
  | nil => rfl
  | cons pair rest =>
      rw [if_neg (List.cons_ne_nil _ _), ← cut_pairs plain]
      rfl

theorem setPairs_fresh {given : List ParamPair} (distinct : ((params ++ given).map ParamPair.name).Nodup) :
    given.foldl setPair params = params ++ given := by
  induction given generalizing params with
  | nil => rw [List.foldl_nil, List.append_nil]
  | cons pair rest ih =>
      have absent : ∀ other ∈ params, other.name ≠ pair.name := by
        rw [List.map_append, List.nodup_append] at distinct
        exact fun other among => distinct.2.2 _ (List.mem_map_of_mem among) _ List.mem_cons_self
      rw [List.append_cons] at distinct
      rw [List.foldl_cons, setPair, eraseP_absent absent, ih distinct, List.append_assoc, List.singleton_append]

theorem reread_distinct (distinct : (params.map ParamPair.name).Nodup) :
    ((reread params).map ParamPair.name).Nodup := by
  rw [reread]
  split
  · exact distinct.sublist ((List.dropLast_sublist _).map _)
  · exact distinct

/-- A nameless parameter in front stays there or is replaced by the one that is given. -/
theorem setPairs_nameless {given : List ParamPair} (distinct : (given.map ParamPair.name).Nodup) :
    given.foldl setPair [{ name := [] }] =
      if [] ∈ given.map ParamPair.name then given else { name := [] } :: given := by
  by_cases nameless : [] ∈ given.map ParamPair.name
  · rw [if_pos nameless]
    obtain ⟨pair, among, named⟩ := List.mem_map.mp nameless
    obtain ⟨front, rest, rfl⟩ := List.append_of_mem among
    have inFront : ((front ++ pair :: rest).map ParamPair.name).Nodup := distinct
    rw [List.map_append, List.map_cons, List.nodup_append] at inFront
    have fresh : ((([{ name := [] }] : List ParamPair) ++ front).map ParamPair.name).Nodup := by
      refine List.nodup_cons.mpr ⟨fun inside => ?_, inFront.1⟩
      exact inFront.2.2 [] inside pair.name List.mem_cons_self named.symm
    have replaced : setPair ([{ name := [] }] ++ front) pair = front ++ [pair] := by
      rw [setPair, List.singleton_append, List.eraseP_cons_of_pos (by simpa using named.symm)]
    rw [List.append_cons] at distinct
    rw [List.foldl_append, setPairs_fresh fresh, List.foldl_cons, replaced, setPairs_fresh distinct, ← List.append_cons]
  · rw [if_neg nameless]
    exact setPairs_fresh (List.nodup_cons.mpr ⟨nameless, distinct⟩)

/-- Behind its first semicolon the marshalled text sets the pairs, and as a whole it sets a nameless one in front. -/
theorem Kept.set_marshalled (kept : memory.Kept lists) (distinct : (params.map ParamPair.name).Nodup)
    (plain : ∀ pair ∈ params, Plain pair) (target : Nat) :
    Checked.Returns (memory.set target (some (.text ((parametersMarshal params).drop 1))))
        (fun after => after.Holds target (reread params)) ∧
      Checked.Returns (memory.set target (some (.text (parametersMarshal params)))) fun after =>
        after.Holds target (if params = [] ∨ [] ∈ (reread params).map ParamPair.name then reread params
          else { name := [] } :: reread params) := by
  have texts : ∀ text : CString, memory.Stays (· ∈ (memory.object target).paramList) (·.readAny (some (.text text)))
      (some text) := fun text => stays_texts (some text)
  have behind := kept.set (texts ((parametersMarshal params).drop 1))
  have whole := kept.set (texts (parametersMarshal params))
  have names := reread_distinct distinct
  rw [Option.getD_some] at behind whole
  rw [cut_marshalled plain, setPairs_fresh names, List.nil_append] at behind
  rw [cut_marshalled_whole plain] at whole
  refine ⟨behind.mono fun after later => ?_, whole.mono fun after later => ?_⟩
  · have own := later.holds target
    rw [Function.update_self] at own
    exact own
  · have own := later.holds target
    rw [Function.update_self] at own
    by_cases empty : params = []
    · rw [if_pos empty] at own
      rw [if_pos (.inl empty), empty]
      exact own
    · rw [if_neg empty, List.foldl_cons] at own
      have first : setPair [] { name := [] } = [{ name := [] }] := rfl
      rw [first, setPairs_nameless names] at own
      simp only [empty, false_or]
      exact own

/-- What the text of some parameters sets: the same parameters behind its first semicolon, apart from a last one with
neither name nor value, and as a whole a nameless one in front of them. -/
def Rebuilds (memory : ParametersMemory) (obj : Nat) (params : List ParamPair) : Prop :=
  ∃ text, memory.marshal obj = .ok text ∧ ∀ target,
    Checked.Returns (memory.set target (some (.text (text.drop 1)))) (fun after => after.Holds target (reread params)) ∧
    Checked.Returns (memory.set target (some (.text text))) fun after =>
      after.Holds target (if params = [] ∨ [] ∈ (reread params).map ParamPair.name then reread params
        else { name := [] } :: reread params)

/-- After any calls whose strings are live and not destroyed by them, the names are distinct, the list of names has the
live names of the pairs in their order, and a name gets the value that it has been set to last. A marshalled text sets
the same parameters. -/
theorem parameters_kept (changes : List Change) (apart : Machine.Along call CallsApart (.ok {}) changes) :
    Checked.Returns (Machine.run call (.ok {}) changes) fun called => ∀ obj, ∃ params, called.memory.Holds obj params ∧
      (∀ name, called.memory.getParameter obj name = .ok (lastValues called.given obj name).join ∧
        ((lastValues called.given obj name).isSome ↔ name ∈ params.map ParamPair.name)) ∧
      ((∀ pair ∈ params, Plain pair) → called.memory.Rebuilds obj params) := by
  have initial : Checked.Returns (.ok {}) Accurate := Checked.returns_ok.mpr ⟨_, kept_empty, fun _ => rfl⟩
  refine (Machine.run_invariant Accurate.call initial apart).mono fun called accurate obj => ?_
  obtain ⟨lists, kept, agrees⟩ := accurate
  have holds := kept.holds obj
  have values : lastValues called.given obj = valueOf (lists obj) := agrees obj
  refine ⟨lists obj, holds, fun name => ⟨?_, ?_⟩, fun plain => ?_⟩
  · have joined : ∀ found : Option ParamPair, found.bind ParamPair.value = (found.map ParamPair.value).join := by
      intro found
      cases found with
      | none => rfl
      | some pair => rfl
    rw [holds.getParameter, joined, values, valueOf]
  · rw [values]
    exact valueOf_isSome _ _
  · exact ⟨_, holds.marshal, fun target => kept.set_marshalled holds.distinct plain target⟩

/-- A parameter is set, copied, set again to a value of another object, removed under its own name and set as a text. -/
def copying : List Change :=
  [.setParameter 0 (.text [97]) (some (.text [98])), .copyParametersFrom 1 0,
    .setParameter 0 (.text [97]) (some (.valueOf 1)), .removeParameter 0 (.nameOf 2), .set 0 (some (.text [99, 59]))]

theorem parameters_kept_copying :
    Checked.Returns (Machine.run call (.ok {}) copying) fun called => ∀ obj, ∃ params, called.memory.Holds obj params ∧
      (∀ name, called.memory.getParameter obj name = .ok (lastValues called.given obj name).join ∧
        ((lastValues called.given obj name).isSome ↔ name ∈ params.map ParamPair.name)) ∧
      ((∀ pair ∈ params, Plain pair) → called.memory.Rebuilds obj params) := by
  refine parameters_kept copying ⟨?_, ?_, ?_, ?_, ?_, trivial⟩
  · rintro before same
    cases same
    exact ⟨_, rfl, trivial, fun text among => by cases among; trivial⟩
  · rintro before -
    exact Nat.zero_ne_one
  · rintro before same
    cases same
    exact ⟨_, rfl, trivial, fun text among => by cases among; exact ⟨rfl, by decide⟩⟩
  · rintro before same
    cases same
    exact ⟨_, rfl⟩
  · rintro before same
    cases same
    exact fun text among => by cases among; trivial

/-- The marshalled text of one parameter sets two, and behind its first semicolon that of a parameter and a nameless one
sets the first only. A value that belongs to the parameter that is set is read when it has been destroyed. -/
theorem set_marshalled_differs :
    (do
      let memory ← handle {} (.setParameter 0 (.text [97]) (some (.text [98])))
      let text ← memory.marshal 0
      let after ← memory.set 1 (some (.text text))
      return (after.object 1).paramList.map after.pair) = .ok [some { name := [] }, some ⟨[97], some [98]⟩] ∧
      (do
        let memory ← [Change.setParameter 0 (.text [97]) none, .setParameter 0 (.text []) none].foldlM handle {}
        let text ← memory.marshal 0
        let after ← memory.set 1 (some (.text (text.drop 1)))
        return (after.object 1).paramList.map after.pair) = .ok [some { name := [97] }] ∧
      [Change.setParameter 0 (.text [97]) none, .copyParametersFrom 0 0].foldlM handle {} = .error .nullPointer ∧
      [Change.setParameter 0 (.text [97]) (some (.text [98])), .setParameter 0 (.text [97]) (some (.valueOf 0))].foldlM
        handle {} = .error .nullPointer :=
  ⟨rfl, rfl, rfl, rfl⟩

end BelleSip.ParametersMemory
