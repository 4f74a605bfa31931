import BelleSip.Foundation.Checked
import BelleSip.Sip.UriText
import Mathlib.Data.List.Nodup
import Mathlib.Logic.Function.Basic

/-
This file models the memory of `belle_sip_parameters_t`: its two lists share the names of the pairs.
-/

namespace BelleSip

open Foundation

/-- This is `belle_sip_parameters_t`. An element of either list points to a pair, one of `paramnamesList` to its name.
-/
structure ParametersObject where
  paramList : List Nat := []
  paramnamesList : List Nat := []
deriving DecidableEq, Repr

/-- A string of the caller, or one that belongs to a pair. -/
inductive TextPointer where
  | text (text : CString)
  | nameOf (pair : Nat)
  | valueOf (pair : Nat)
deriving DecidableEq, Repr

/-- The pairs that have been allocated and not been destroyed, and the objects with their lists. -/
structure ParametersMemory where
  created : Nat := 0
  pair : Nat → Option ParamPair := fun _ => none
  object : Nat → ParametersObject := fun _ => {}

namespace ParametersMemory

def read (memory : ParametersMemory) : TextPointer → Checked CString
  | .text text => return text
  | .nameOf id => do
      let pair ← Checked.deref (memory.pair id)
      return pair.name
  | .valueOf id => do
      let pair ← Checked.deref (memory.pair id)
      Checked.deref pair.value

def readAny (memory : ParametersMemory) : Option TextPointer → Checked (Option CString)
  | some pointer => do
      let text ← memory.read pointer
      return some text
  | none => return none

/-- This is `belle_sip_list_find_custom` with a comparison of names. -/
def find (memory : ParametersMemory) (name : CString) : List Nat → Checked (Option Nat)
  | [] => return none
  | id :: rest => do
      let pair ← Checked.deref (memory.pair id)
      if pair.name = name then return some id else memory.find name rest

def setObject (memory : ParametersMemory) (obj : Nat) (object : ParametersObject) : ParametersMemory :=
  { memory with object := Function.update memory.object obj object }

/-- This is `belle_sip_param_pair_destroy`. -/
def destroyPair (memory : ParametersMemory) (id : Nat) : Checked ParametersMemory := do
  let _ ← Checked.deref (memory.pair id)
  return { memory with pair := Function.update memory.pair id none }

/-- The found name is removed from the names. -/
def removeName (memory : ParametersMemory) (obj : Nat) (found : Option Nat) : ParametersMemory :=
  match found with
  | some id =>
      memory.setObject obj { memory.object obj with paramnamesList := (memory.object obj).paramnamesList.erase id }
  | none => memory

/-- The found pair is destroyed and removed from the pairs. -/
def removePair (memory : ParametersMemory) (obj : Nat) (found : Option Nat) : Checked ParametersMemory :=
  match found with
  | some id => do
      let destroyed ← memory.destroyPair id
      return destroyed.setObject obj
        { destroyed.object obj with paramList := (destroyed.object obj).paramList.erase id }
  | none => return memory

/-- This is `belle_sip_param_pair_new`, with the two lists that the pair is appended to. -/
def append (memory : ParametersMemory) (obj : Nat) (name : CString) (value : Option CString) : ParametersMemory :=
  let object := memory.object obj
  { memory with
    created := memory.created + 1
    pair := Function.update memory.pair memory.created (some { name, value })
    object := Function.update memory.object obj
      { paramList := object.paramList ++ [memory.created]
        paramnamesList := object.paramnamesList ++ [memory.created] } }

/-- This is `belle_sip_parameters_set_parameter`. The name and the value are read again for the new pair. -/
def setParameter (memory : ParametersMemory) (obj : Nat) (name : TextPointer) (value : Option TextPointer) :
    Checked ParametersMemory := do
  let searched ← memory.read name
  let listed ← memory.find searched (memory.object obj).paramnamesList
  let unlisted := memory.removeName obj listed
  let lResult ← unlisted.find searched (unlisted.object obj).paramList
  let removed ← unlisted.removePair obj lResult
  let newName ← removed.read name
  let newValue ← removed.readAny value
  return removed.append obj newName newValue

/-- This is `belle_sip_parameters_remove_parameter`. -/
def removeParameter (memory : ParametersMemory) (obj : Nat) (name : TextPointer) : Checked ParametersMemory := do
  let searched ← memory.read name
  match ← memory.find searched (memory.object obj).paramnamesList with
  | some id => do
      let unlisted := memory.removeName obj (some id)
      let lResult ← unlisted.find searched (unlisted.object obj).paramList
      unlisted.removePair obj lResult
  | none => return memory

/-- This is `belle_sip_parameters_clean`. -/
def clean (memory : ParametersMemory) (obj : Nat) : Checked ParametersMemory := do
  let destroyed ← (memory.object obj).paramList.foldlM destroyPair memory
  return destroyed.setObject obj {}

/-- The pieces that the loop of `belle_sip_parameters_set` cuts a text into, behind the bytes of the current one. -/
def cut (current : CString) : CString → List CString
  | [] => if current = [] then [] else [current]
  | byte :: rest => if byte = 59 then current :: cut [] rest else cut (current ++ [byte]) rest

/-- The name of a piece and its value behind the first equals sign. -/
def splitPiece (piece : CString) : ParamPair where
  name := piece.takeWhile (· ≠ 61)
  value := (piece.dropWhile (· ≠ 61)).tail?

/-- This is `belle_sip_parameters_set`. The text is read when the object has been cleaned. -/
def set (memory : ParametersMemory) (obj : Nat) (params : Option TextPointer) : Checked ParametersMemory := do
  let cleaned ← memory.clean obj
  let text ← cleaned.readAny params
  (cut [] (text.getD [])).foldlM (fun memory piece =>
    memory.setParameter obj (.text (splitPiece piece).name) ((splitPiece piece).value.map .text)) cleaned

/-- This is `belle_sip_parameters_copy_parameters_from`. -/
def copyParametersFrom (memory : ParametersMemory) (obj orig : Nat) : Checked ParametersMemory :=
  (memory.object orig).paramList.foldlM (fun memory id => do
    let container ← Checked.deref (memory.pair id)
    memory.setParameter obj (.nameOf id) (container.value.map fun _ => .valueOf id)) memory

/-- This is `belle_sip_parameters_get_parameter`. -/
def getParameter (memory : ParametersMemory) (obj : Nat) (name : CString) : Checked (Option CString) := do
  match ← memory.find name (memory.object obj).paramList with
  | some id =>
      let pair ← Checked.deref (memory.pair id)
      return pair.value
  | none => return none

/-- This is `belle_sip_parameters_marshal`. -/
def marshal (memory : ParametersMemory) (obj : Nat) : Checked CString := do
  let pairs ← (memory.object obj).paramList.mapM fun id => Checked.deref (memory.pair id)
  return parametersMarshal pairs

inductive Change where
  | setParameter (obj : Nat) (name : TextPointer) (value : Option TextPointer)
  | removeParameter (obj : Nat) (name : TextPointer)
  | set (obj : Nat) (params : Option TextPointer)
  | clean (obj : Nat)
  | copyParametersFrom (obj orig : Nat)
deriving DecidableEq, Repr

def handle (memory : ParametersMemory) : Change → Checked ParametersMemory
  | .setParameter obj name value => memory.setParameter obj name value
  | .removeParameter obj name => memory.removeParameter obj name
  | .set obj params => memory.set obj params
  | .clean obj => memory.clean obj
  | .copyParametersFrom obj orig => memory.copyParametersFrom obj orig

/-- The pairs that are destroyed while a parameter of an object is set. -/
def Replaced (memory : ParametersMemory) (obj : Nat) (name : CString) (id : Nat) : Prop :=
  id ∈ (memory.object obj).paramList ∧ (memory.pair id).map ParamPair.name = some name

instance (memory : ParametersMemory) (obj : Nat) (name : CString) (id : Nat) :
    Decidable (memory.Replaced obj name id) := inferInstanceAs (Decidable (_ ∧ _))

/-- The string is live and belongs to no pair that is destroyed. -/
def Spared (memory : ParametersMemory) (gone : Nat → Prop) : TextPointer → Prop
  | .text _ => True
  | .nameOf id => (memory.pair id).isSome = true ∧ ¬gone id
  | .valueOf id => ((memory.pair id).bind ParamPair.value).isSome = true ∧ ¬gone id

/-- The two lists of an object have the same pairs in the same order, which are live and have the given contents. -/
structure Holds (memory : ParametersMemory) (obj : Nat) (params : List ParamPair) : Prop where
  names : (memory.object obj).paramnamesList = (memory.object obj).paramList
  filed : (memory.object obj).paramList.map memory.pair = params.map some
  distinct : (params.map ParamPair.name).Nodup

/-- Every object holds its parameters in pairs of its own. -/
structure Kept (memory : ParametersMemory) (lists : Nat → List ParamPair) : Prop where
  holds : ∀ obj, memory.Holds obj (lists obj)
  within : ∀ obj, ∀ id ∈ (memory.object obj).paramList, id < memory.created
  nodup : ∀ obj, (memory.object obj).paramList.Nodup
  apart : ∀ obj other, obj ≠ other → ∀ id ∈ (memory.object obj).paramList, id ∉ (memory.object other).paramList

variable {memory : ParametersMemory} {lists : Nat → List ParamPair} {obj : Nat} {name : CString}

theorem find_behind {before behind : List Nat} {front : List ParamPair}
    (filed : before.map memory.pair = front.map some) (others : ∀ other ∈ front, other.name ≠ name) :
    memory.find name (before ++ behind) = memory.find name behind := by
  induction before generalizing front with
  | nil => rfl
  | cons id before ih =>
      obtain ⟨pair, rest, rfl, own, inFront⟩ := List.map_eq_cons_iff.mp filed.symm
      rw [List.cons_append, find, ← own, Checked.deref_some, Checked.ok_bind, if_neg (others pair List.mem_cons_self)]
      exact ih inFront.symm fun other among => others other (List.mem_cons_of_mem _ among)

theorem find_some {before behind : List Nat} {id : Nat} {front : List ParamPair} {pair : ParamPair}
    (filed : before.map memory.pair = front.map some) (others : ∀ other ∈ front, other.name ≠ name)
    (own : memory.pair id = some pair) (named : pair.name = name) :
    memory.find name (before ++ id :: behind) = .ok (some id) := by
  rw [find_behind filed others, find, own, Checked.deref_some, Checked.ok_bind, if_pos named]
  rfl

theorem find_none {ids : List Nat} {params : List ParamPair} (filed : ids.map memory.pair = params.map some)
    (others : ∀ other ∈ params, other.name ≠ name) : memory.find name ids = .ok none := by
  have passed := @find_behind memory name ids [] params filed others
  rw [List.append_nil] at passed
  rw [passed]
  rfl

/-- A parameter has the name, or none has it. -/
theorem named_or_absent (params : List ParamPair) (name : CString) :
    (∃ front pair rest, params = front ++ pair :: rest ∧ pair.name = name ∧ ∀ other ∈ front, other.name ≠ name) ∨
      ∀ other ∈ params, other.name ≠ name := by
  cases search : params.find? (fun pair => pair.name = name) with
  | none => exact .inr fun other among => by simpa using List.find?_eq_none.mp search other among
  | some pair =>
      obtain ⟨named, front, rest, whole, others⟩ := List.find?_eq_some_iff_append.mp search
      exact .inl ⟨front, pair, rest, whole, by simpa using named, fun other among => by simpa using others other among⟩

theorem eraseP_named {front rest : List ParamPair} {pair : ParamPair} (named : pair.name = name)
    (others : ∀ other ∈ front, other.name ≠ name) :
    (front ++ pair :: rest).eraseP (fun pair => pair.name = name) = front ++ rest := by
  rw [List.eraseP_append_right _ (by simpa using others), List.eraseP_cons_of_pos (by simpa using named)]

theorem eraseP_absent {params : List ParamPair} (others : ∀ other ∈ params, other.name ≠ name) :
    params.eraseP (fun pair => pair.name = name) = params :=
  List.eraseP_of_forall_not (by simpa using others)

/-- Nothing has the name behind the removal of the first parameter with it. -/
theorem eraseP_names {params : List ParamPair} (distinct : (params.map ParamPair.name).Nodup) :
    ∀ other ∈ params.eraseP (fun pair => pair.name = name), other.name ≠ name := by
  rcases named_or_absent params name with ⟨front, pair, rest, rfl, named, others⟩ | nowhere
  · rw [eraseP_named named others]
    rw [List.map_append, List.map_cons, List.nodup_append, List.nodup_cons, named] at distinct
    intro other among
    rcases List.mem_append.mp among with before | behind
    · exact others other before
    · exact fun same => distinct.2.1.1 (same ▸ List.mem_map_of_mem behind)
  · rw [eraseP_absent nowhere]
    exact nowhere

/-- The pairs in front of a parameter, its own and those behind it. -/
theorem Kept.split {front rest : List ParamPair} {pair : ParamPair} (kept : memory.Kept lists)
    (whole : lists obj = front ++ pair :: rest) :
    ∃ before id behind, (memory.object obj).paramList = before ++ id :: behind ∧
      before.map memory.pair = front.map some ∧ memory.pair id = some pair ∧
        behind.map memory.pair = rest.map some := by
  have filed := (kept.holds obj).filed
  rw [whole, List.map_append, List.map_cons] at filed
  obtain ⟨before, others, same, inFront, back⟩ := List.map_eq_append_iff.mp filed
  obtain ⟨id, behind, rfl, own, inBack⟩ := List.map_eq_cons_iff.mp back
  exact ⟨before, id, behind, same, inFront, own, inBack⟩

/-- One object changes, and the pairs of the others stay. -/
theorem Kept.change (kept : memory.Kept lists) {after : ParametersMemory} {ids : List Nat} {params : List ParamPair}
    (objects : ∀ other ≠ obj, after.object other = memory.object other)
    (pairs : ∀ other ≠ obj, ∀ id ∈ (memory.object other).paramList, after.pair id = memory.pair id)
    (later : memory.created ≤ after.created) (object : after.object obj = { paramList := ids, paramnamesList := ids })
    (filed : ids.map after.pair = params.map some) (distinct : (params.map ParamPair.name).Nodup)
    (within : ∀ id ∈ ids, id < after.created) (nodup : ids.Nodup)
    (apart : ∀ other ≠ obj, ∀ id ∈ ids, id ∉ (memory.object other).paramList) :
    after.Kept (Function.update lists obj params) := by
  refine ⟨fun other => ?_, fun other => ?_, fun other => ?_, fun one other differs => ?_⟩
  · by_cases same : other = obj
    · rw [same, Function.update_self]
      exact ⟨by rw [object], by rw [object, filed], distinct⟩
    · obtain ⟨names, filed, distinct⟩ := kept.holds other
      rw [Function.update_of_ne same]
      refine ⟨by rw [objects other same, names], ?_, distinct⟩
      rw [objects other same, ← filed]
      exact List.map_congr_left (pairs other same)
  · by_cases same : other = obj
    · rw [same, object]
      exact within
    · rw [objects other same]
      exact fun id among => Nat.lt_of_lt_of_le (kept.within other id among) later
  · by_cases same : other = obj
    · rw [same, object]
      exact nodup
    · rw [objects other same]
      exact kept.nodup other
  · intro id among
    by_cases first : one = obj
    · rw [first] at among differs
      rw [object] at among
      rw [objects other differs.symm]
      exact apart other differs.symm id among
    · rw [objects one first] at among
      by_cases second : other = obj
      · rw [second, object]
        exact fun inside => apart one first id inside among
      · rw [objects other second]
        exact kept.apart one other differs id among

@[simp] theorem setObject_self (object : ParametersObject) : (memory.setObject obj object).object obj = object :=
  Function.update_self _ _ _

/-- A pair that has been found in both lists is gone from both. -/
theorem removePair_removeName {id : Nat} {pair : ParamPair} (own : memory.pair id = some pair) :
    (memory.removeName obj (some id)).removePair obj (some id) = .ok { memory with
      pair := Function.update memory.pair id none
      object := Function.update memory.object obj
        { paramList := (memory.object obj).paramList.erase id
          paramnamesList := (memory.object obj).paramnamesList.erase id } } := by
  rw [removePair, destroyPair, removeName]
  show (Checked.deref (memory.pair id) >>= _) >>= _ = _
  rw [own, Checked.deref_some, Checked.ok_bind]
  simp only [setObject, pure_bind, Function.update_self, Function.update_idem]
  rfl

theorem find_setObject (object : ParametersObject) (ids : List Nat) :
    (memory.setObject obj object).find name ids = memory.find name ids := by
  induction ids with
  | nil => rfl
  | cons id rest ih => rw [find, find, ih, setObject]

/-- The search of the names and that of the pairs find the same parameter, which is removed from both. -/
theorem Kept.detach (kept : memory.Kept lists) (obj : Nat) (name : CString) :
    ∃ found, memory.find name (memory.object obj).paramnamesList = .ok found ∧
      (memory.removeName obj found).find name ((memory.removeName obj found).object obj).paramList = .ok found ∧
      Checked.Returns ((memory.removeName obj found).removePair obj found) fun removed =>
        removed.Kept (Function.update lists obj ((lists obj).eraseP fun pair => pair.name = name)) ∧
          (∀ id, ¬memory.Replaced obj name id → removed.pair id = memory.pair id) ∧
            ∀ other ≠ obj, removed.object other = memory.object other := by
  have names := (kept.holds obj).names
  rcases named_or_absent (lists obj) name with ⟨front, pair, rest, whole, named, others⟩ | nowhere
  · obtain ⟨before, id, behind, ids, inFront, own, inBack⟩ := kept.split whole
    have found := @find_some memory name before behind id front pair inFront others own named
    refine ⟨some id, by rw [names, ids, found], ?_, ?_⟩
    · rw [removeName, find_setObject, setObject_self, ids, found]
    · have nodup := kept.nodup obj
      rw [ids] at nodup
      have fresh := List.nodup_append.mp nodup
      have erased : (before ++ id :: behind).erase id = before ++ behind := by
        rw [List.erase_append_right _ fun among => fresh.2.2 id among id List.mem_cons_self rfl, List.erase_cons_head]
      have inside : ∀ other ∈ before ++ behind, other ∈ before ++ id :: behind ∧ other ≠ id := by
        intro other among
        rcases List.mem_append.mp among with first | second
        · exact ⟨List.mem_append_left _ first, fresh.2.2 other first id List.mem_cons_self⟩
        · refine ⟨List.mem_append_right _ (List.mem_cons_of_mem _ second), fun same => ?_⟩
          exact (List.nodup_cons.mp fresh.2.1).1 (same ▸ second)
      have kept_pair : ∀ other ∈ before ++ behind, Function.update memory.pair id none other = memory.pair other :=
        fun other among => Function.update_of_ne (inside other among).2 _ _
      rw [removePair_removeName own, names, ids, erased, whole, eraseP_named named others]
      refine Checked.returns_ok.mpr
        ⟨?_, fun other absent => Function.update_of_ne ?_ _ _, fun other differs => Function.update_of_ne differs _ _⟩
      · have distinct := (kept.holds obj).distinct
        rw [whole] at distinct
        refine kept.change (fun other differs => Function.update_of_ne differs _ _) ?_ (Nat.le_refl _)
          (Function.update_self _ _ _) ?_ ?_ ?_ ?_ ?_
        · intro other differs there among
          refine Function.update_of_ne ?_ _ _
          rintro rfl
          exact kept.apart obj other differs.symm there (by rw [ids]; simp) among
        · rw [List.map_congr_left kept_pair, List.map_append, List.map_append, inFront, inBack]
        · exact distinct.sublist (((List.Sublist.refl _).append (List.sublist_cons_self _ _)).map _)
        · exact fun other among => kept.within obj other (by rw [ids]; exact (inside other among).1)
        · exact nodup.sublist ((List.Sublist.refl _).append (List.sublist_cons_self _ _))
        · exact fun other differs there among =>
            kept.apart obj other differs.symm there (by rw [ids]; exact (inside there among).1)
      · rintro rfl
        exact absent ⟨by rw [ids]; simp, by rw [own, Option.map_some, named]⟩
  · have found := find_none (kept.holds obj).filed nowhere
    refine ⟨none, by rw [names, found], found, ?_⟩
    rw [eraseP_absent nowhere, Function.update_eq_self]
    exact Checked.returns_ok.mpr ⟨kept, fun _ _ => rfl, fun _ _ => rfl⟩

/-- The pair of a new name comes behind those of its object. -/
theorem Kept.append (kept : memory.Kept lists) (absent : ∀ other ∈ lists obj, other.name ≠ name)
    (value : Option CString) :
    (memory.append obj name value).Kept (Function.update lists obj (lists obj ++ [⟨name, value⟩])) := by
  have names := (kept.holds obj).names
  have old : ∀ other, ∀ id ∈ (memory.object other).paramList,
      (memory.append obj name value).pair id = memory.pair id :=
    fun other id among => Function.update_of_ne (Nat.ne_of_lt (kept.within other id among)) _ _
  have object : (memory.append obj name value).object obj = {
      paramList := (memory.object obj).paramList ++ [memory.created]
      paramnamesList := (memory.object obj).paramList ++ [memory.created] } := by
    rw [← names]
    exact (Function.update_self _ _ _).trans (by rw [names])
  refine kept.change (fun other differs => Function.update_of_ne differs _ _) (fun other _ => old other)
    (Nat.le_succ _) object ?_ ?_ ?_ ?_ ?_
  · rw [List.map_append, List.map_append, List.map_congr_left (old obj), (kept.holds obj).filed]
    exact congrArg (_ ++ ·) (congrArg (fun pair => [pair]) (Function.update_self _ _ _))
  · rw [List.map_append, List.nodup_append]
    refine ⟨(kept.holds obj).distinct, List.nodup_singleton _, fun first among second last => ?_⟩
    obtain ⟨pair, inside, rfl⟩ := List.mem_map.mp among
    rw [List.map_singleton, List.mem_singleton] at last
    rw [last]
    exact absent pair inside
  · intro id among
    rcases List.mem_append.mp among with inside | last
    · exact Nat.lt_succ_of_lt (kept.within obj id inside)
    · rw [List.mem_singleton.mp last]
      exact Nat.lt_succ_self _
  · rw [List.nodup_append]
    refine ⟨kept.nodup obj, List.nodup_singleton _, fun first among second last => ?_⟩
    rw [List.mem_singleton.mp last]
    exact Nat.ne_of_lt (kept.within obj first among)
  · intro other differs id among
    rcases List.mem_append.mp among with inside | last
    · exact kept.apart obj other differs.symm id inside
    · rw [List.mem_singleton.mp last]
      exact fun inside => Nat.lt_irrefl _ (kept.within other _ inside)

/-- A parameter is set: one with its name is replaced, and the new one comes last. -/
def setPair (params : List ParamPair) (pair : ParamPair) : List ParamPair :=
  params.eraseP (fun other => other.name = pair.name) ++ [pair]

/-- A text that is read all along while pairs are destroyed. -/
def Stays (memory : ParametersMemory) (gone : Nat → Prop) {Text : Type} (read : ParametersMemory → Checked Text)
    (text : Text) : Prop :=
  ∀ after : ParametersMemory, (∀ id, ¬gone id → after.pair id = memory.pair id) → read after = .ok text

theorem Kept.setParameter (kept : memory.Kept lists) {pointer : TextPointer} {contents : Option TextPointer}
    {value : Option CString} (named : memory.Stays (memory.Replaced obj name) (·.read pointer) name)
    (valued : memory.Stays (memory.Replaced obj name) (·.readAny contents) value) :
    Checked.Returns (memory.setParameter obj pointer contents) fun after =>
      after.Kept (Function.update lists obj (setPair (lists obj) ⟨name, value⟩)) ∧
        ∀ other ≠ obj, after.object other = memory.object other := by
  obtain ⟨found, listed, filed, returns⟩ := kept.detach obj name
  obtain ⟨removed, ended, detached, pairs, objects⟩ := returns
  have before : memory.read pointer = .ok name := named memory fun _ _ => rfl
  have absent : ∀ other ∈ Function.update lists obj ((lists obj).eraseP fun pair => pair.name = name) obj,
      other.name ≠ name := by
    rw [Function.update_self]
    exact eraseP_names (kept.holds obj).distinct
  have appended := detached.append absent value
  rw [Function.update_self, Function.update_idem] at appended
  unfold ParametersMemory.setParameter
  rw [before, Checked.ok_bind, listed, Checked.ok_bind]
  dsimp only
  have newName : removed.read pointer = .ok name := named removed pairs
  have newValue : removed.readAny contents = .ok value := valued removed pairs
  rw [filed, Checked.ok_bind, ended, Checked.ok_bind, newName, Checked.ok_bind, newValue]
  refine Checked.returns_ok.mpr ⟨appended, fun other differs => ?_⟩
  exact (Function.update_of_ne differs _ _).trans (objects other differs)

section
variable {gone : Nat → Prop}

theorem stays_text (text : CString) : memory.Stays gone (·.read (.text text)) text := fun _ _ => rfl

theorem stays_texts (value : Option CString) : memory.Stays gone (·.readAny (value.map .text)) value := by
  cases value with
  | none => exact fun _ _ => rfl
  | some text => exact fun _ _ => rfl

/-- A string is read all along if its pair is not destroyed. -/
theorem Spared.stays {pointer : TextPointer} (spared : memory.Spared gone pointer) :
    ∃ text, memory.read pointer = .ok text ∧ memory.Stays gone (·.read pointer) text := by
  cases pointer with
  | text text => exact ⟨text, rfl, stays_text text⟩
  | nameOf id =>
      obtain ⟨live, stays⟩ := spared
      obtain ⟨pair, own⟩ := Option.isSome_iff_exists.mp live
      have reads : ∀ after : ParametersMemory, after.pair id = some pair → after.read (.nameOf id) = .ok pair.name := by
        intro after same
        rw [read, same]
        rfl
      exact ⟨pair.name, reads memory own, fun after pairs => reads after ((pairs id stays).trans own)⟩
  | valueOf id =>
      obtain ⟨live, stays⟩ := spared
      obtain ⟨value, found⟩ := Option.isSome_iff_exists.mp live
      obtain ⟨pair, own, valued⟩ := Option.bind_eq_some_iff.mp found
      have reads : ∀ after : ParametersMemory, after.pair id = some pair → after.read (.valueOf id) = .ok value := by
        intro after same
        rw [read, same, Checked.deref_some, Checked.ok_bind, valued]
        rfl
      exact ⟨value, reads memory own, fun after pairs => reads after ((pairs id stays).trans own)⟩

theorem Spared.stays_any {pointer : Option TextPointer} (spared : ∀ text ∈ pointer, memory.Spared gone text) :
    ∃ text, memory.readAny pointer = .ok text ∧ memory.Stays gone (·.readAny pointer) text := by
  cases pointer with
  | none => exact ⟨none, rfl, fun _ _ => rfl⟩
  | some pointer =>
      obtain ⟨text, reads, stays⟩ := Spared.stays (spared pointer rfl)
      refine ⟨some text, ?_, fun after pairs => ?_⟩
      · rw [readAny, reads]
        rfl
      · have later : after.read pointer = .ok text := stays after pairs
        dsimp only [readAny]
        rw [later]
        rfl

end

theorem Kept.removeParameter (kept : memory.Kept lists) (obj : Nat) {pointer : TextPointer}
    (reads : memory.read pointer = .ok name) :
    Checked.Returns (memory.removeParameter obj pointer) fun after =>
      after.Kept (Function.update lists obj ((lists obj).eraseP fun pair => pair.name = name)) := by
  obtain ⟨found, listed, filed, returns⟩ := kept.detach obj name
  rw [ParametersMemory.removeParameter, reads, Checked.ok_bind, listed, Checked.ok_bind]
  cases found with
  | some id =>
      dsimp only
      rw [filed, Checked.ok_bind]
      exact returns.mono fun after holds => holds.1
  | none => exact returns.mono fun after holds => holds.1

/-- The pairs are destroyed one after the other. -/
theorem destroyPairs {ids : List Nat} (nodup : ids.Nodup) (live : ∀ id ∈ ids, ∃ pair, memory.pair id = some pair) :
    Checked.Returns (ids.foldlM destroyPair memory) fun after =>
      after.created = memory.created ∧ after.object = memory.object ∧ ∀ id ∉ ids, after.pair id = memory.pair id := by
  induction ids generalizing memory with
  | nil => exact Checked.returns_ok.mpr ⟨rfl, rfl, fun _ _ => rfl⟩
  | cons id rest ih =>
      obtain ⟨absent, nodup⟩ := List.nodup_cons.mp nodup
      obtain ⟨pair, own⟩ := live id List.mem_cons_self
      rw [List.foldlM_cons, destroyPair, own, Checked.deref_some, Checked.ok_bind]
      refine (ih nodup fun other among => ?_).mono fun after gone => ?_
      · obtain ⟨pair, there⟩ := live other (List.mem_cons_of_mem _ among)
        refine ⟨pair, (Function.update_of_ne ?_ _ _).trans there⟩
        rintro rfl
        exact absent among
      · obtain ⟨created, object, pairs⟩ := gone
        refine ⟨created, object, fun other outside => (pairs other (mt (List.mem_cons_of_mem _) outside)).trans ?_⟩
        exact Function.update_of_ne (List.ne_of_not_mem_cons outside) _ _

theorem Kept.clean (kept : memory.Kept lists) (obj : Nat) :
    Checked.Returns (memory.clean obj) fun after => after.Kept (Function.update lists obj []) ∧
      ∀ id ∉ (memory.object obj).paramList, after.pair id = memory.pair id := by
  have live : ∀ id ∈ (memory.object obj).paramList, ∃ pair, memory.pair id = some pair := by
    intro id among
    have filed := List.mem_map_of_mem (f := memory.pair) among
    rw [(kept.holds obj).filed] at filed
    obtain ⟨pair, _, own⟩ := List.mem_map.mp filed
    exact ⟨pair, own.symm⟩
  unfold ParametersMemory.clean
  rw [Checked.returns_bind]
  refine (destroyPairs (kept.nodup obj) live).mono fun destroyed gone => ?_
  obtain ⟨created, object, pairs⟩ := gone
  have emptied : (destroyed.setObject obj {}).object obj = { paramList := [], paramnamesList := [] } := setObject_self _
  refine Checked.returns_ok.mpr ⟨kept.change (fun other differs => ?_) (fun other differs id among => ?_)
    (Nat.le_of_eq created.symm) emptied rfl List.nodup_nil (by simp) List.nodup_nil (by simp), pairs⟩
  · exact (Function.update_of_ne differs _ _).trans (congrFun object other)
  · exact pairs id (kept.apart other obj differs id among)

theorem Kept.setPieces (kept : memory.Kept lists) (obj : Nat) (pieces : List CString) :
    Checked.Returns (pieces.foldlM (fun memory piece =>
        memory.setParameter obj (.text (splitPiece piece).name) ((splitPiece piece).value.map .text)) memory)
      fun after => after.Kept (Function.update lists obj ((pieces.map splitPiece).foldl setPair (lists obj))) := by
  induction pieces generalizing memory lists with
  | nil =>
      rw [List.map_nil, List.foldl_nil, Function.update_eq_self]
      exact Checked.returns_ok.mpr kept
  | cons piece rest ih =>
      rw [List.foldlM_cons, Checked.returns_bind]
      refine (kept.setParameter (stays_text _) (stays_texts _)).mono fun after holds => ?_
      have others := ih holds.1
      rw [Function.update_self, Function.update_idem] at others
      exact others

theorem Kept.set (kept : memory.Kept lists) {params : Option TextPointer} {text : Option CString}
    (stays : memory.Stays (· ∈ (memory.object obj).paramList) (·.readAny params) text) :
    Checked.Returns (memory.set obj params) fun after =>
      after.Kept (Function.update lists obj (((cut [] (text.getD [])).map splitPiece).foldl setPair [])) := by
  unfold ParametersMemory.set
  rw [Checked.returns_bind]
  refine (kept.clean obj).mono fun cleaned result => ?_
  obtain ⟨emptied, pairs⟩ := result
  have reads : cleaned.readAny params = .ok text := stays cleaned pairs
  have pieces := emptied.setPieces obj (cut [] (text.getD []))
  rw [Function.update_self, Function.update_idem] at pieces
  rw [reads]
  exact pieces

/-- A pair of another object can be read until that object changes. -/
theorem Kept.stays_pair (kept : memory.Kept lists) {orig id : Nat} {pair : ParamPair} (differs : orig ≠ obj)
    (among : id ∈ (memory.object orig).paramList) (own : memory.pair id = some pair) :
    memory.Stays (memory.Replaced obj pair.name) (·.read (.nameOf id)) pair.name ∧
      memory.Stays (memory.Replaced obj pair.name) (·.readAny (pair.value.map fun _ => .valueOf id)) pair.value := by
  have unchanged : ∀ after : ParametersMemory,
      (∀ id, ¬memory.Replaced obj pair.name id → after.pair id = memory.pair id) → after.pair id = some pair :=
    fun after pairs => (pairs id fun gone => kept.apart orig obj differs id among gone.1).trans own
  refine ⟨fun after pairs => ?_, fun after pairs => ?_⟩
  · dsimp only [read]
    rw [unchanged after pairs]
    rfl
  · cases contents : pair.value with
    | none => rfl
    | some value =>
        dsimp only [Option.map_some, readAny, read]
        rw [unchanged after pairs, Checked.deref_some, Checked.ok_bind, contents]
        rfl

theorem Kept.copyPairs (kept : memory.Kept lists) {orig : Nat} (differs : orig ≠ obj) {ids : List Nat}
    {given : List ParamPair} (inside : ∀ id ∈ ids, id ∈ (memory.object orig).paramList)
    (filed : ids.map memory.pair = given.map some) :
    Checked.Returns (ids.foldlM (fun memory id => do
        let container ← Checked.deref (memory.pair id)
        memory.setParameter obj (.nameOf id) (container.value.map fun _ => .valueOf id)) memory)
      fun after => after.Kept (Function.update lists obj (given.foldl setPair (lists obj))) := by
  induction ids generalizing memory lists given with
  | nil =>
      rw [List.map_eq_nil_iff.mp filed.symm, List.foldl_nil, Function.update_eq_self]
      exact Checked.returns_ok.mpr kept
  | cons id rest ih =>
      obtain ⟨pair, others, rfl, own, behind⟩ := List.map_eq_cons_iff.mp filed.symm
      obtain ⟨named, valued⟩ := kept.stays_pair differs (inside id List.mem_cons_self) own.symm
      rw [List.foldlM_cons, ← own, Checked.deref_some, Checked.ok_bind, Checked.returns_bind]
      refine (kept.setParameter named valued).mono fun after holds => ?_
      obtain ⟨later, objects⟩ := holds
      have same : (memory.object orig).paramList.map after.pair = (memory.object orig).paramList.map memory.pair := by
        rw [(kept.holds orig).filed, ← objects orig differs, (later.holds orig).filed, Function.update_of_ne differs]
      have filedLater : rest.map after.pair = others.map some := by
        rw [behind]
        exact List.map_congr_left fun other among =>
          List.map_inj_left.mp same other (inside other (List.mem_cons_of_mem _ among))
      have insideLater : ∀ other ∈ rest, other ∈ (after.object orig).paramList := by
        rw [objects orig differs]
        exact fun other among => inside other (List.mem_cons_of_mem _ among)
      have copied := ih later insideLater filedLater
      rw [Function.update_self, Function.update_idem] at copied
      exact copied

theorem Kept.copyParametersFrom (kept : memory.Kept lists) {orig : Nat} (differs : orig ≠ obj) :
    Checked.Returns (memory.copyParametersFrom obj orig) fun after =>
      after.Kept (Function.update lists obj ((lists orig).foldl setPair (lists obj))) :=
  kept.copyPairs differs (fun _ among => among) (kept.holds orig).filed

/-- The parameter that an object gets is the first one with the name. -/
theorem Holds.getParameter {params : List ParamPair} (holds : memory.Holds obj params) (name : CString) :
    memory.getParameter obj name = .ok ((params.find? fun pair => pair.name = name).bind ParamPair.value) := by
  rcases named_or_absent params name with ⟨front, pair, rest, rfl, named, others⟩ | nowhere
  · have filed := holds.filed
    rw [List.map_append, List.map_cons] at filed
    obtain ⟨before, back, same, inFront, inBack⟩ := List.map_eq_append_iff.mp filed
    obtain ⟨id, behind, rfl, own, _⟩ := List.map_eq_cons_iff.mp inBack
    have search : (front ++ pair :: rest).find? (fun pair => pair.name = name) = some pair := by
      rw [List.find?_append, List.find?_eq_none.mpr (by simpa using others), Option.none_or,
        List.find?_cons_of_pos (by simpa using named)]
    rw [ParametersMemory.getParameter, same, find_some inFront others own named, search]
    dsimp only [Checked.ok_bind]
    rw [own]
    rfl
  · have search : params.find? (fun pair => pair.name = name) = none := List.find?_eq_none.mpr (by simpa using nowhere)
    rw [ParametersMemory.getParameter, find_none holds.filed nowhere, search]
    rfl

theorem mapM_deref {ids : List Nat} {params : List ParamPair} (filed : ids.map memory.pair = params.map some) :
    (ids.mapM fun id => Checked.deref (memory.pair id)) = .ok params := by
  induction ids generalizing params with
  | nil =>
      rw [List.map_eq_nil_iff.mp filed.symm]
      rfl
  | cons id rest ih =>
      obtain ⟨pair, others, rfl, own, behind⟩ := List.map_eq_cons_iff.mp filed.symm
      rw [List.mapM_cons, ← own, Checked.deref_some, Checked.ok_bind, ih behind.symm]
      rfl

theorem Holds.marshal {params : List ParamPair} (holds : memory.Holds obj params) :
    memory.marshal obj = .ok (parametersMarshal params) := by
  rw [ParametersMemory.marshal, mapM_deref holds.filed]
  rfl

end ParametersMemory

end BelleSip
