import BelleSip.Object.DataStore

/-
This file states the finite maps that data stores are meant to be, and proves that the stores behave as these maps
and destroy each value once that they own.
-/

namespace BelleSip.Object

open Foundation Keyed

/-- What a name stands for: a value and its destroy function. -/
abbrev DataMap (Value Destroyer : Type) := String → Option (Option Value × Option Destroyer)

namespace DataMap

variable {count : Nat} {Value Destroyer : Type}

/-- The entries of the first map are added to the second one, in the place of entries with the same names. -/
def joined (cloneFunc : Option (DataClone Value)) (src dst : DataMap Value Destroyer) : DataMap Value Destroyer :=
  fun name =>
    match src name with
    | some (data, destroyFunc) => some ((cloneFunc.elim data fun cloneFunc => cloneFunc name data), destroyFunc)
    | none => dst name

/-- The same call on a family of maps. -/
def call (maps : Fin count → DataMap Value Destroyer) :
    DataCall count Value Destroyer → (Fin count → DataMap Value Destroyer) × DataAnswer Value
  | .set obj name data destroyFunc =>
    (Function.update maps obj (Function.update (maps obj) name (some (data, destroyFunc))),
      .int (if (maps obj name).isSome then 1 else 0))
  | .get obj name => (maps, .pointer ((maps obj name).bind Prod.fst))
  | .remove obj name =>
    (Function.update maps obj (Function.update (maps obj) name none), .int (if (maps obj name).isSome then 0 else 1))
  | .isStored obj name => (maps, .int (if (maps obj name).isSome then 1 else 0))
  | .grab obj name =>
    (Function.update maps obj (Function.update (maps obj) name none), .pointer ((maps obj name).bind Prod.fst))
  | .merge src dst cloneFunc => (Function.update maps dst (joined cloneFunc (maps src) (maps dst)), .void)
  | .clone src dst cloneFunc =>
    let cleared := Function.update maps dst fun _ => none
    (Function.update cleared dst (joined cloneFunc (cleared src) (cleared dst)), .void)
  | .clear obj => (Function.update maps obj fun _ => none, .void)

/-- The calls one after the other, with what they return. -/
def calls : List (DataCall count Value Destroyer) → (Fin count → DataMap Value Destroyer) →
    (Fin count → DataMap Value Destroyer) × List (DataAnswer Value)
  | [], maps => (maps, [])
  | first :: rest, maps =>
    let result := calls rest (call maps first).1
    (result.1, (call maps first).2 :: result.2)

/-- Maps without a name are left as they are when the name is taken out. -/
theorem update_absent {maps : Fin count → DataMap Value Destroyer} {obj : Fin count} {name : String}
    (absent : maps obj name = none) : Function.update maps obj (Function.update (maps obj) name none) = maps := by
  rw [← absent, Function.update_eq_self, Function.update_eq_self]

/-- A call for a name that is absent leaves the maps as they are and gives its failure value. -/
theorem call_absent {maps : Fin count → DataMap Value Destroyer} {obj : Fin count} {name : String}
    (absent : maps obj name = none) :
    call maps (.get obj name) = (maps, .pointer none) ∧ call maps (.remove obj name) = (maps, .int 1) ∧
      call maps (.isStored obj name) = (maps, .int 0) ∧ call maps (.grab obj name) = (maps, .pointer none) := by
  refine ⟨?_, ?_, ?_, ?_⟩
  · rw [call, absent]
    rfl
  · rw [call, update_absent absent, absent]
    rfl
  · rw [call, absent]
    rfl
  · rw [call, update_absent absent, absent]
    rfl

end DataMap

/-- The value and the destroy function of an entry. -/
def ObjectData.content {Value Destroyer : Type} (entry : ObjectData Value Destroyer) :
    Option Value × Option Destroyer := (entry.data, entry.destroyFunc)

/-- The map that the entries of a store stand for. -/
def mapOf {Value Destroyer : Type} (entries : List (ObjectData Value Destroyer)) : DataMap Value Destroyer :=
  fun name => (lookup ObjectData.name entries name).map ObjectData.content

section Entries

variable {Value Destroyer : Type} {entries : List (ObjectData Value Destroyer)} {name : String}
  {link : Nat × ObjectData Value Destroyer}

theorem update_content (found : String → Option (ObjectData Value Destroyer)) (name : String)
    (new : Option (ObjectData Value Destroyer)) :
    (fun asked => (Function.update found name new asked).map ObjectData.content) =
      Function.update (fun asked => (found asked).map ObjectData.content) name (new.map ObjectData.content) := by
  funext asked
  by_cases same : asked = name
  · rw [same, Function.update_self, Function.update_self]
  · rw [Function.update_of_ne same, Function.update_of_ne same]

theorem mapOf_append {new : ObjectData Value Destroyer} (fresh : findLink ObjectData.name entries new.name = none) :
    mapOf (entries ++ [new]) = Function.update (mapOf entries) new.name (some new.content) := by
  unfold mapOf
  rw [lookup_append fresh, update_content]
  rfl

theorem mapOf_set {new : ObjectData Value Destroyer} (found : findLink ObjectData.name entries new.name = some link) :
    mapOf (entries.set link.1 new) = Function.update (mapOf entries) new.name (some new.content) := by
  unfold mapOf
  rw [lookup_set found rfl, update_content]
  rfl

theorem mapOf_eraseIdx (distinct : Distinct ObjectData.name entries)
    (found : findLink ObjectData.name entries name = some link) :
    mapOf (entries.eraseIdx link.1) = Function.update (mapOf entries) name none := by
  unfold mapOf
  rw [lookup_eraseIdx distinct found, update_content]
  rfl

theorem mapOf_cons (entry : ObjectData Value Destroyer) :
    mapOf (entry :: entries) name = if entry.name = name then some entry.content else mapOf entries name := by
  rw [mapOf, lookup_cons]
  split <;> rfl

theorem mapOf_eq_none_iff : mapOf entries name = none ↔ name ∉ entries.map ObjectData.name := by
  rw [mapOf, Option.map_eq_none_iff, lookup_eq_none_iff]

end Entries

namespace DataStores

variable {count : Nat} {Value Destroyer : Type}

/-- The maps that the stores stand for. -/
def maps (stores : DataStores count Value Destroyer) : Fin count → DataMap Value Destroyer :=
  fun obj => mapOf (stores.dataStore obj)

/-- What the stores own. -/
def held (stores : DataStores count Value Destroyer) : List (Destroyer × Option Value) :=
  allOwned ObjectData.owned stores.dataStore

/-- Each name has one entry at most, and each value that was handed over is still there or has gone once. -/
structure Sound (stores : DataStores count Value Destroyer) : Prop where
  distinct : ∀ obj, Distinct ObjectData.name (stores.dataStore obj)
  balance : stores.handed.Perm (stores.destroyed ++ stores.grabbed ++ stores.held)

/-- The entries have no destroy function, or they are cloned. -/
def Undoubled (cloneFunc : Option (DataClone Value)) (entries : List (ObjectData Value Destroyer)) : Prop :=
  cloneFunc.isSome = true ∨ ∀ entry ∈ entries, entry.destroyFunc = none

/-- Only names that are there are grabbed, only an empty store is merged into itself, and values with a destroy
function are cloned for another store. -/
def Permitted (stores : DataStores count Value Destroyer) : DataCall count Value Destroyer → Prop
  | .grab obj name => name ∈ (stores.dataStore obj).map ObjectData.name
  | .merge src dst cloneFunc =>
    if src = dst then stores.dataStore src = [] else Undoubled cloneFunc (stores.dataStore src)
  | .clone src dst cloneFunc => src = dst ∨ Undoubled cloneFunc (stores.dataStore src)
  | _ => True

@[simp] theorem withStore_dataStore (stores : DataStores count Value Destroyer) (obj : Fin count)
    (entries : List (ObjectData Value Destroyer)) :
    (stores.withStore obj entries).dataStore = Function.update stores.dataStore obj entries := rfl

theorem withStore_maps (stores : DataStores count Value Destroyer) (obj : Fin count)
    (entries : List (ObjectData Value Destroyer)) :
    (stores.withStore obj entries).maps = Function.update stores.maps obj (mapOf entries) := by
  funext other
  by_cases same : other = obj
  · subst same
    simp [maps]
  · simp [maps, Function.update_of_ne same]

variable {stores : DataStores count Value Destroyer} {cloneFunc : Option (DataClone Value)} {obj : Fin count}
  {src dst : Fin count} {name : String}

theorem withStore_distinct {entries : List (ObjectData Value Destroyer)}
    (distinct : ∀ other, Distinct ObjectData.name (stores.dataStore other)) (changed : Distinct ObjectData.name entries)
    (other : Fin count) :
    Distinct ObjectData.name ((stores.withStore obj entries).dataStore other) := by
  rw [withStore_dataStore]
  by_cases same : other = obj
  · subst same
    rw [Function.update_self]
    exact changed
  · rw [Function.update_of_ne same]
    exact distinct other

/-- A name has an entry exactly when the map has it. -/
theorem maps_eq_none_iff :
    stores.maps obj name = none ↔ stores.find obj name = none := by
  rw [maps, mapOf, Option.map_eq_none_iff, lookup, Option.map_eq_none_iff, find]

theorem maps_of_find {link : Nat × ObjectData Value Destroyer} (found : stores.find obj name = some link) :
    stores.maps obj name = some link.2.content := by
  rw [maps, mapOf, lookup_of_findLink found, Option.map_some]

/-- What a call of `set` with a name of its own does: the entry takes the place of the one with its name, which is
destroyed. -/
structure Put (stores after : DataStores count Value Destroyer) (obj : Fin count)
    (entry : ObjectData Value Destroyer) : Prop where
  distinct : ∀ other, Distinct ObjectData.name (after.dataStore other)
  maps : after.maps =
    Function.update stores.maps obj (Function.update (stores.maps obj) entry.name (some entry.content))
  handed : after.handed = stores.handed
  grabbed : after.grabbed = stores.grabbed
  exchange : ∃ out, after.destroyed = stores.destroyed ++ out ∧
    (out ++ after.held).Perm (entry.owned ++ stores.held)

theorem set_put (stores : DataStores count Value Destroyer)
    (distinct : ∀ other, Distinct ObjectData.name (stores.dataStore other)) (obj : Fin count)
    (entry : ObjectData Value Destroyer) :
    ∃ after, stores.set obj entry.name none entry.data entry.destroyFunc =
        some (after, if (stores.maps obj entry.name).isSome then 1 else 0) ∧
      Put stores after obj entry := by
  rw [set]
  cases found : stores.find obj entry.name with
  | none =>
      have absent := maps_eq_none_iff.mpr found
      refine ⟨stores.withStore obj (stores.dataStore obj ++ [entry]), by rw [absent]; rfl, ?_, ?_, rfl, rfl, [],
        (List.append_nil _).symm, ?_⟩
      · exact withStore_distinct distinct (distinct_append (distinct obj) found)
      · rw [withStore_maps, mapOf_append found]
        rfl
      · apply allOwned_exchange
        rw [List.nil_append, List.flatMap_append]
        simpa using List.perm_append_comm
  | some link =>
      have present := maps_of_find found
      refine ⟨(stores.destroy link.2).withStore obj ((stores.dataStore obj).set link.1 entry), by rw [present]; rfl,
        ?_, ?_, rfl, rfl, link.2.owned, rfl, ?_⟩
      · exact withStore_distinct distinct (distinct_set (distinct obj) found rfl)
      · rw [withStore_maps, mapOf_set found]
        rfl
      · apply allOwned_exchange
        obtain ⟨before, rest, split, position, _⟩ := findLink_split found
        change (link.2.owned ++ ((stores.dataStore obj).set link.1 entry).flatMap ObjectData.owned).Perm
          (entry.owned ++ (stores.dataStore obj).flatMap ObjectData.owned)
        rw [split, ← position, List.set_append_right _ _ (Nat.le_refl _), Nat.sub_self, List.set_cons_zero]
        exact flatMap_replace before rest link.2 entry

/-- What the removal of a found entry does to the maps and to what the stores own. -/
structure TakenOut (stores : DataStores count Value Destroyer) (obj : Fin count) (name : String)
    (entry : ObjectData Value Destroyer) (entries : List (ObjectData Value Destroyer)) : Prop where
  distinct : Distinct ObjectData.name entries
  map : mapOf entries = Function.update (stores.maps obj) name none
  exchange : (entry.owned ++ allOwned ObjectData.owned (Function.update stores.dataStore obj entries)).Perm stores.held

theorem removeLink_takenOut {link : Nat × ObjectData Value Destroyer}
    (distinct : Distinct ObjectData.name (stores.dataStore obj)) (found : stores.find obj name = some link) :
    TakenOut stores obj name link.2 ((stores.dataStore obj).eraseIdx link.1) := by
  refine ⟨distinct_eraseIdx distinct _, mapOf_eraseIdx distinct found, ?_⟩
  have exchange : (link.2.owned ++ ((stores.dataStore obj).eraseIdx link.1).flatMap ObjectData.owned).Perm
      ([] ++ (stores.dataStore obj).flatMap ObjectData.owned) := by
    obtain ⟨before, rest, split, position, _⟩ := findLink_split found
    rw [split, ← position, List.eraseIdx_append_of_length_le (Nat.le_refl _), Nat.sub_self, List.eraseIdx_cons_zero,
      List.nil_append]
    exact flatMap_takeOut before rest link.2
  exact allOwned_exchange exchange

/-- A call keeps the stores sound and does to their maps what it is meant to do, with the answer it is meant to
give. -/
def Refines (stores : DataStores count Value Destroyer) (first : DataCall count Value Destroyer) : Prop :=
  ∃ after, stores.call first = some (after, (DataMap.call stores.maps first).2) ∧ after.Sound ∧
    after.maps = (DataMap.call stores.maps first).1

theorem set_refines (sound : stores.Sound) (obj : Fin count) (name : String) (data : Option Value)
    (destroyFunc : Option Destroyer) :
    stores.Refines (.set obj name data destroyFunc) := by
  let entry : ObjectData Value Destroyer := { name, data, destroyFunc }
  obtain ⟨after, returned, put⟩ := set_put (stores.handOver entry) sound.distinct obj entry
  obtain ⟨out, destroyed, exchange⟩ := put.exchange
  refine ⟨after, ?_, ⟨put.distinct, ?_⟩, put.maps⟩
  · rw [call, returned, Option.map_some]
    rfl
  · rw [put.handed, destroyed, put.grabbed]
    exact balance_put sound.balance exchange

theorem remove_refines (sound : stores.Sound) (obj : Fin count) (name : String) :
    stores.Refines (.remove obj name) := by
  cases found : stores.find obj name with
  | none =>
      have absent := maps_eq_none_iff.mpr found
      refine ⟨stores, ?_, sound, ?_⟩
      · rw [call, remove, found, (DataMap.call_absent absent).2.1]
        rfl
      · rw [(DataMap.call_absent absent).2.1]
  | some link =>
      have taken := removeLink_takenOut (sound.distinct obj) found
      have present := maps_of_find found
      refine ⟨(stores.destroy link.2).withStore obj ((stores.dataStore obj).eraseIdx link.1), ?_,
        ⟨withStore_distinct sound.distinct taken.distinct, ?_⟩, ?_⟩
      · rw [call, remove, found, DataMap.call, present]
        rfl
      · exact balance_first sound.balance taken.exchange
      · rw [withStore_maps, taken.map]
        rfl

theorem grab_refines (sound : stores.Sound) (present : name ∈ (stores.dataStore obj).map ObjectData.name) :
    stores.Refines (.grab obj name) := by
  cases found : stores.find obj name with
  | none => exact absurd present (findLink_eq_none_iff.mp found)
  | some link =>
      have taken := removeLink_takenOut (sound.distinct obj) found
      have present := maps_of_find found
      refine ⟨{ stores with grabbed := stores.grabbed ++ link.2.owned }.withStore obj
          ((stores.dataStore obj).eraseIdx link.1), ?_,
        ⟨withStore_distinct sound.distinct taken.distinct, ?_⟩, ?_⟩
      · rw [call, grab, found, DataMap.call, present]
        simp [removeLink, ObjectData.content]
      · exact balance_second sound.balance taken.exchange
      · rw [withStore_maps, taken.map]
        rfl

theorem clear_maps (stores : DataStores count Value Destroyer) (obj : Fin count) :
    (stores.clear obj).maps = Function.update stores.maps obj fun _ => none := by
  change (stores.withStore obj []).maps = _
  rw [withStore_maps]
  rfl

theorem clear_sound (sound : stores.Sound) (obj : Fin count) :
    (stores.clear obj).Sound := by
  have exchange : ((stores.dataStore obj).flatMap ObjectData.owned ++ [].flatMap ObjectData.owned).Perm
      ([] ++ (stores.dataStore obj).flatMap ObjectData.owned) := by simp
  refine ⟨withStore_distinct sound.distinct List.nodup_nil, ?_⟩
  exact balance_first sound.balance (allOwned_exchange exchange)

/-- A value that is cloned for another store is handed over anew, and a value that is not cloned has no destroy
function there. -/
theorem mergeEntry_put (sound : stores.Sound) (dst : Fin count) {entry : ObjectData Value Destroyer}
    (undoubled : cloneFunc.isSome = true ∨ entry.destroyFunc = none) :
    ∃ after answer, stores.mergeEntry dst none cloneFunc entry = some (after, answer) ∧ after.Sound ∧
      after.maps = Function.update stores.maps dst (Function.update (stores.maps dst) entry.name
        (some (cloneFunc.elim entry.data fun cloneFunc => cloneFunc entry.name entry.data, entry.destroyFunc))) := by
  cases cloneFunc with
  | some cloneFunc =>
      let cloned := { entry with data := cloneFunc entry.name entry.data }
      obtain ⟨after, returned, put⟩ := set_put (stores.handOver cloned) sound.distinct dst cloned
      obtain ⟨out, destroyed, exchange⟩ := put.exchange
      refine ⟨after, _, returned, ⟨put.distinct, ?_⟩, put.maps⟩
      rw [put.handed, destroyed, put.grabbed]
      exact balance_put sound.balance exchange
  | none =>
      have plain : entry.destroyFunc = none := by simpa using undoubled
      obtain ⟨after, returned, put⟩ := set_put stores sound.distinct dst entry
      obtain ⟨out, destroyed, exchange⟩ := put.exchange
      refine ⟨after, _, returned, ⟨put.distinct, ?_⟩, put.maps⟩
      rw [ObjectData.owned, plain] at exchange
      rw [put.handed, destroyed, put.grabbed]
      exact balance_first sound.balance exchange

theorem joined_nil (cloneFunc : Option (DataClone Value)) (map : DataMap Value Destroyer) :
    DataMap.joined cloneFunc (mapOf []) map = map := rfl

/-- An entry that is added to a map before the other ones, which have other names, is added with them. -/
theorem joined_cons {entry : ObjectData Value Destroyer} {rest : List (ObjectData Value Destroyer)}
    (fresh : entry.name ∉ rest.map ObjectData.name) (map : DataMap Value Destroyer) :
    DataMap.joined cloneFunc (mapOf rest) (Function.update map entry.name
        (some (cloneFunc.elim entry.data fun cloneFunc => cloneFunc entry.name entry.data, entry.destroyFunc))) =
      DataMap.joined cloneFunc (mapOf (entry :: rest)) map := by
  funext name
  unfold DataMap.joined
  rw [mapOf_cons]
  by_cases same : entry.name = name
  · subst same
    rw [if_pos rfl, mapOf_eq_none_iff.mpr fresh, Function.update_self]
    rfl
  · rw [if_neg same, Function.update_of_ne (Ne.symm same)]

/-- The loop adds the entries that are left to the map of the destination. -/
theorem mergeLoop_joined (different : src ≠ dst) (cloneFunc : Option (DataClone Value))
    {entries : List (ObjectData Value Destroyer)} (distinct : Distinct ObjectData.name entries)
    (undoubled : Undoubled cloneFunc entries) (position : Nat) (sound : stores.Sound) :
    ∃ after, mergeLoop src dst cloneFunc position entries stores = some after ∧ after.Sound ∧
      after.maps = Function.update stores.maps dst (DataMap.joined cloneFunc (mapOf entries) (stores.maps dst)) := by
  induction entries generalizing position stores with
  | nil => exact ⟨stores, rfl, sound, by rw [joined_nil, Function.update_eq_self]⟩
  | cons entry rest inductionHypothesis =>
      obtain ⟨fresh, others⟩ := distinct_cons.mp distinct
      have undoubledFirst : cloneFunc.isSome = true ∨ entry.destroyFunc = none :=
        undoubled.imp_right fun all => all entry List.mem_cons_self
      have undoubledRest : Undoubled cloneFunc rest :=
        undoubled.imp_right fun all other among => all other (List.mem_cons_of_mem _ among)
      obtain ⟨next, answer, returned, soundNext, mapsNext⟩ := mergeEntry_put sound dst undoubledFirst
      obtain ⟨after, rested, soundAfter, mapsAfter⟩ :=
        inductionHypothesis others undoubledRest (position + 1) soundNext
      refine ⟨after, ?_, soundAfter, ?_⟩
      · rw [mergeLoop, if_neg different, returned]
        exact rested
      · rw [mapsAfter, mapsNext, Function.update_idem, Function.update_self, joined_cons fresh]

/-- A store that is merged into another one, or an empty store that is merged into itself, is added to its map. -/
theorem merge_joined (sound : stores.Sound)
    (permitted : if src = dst then stores.dataStore src = [] else Undoubled cloneFunc (stores.dataStore src)) :
    ∃ after, stores.merge src dst cloneFunc = some after ∧ after.Sound ∧
      after.maps = Function.update stores.maps dst
        (DataMap.joined cloneFunc (stores.maps src) (stores.maps dst)) := by
  by_cases same : src = dst
  · rw [if_pos same] at permitted
    have empty : stores.maps src = mapOf [] := by rw [maps, permitted]
    refine ⟨stores, ?_, sound, ?_⟩
    · rw [merge, permitted]
      rfl
    · rw [empty, joined_nil, Function.update_eq_self]
  · rw [if_neg same] at permitted
    exact mergeLoop_joined same cloneFunc (sound.distinct src) permitted 0 sound

theorem merge_refines (sound : stores.Sound) (permitted : stores.Permitted (.merge src dst cloneFunc)) :
    stores.Refines (.merge src dst cloneFunc) := by
  obtain ⟨after, returned, soundAfter, mapsAfter⟩ := merge_joined sound permitted
  refine ⟨after, ?_, soundAfter, mapsAfter⟩
  rw [call, returned]
  rfl

theorem clone_refines (sound : stores.Sound) (permitted : stores.Permitted (.clone src dst cloneFunc)) :
    stores.Refines (.clone src dst cloneFunc) := by
  have cleared : if src = dst then (stores.clear dst).dataStore src = []
      else Undoubled cloneFunc ((stores.clear dst).dataStore src) := by
    change if src = dst then Function.update stores.dataStore dst [] src = []
      else Undoubled cloneFunc (Function.update stores.dataStore dst [] src)
    by_cases same : src = dst
    · rw [if_pos same, same, Function.update_self]
    · rw [if_neg same, Function.update_of_ne same]
      exact permitted.resolve_left same
  obtain ⟨after, returned, soundAfter, mapsAfter⟩ := merge_joined (clear_sound sound dst) cleared
  refine ⟨after, ?_, soundAfter, ?_⟩
  · rw [call, clone, returned]
    rfl
  · rw [mapsAfter, clear_maps]
    rfl

/-- Each permitted call refines the call on the maps. -/
theorem call_refines (sound : stores.Sound) {first : DataCall count Value Destroyer}
    (permitted : stores.Permitted first) : stores.Refines first := by
  cases first with
  | set obj name data destroyFunc => exact set_refines sound obj name data destroyFunc
  | get obj name =>
      refine ⟨stores, ?_, sound, rfl⟩
      cases found : stores.find obj name with
      | none => rw [call, get, found, DataMap.call, maps_eq_none_iff.mpr found]; rfl
      | some link => rw [call, get, found, DataMap.call, maps_of_find found]; rfl
  | remove obj name => exact remove_refines sound obj name
  | isStored obj name =>
      refine ⟨stores, ?_, sound, rfl⟩
      cases found : stores.find obj name with
      | none => rw [call, isStored, found, DataMap.call, maps_eq_none_iff.mpr found]; rfl
      | some link => rw [call, isStored, found, DataMap.call, maps_of_find found]; rfl
  | grab obj name => exact grab_refines sound permitted
  | merge src dst cloneFunc => exact merge_refines sound permitted
  | clone src dst cloneFunc => exact clone_refines sound permitted
  | clear obj => exact ⟨stores.clear obj, rfl, clear_sound sound obj, clear_maps stores obj⟩

/-- Permitted calls one after the other refine the calls on the maps. -/
theorem calls_refine (sound : stores.Sound) {all : List (DataCall count Value Destroyer)}
    (permitted : Machine.Along after Permitted stores all) :
    ∃ final, calls all stores = some (final, (DataMap.calls all stores.maps).2) ∧ final.Sound ∧
      final.maps = (DataMap.calls all stores.maps).1 := by
  induction all generalizing stores with
  | nil => exact ⟨stores, rfl, sound, rfl⟩
  | cons first rest inductionHypothesis =>
      obtain ⟨next, returned, soundNext, mapsNext⟩ := call_refines sound permitted.1
      have reached : stores.after first = next := by rw [after, returned, Option.elim_some]
      have others := permitted.2
      rw [reached] at others
      obtain ⟨final, rested, soundFinal, mapsFinal⟩ := inductionHypothesis soundNext others
      rw [mapsNext] at rested mapsFinal
      refine ⟨final, ?_, soundFinal, mapsFinal⟩
      rw [calls, returned]
      simp only [Option.bind_eq_bind, Option.bind_some, rested]
      rfl

theorem initial_sound : ({} : DataStores count Value Destroyer).Sound := by
  refine ⟨fun _ => List.nodup_nil, ?_⟩
  have nothing : ({} : DataStores count Value Destroyer).held = [] := by
    simp [held, allOwned]
  rw [nothing]
  rfl

instance (stores : DataStores count Value Destroyer) (first : DataCall count Value Destroyer) :
    Decidable (stores.Permitted first) :=
  match first with
  | .grab obj name => inferInstanceAs (Decidable (name ∈ (stores.dataStore obj).map ObjectData.name))
  | .merge src dst cloneFunc =>
    inferInstanceAs (Decidable (if src = dst then stores.dataStore src = []
      else cloneFunc.isSome = true ∨ ∀ entry ∈ stores.dataStore src, entry.destroyFunc = none))
  | .clone src dst cloneFunc =>
    inferInstanceAs (Decidable (src = dst ∨ cloneFunc.isSome = true ∨
      ∀ entry ∈ stores.dataStore src, entry.destroyFunc = none))
  | .set .. | .get .. | .remove .. | .isStored .. | .clear .. => inferInstanceAs (Decidable True)

/-- Permitted calls on new stores give the answers and leave the maps that the same calls on empty maps do. Each name
has one entry at most, and each value that was handed over with a destroy function has been destroyed once, has been
grabbed once or is still owned once; no value is owned when the stores are empty. -/
theorem calls_finite_map (all : List (DataCall count Value Destroyer))
    (permitted : Machine.Along after Permitted {} all) :
    ∃ final : DataStores count Value Destroyer,
      calls all {} = some (final, (DataMap.calls all fun _ _ => none).2) ∧
        final.maps = (DataMap.calls all fun _ _ => none).1 ∧
        (∀ obj, ((final.dataStore obj).map ObjectData.name).Nodup) ∧
        final.handed.Perm (final.destroyed ++ final.grabbed ++ final.held) ∧
        ((∀ obj, final.dataStore obj = []) → final.held = []) := by
  obtain ⟨final, returned, sound, maps⟩ := calls_refine initial_sound permitted
  refine ⟨final, returned, maps, sound.distinct, sound.balance, fun empty => ?_⟩
  simp [held, allOwned, empty]

/-- A value is replaced, cloned for another store, grabbed there and removed here. -/
theorem calls_finite_map_two :
    ∃ final : DataStores 2 Nat Unit,
      calls [.set 0 "a" (some 1) (some ()), .set 0 "a" (some 2) (some ()), .merge 0 1 (some fun _ data => data),
          .grab 1 "a", .remove 0 "a", .get 0 "a"] {} =
        some (final, [.int 0, .int 1, .void, .pointer (some 2), .int 0, .pointer none]) ∧
      final.handed.Perm (final.destroyed ++ final.grabbed ++ final.held) := by
  obtain ⟨final, returned, _, _, balance, _⟩ := calls_finite_map
    ([.set 0 "a" (some 1) (some ()), .set 0 "a" (some 2) (some ()), .merge 0 1 (some fun _ data => data), .grab 1 "a",
      .remove 0 "a", .get 0 "a"] : List (DataCall 2 Nat Unit)) (by decide +kernel)
  exact ⟨final, returned, balance⟩

/-- The grab of an absent name reads through a null pointer, a merge of a store into itself reads a name that was
freed, and a merge without a clone function destroys a value twice. -/
theorem calls_lost :
    calls [.grab 0 "a"] ({} : DataStores 1 Nat Unit) = none ∧
      calls [.set 0 "a" (some 1) none, .merge 0 0 none] ({} : DataStores 1 Nat Unit) = none ∧
      ((calls [.set 0 "a" (some 1) (some ()), .merge 0 1 none, .clear 0, .clear 1]
        ({} : DataStores 2 Nat Unit)).map fun result => (result.1.handed, result.1.destroyed)) =
      some ([((), some 1)], [((), some 1), ((), some 1)]) := by
  refine ⟨rfl, ?_, ?_⟩
  · decide +kernel
  · decide +kernel

end DataStores

end BelleSip.Object
