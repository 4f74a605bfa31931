import BelleSip.Foundation.Checked
import BelleSip.Foundation.Machine
import Mathlib.Data.Finset.Card
import Mathlib.Data.Finset.Range
import Mathlib.Logic.Function.Basic

/-
This file models the two URIs of a header address and the references to them, and proves which calls keep the reference
counts balanced.
-/

namespace BelleSip

open Foundation

/-- A `belle_sip_uri_t` or a `belle_generic_uri_t`. -/
inductive UriObject where
  | sip (id : Nat)
  | generic (id : Nat)
deriving DecidableEq, Repr

/-- This is `belle_sip_header_address_t` without its parameters. -/
structure AddressHeader where
  displayname : Option String := none
  uri : Option Nat := none
  absoluteUri : Option Nat := none
deriving DecidableEq, Repr

/-- The URI objects with their reference counts, and the header addresses that have not been destroyed. The count of a
deleted object is -1, and an object that nobody has referenced yet belongs to a pool. -/
structure AddressMemory where
  created : Nat := 0
  refs : UriObject → Int := fun _ => 0
  allocated : Nat := 0
  addresses : Nat → Option AddressHeader := fun _ => none

namespace AddressMemory

def setRefs (memory : AddressMemory) (obj : UriObject) (count : Int) : AddressMemory :=
  { memory with refs := Function.update memory.refs obj count }

def setAddress (memory : AddressMemory) (header : Nat) (address : Option AddressHeader) : AddressMemory :=
  { memory with addresses := Function.update memory.addresses header address }

/-- This is `belle_sip_object_ref`. A deleted object counts as a null pointer. -/
def ref (memory : AddressMemory) (pointer : Option UriObject) : Checked AddressMemory := do
  let obj ← Checked.deref pointer
  if memory.refs obj = -1 then .error .nullPointer
  else return memory.setRefs obj (memory.refs obj + 1)

/-- This is `belle_sip_object_unref`, with `belle_sip_object_delete` for an object that nobody references any more. -/
def unref (memory : AddressMemory) (pointer : Option UriObject) : Checked AddressMemory := do
  let obj ← Checked.deref pointer
  if memory.refs obj = -1 then .error .fatal
  else if memory.refs obj = 0 ∨ memory.refs obj = 1 then return memory.setRefs obj (-1)
  else return memory.setRefs obj (memory.refs obj - 1)

/-- This is `belle_sip_object_ref` behind a test of the pointer. -/
def refAny (memory : AddressMemory) (pointer : Option UriObject) : Checked AddressMemory :=
  if pointer.isSome then memory.ref pointer else return memory

/-- This is `belle_sip_object_unref` behind a test of the pointer. -/
def unrefAny (memory : AddressMemory) (pointer : Option UriObject) : Checked AddressMemory :=
  if pointer.isSome then memory.unref pointer else return memory

mutual

/-- This is `belle_sip_header_address_set_uri`. -/
def setUri (memory : AddressMemory) (header : Nat) (uri : Option Nat) : Checked AddressMemory := do
  let address ← Checked.deref (memory.addresses header)
  let taken ← memory.refAny (uri.map .sip)
  let dropped ← taken.unrefAny (address.uri.map .sip)
  let stored := dropped.setAddress header (some { address with uri })
  if _both : address.absoluteUri.isSome ∧ uri.isSome then stored.setAbsoluteUri header none
  else return stored
termination_by if uri.isSome then 1 else 0
decreasing_by simp [_both.2]

/-- This is `belle_sip_header_address_set_absolute_uri`, which takes a reference to any pointer. -/
def setAbsoluteUri (memory : AddressMemory) (header : Nat) (absoluteUri : Option Nat) : Checked AddressMemory := do
  let address ← Checked.deref (memory.addresses header)
  let taken ← memory.ref (absoluteUri.map .generic)
  let dropped ← taken.unrefAny (address.absoluteUri.map .generic)
  let stored := dropped.setAddress header (some { address with absoluteUri })
  if _both : address.uri.isSome ∧ absoluteUri.isSome then stored.setUri header none
  else return stored
termination_by if absoluteUri.isSome then 1 else 0
decreasing_by simp [_both.2]

end

/-- This is `_belle_sip_object_new`, for an object of a pool. -/
def create (memory : AddressMemory) : AddressMemory := { memory with created := memory.created + 1 }

/-- This is `belle_sip_header_address_new`. -/
def new (memory : AddressMemory) : AddressMemory :=
  { memory.setAddress memory.allocated (some {}) with allocated := memory.allocated + 1 }

/-- This is `belle_sip_header_address_clone` on a new header address. -/
def clone (memory : AddressMemory) (header : Nat) : Checked AddressMemory := do
  let orig ← Checked.deref (memory.addresses header)
  let addr := memory.allocated
  let copied := memory.new.setAddress addr (some { displayname := orig.displayname })
  let withUri ← if orig.uri.isSome then copied.create.setUri addr (some copied.created) else pure copied
  if orig.absoluteUri.isSome then withUri.create.setAbsoluteUri addr (some withUri.created) else return withUri

/-- This is `belle_sip_header_address_destroy`. -/
def destroy (memory : AddressMemory) (header : Nat) : Checked AddressMemory := do
  let address ← Checked.deref (memory.addresses header)
  let dropped ← memory.unrefAny (address.uri.map .sip)
  return dropped.setAddress header none

/-- What the application and the pools do. -/
inductive Call where
  | create
  | new
  | hold (obj : UriObject)
  | release (obj : UriObject)
  | drop (obj : UriObject)
  | setUri (header : Nat) (uri : Option Nat)
  | setAbsoluteUri (header : Nat) (absoluteUri : Option Nat)
  | clone (header : Nat)
  | destroy (header : Nat)
deriving DecidableEq, Repr

def handle (memory : AddressMemory) : Call → Checked AddressMemory
  | .create => return memory.create
  | .new => return memory.new
  | .hold obj => memory.ref (some obj)
  | .release obj => memory.unref (some obj)
  | .drop obj => memory.unref (some obj)
  | .setUri header uri => memory.setUri header uri
  | .setAbsoluteUri header absoluteUri => memory.setAbsoluteUri header absoluteUri
  | .clone header => memory.clone header
  | .destroy header => memory.destroy header

end AddressMemory

def UriObject.id : UriObject → Nat
  | .sip id => id
  | .generic id => id

def UriObject.isGeneric : UriObject → Bool
  | .sip _ => false
  | .generic _ => true

/-- One of the two URIs of an address is the object. -/
def AddressHeader.refersTo (address : AddressHeader) : UriObject → Bool
  | .sip id => address.uri = some id
  | .generic id => address.absoluteUri = some id

/-- The header addresses that refer to an object. -/
def AddressMemory.holders (memory : AddressMemory) (obj : UriObject) : Finset Nat :=
  (Finset.range memory.allocated).filter fun header => (memory.addresses header).any (·.refersTo obj)

/-- An object is referenced once for each holder until it is deleted, when there is none left. -/
def Fair (count : Int) (holders : Nat) : Prop := count = holders ∨ count = -1 ∧ holders = 0

/-- The references to every object are those of the application and of the header addresses. -/
structure Balanced (memory : AddressMemory) (external : UriObject → Nat) : Prop where
  counts : ∀ obj, Fair (memory.refs obj) (external obj + (memory.holders obj).card)
  fresh : ∀ obj : UriObject, memory.created ≤ obj.id → memory.refs obj = 0
  within : ∀ header, memory.allocated ≤ header → memory.addresses header = none

section
variable {memory : AddressMemory} {external : UriObject → Nat} {header : Nat} {obj : UriObject}

namespace AddressMemory

theorem refAny_eq {new : Option UriObject} (live : ∀ obj, new = some obj → memory.refs obj ≠ -1) :
    memory.refAny new =
      .ok { memory with refs := fun obj => memory.refs obj + if new = some obj then 1 else 0 } := by
  cases new with
  | none => simp [refAny, pure, Except.pure]
  | some obj =>
      rw [refAny, if_pos Option.isSome_some, ref, Checked.deref_some, Checked.ok_bind, if_neg (live obj rfl), setRefs]
      congr 2
      funext other
      by_cases same : other = obj
      · rw [same, Function.update_self, if_pos rfl]
      · rw [Function.update_of_ne same, if_neg fun equal => same (Option.some.inj equal).symm, Int.add_zero]

theorem unrefAny_eq {old : Option UriObject} (held : ∀ obj, old = some obj → 1 ≤ memory.refs obj) :
    memory.unrefAny old = .ok { memory with
      refs := fun obj =>
        if old = some obj then if memory.refs obj = 1 then -1 else memory.refs obj - 1 else memory.refs obj } := by
  cases old with
  | none => simp [unrefAny, pure, Except.pure]
  | some obj =>
      have positive := held obj rfl
      rw [unrefAny, if_pos Option.isSome_some, unref, Checked.deref_some, Checked.ok_bind, if_neg (by omega)]
      have others : ∀ count : Int, Function.update memory.refs obj count = fun other =>
          if some obj = some other then count else memory.refs other := by
        intro count
        funext other
        by_cases same : other = obj
        · rw [same, Function.update_self, if_pos rfl]
        · rw [Function.update_of_ne same, if_neg fun equal => same (Option.some.inj equal).symm]
      split
      · next last =>
          rw [setRefs, others]
          congr 2
          funext other
          split
          · next same => rw [← Option.some.inj same, if_pos (by omega)]
          · rfl
      · next more =>
          rw [setRefs, others]
          congr 2
          funext other
          split
          · next same => rw [← Option.some.inj same, if_neg (by omega)]
          · rfl

/-- Only the changed address can hold an object that it did not hold before, or hold one no more. -/
theorem card_holders (obj : UriObject) (changed : Option AddressHeader) (inside : header < memory.allocated) :
    ((memory.setAddress header changed).holders obj).card +
        (if (memory.addresses header).any (·.refersTo obj) then 1 else 0) =
      (memory.holders obj).card + if changed.any (·.refersTo obj) then 1 else 0 := by
  have parts : ∀ holders : Finset Nat,
      holders.card = (holders.erase header).card + if header ∈ holders then 1 else 0 := by
    intro holders
    split
    · next among => rw [Finset.card_erase_add_one among]
    · next absent => rw [Finset.erase_eq_of_notMem absent, Nat.add_zero]
  have others : ((memory.setAddress header changed).holders obj).erase header = (memory.holders obj).erase header := by
    ext other
    rw [Finset.mem_erase, Finset.mem_erase]
    refine and_congr_right fun differs => ?_
    have kept : (memory.setAddress header changed).addresses other = memory.addresses other :=
      Function.update_of_ne differs _ _
    rw [holders, holders, Finset.mem_filter, Finset.mem_filter, kept]
    rfl
  have before : header ∈ memory.holders obj ↔ (memory.addresses header).any (·.refersTo obj) = true := by
    rw [holders, Finset.mem_filter, Finset.mem_range]
    exact and_iff_right inside
  have after : header ∈ (memory.setAddress header changed).holders obj ↔ changed.any (·.refersTo obj) = true := by
    have own : (memory.setAddress header changed).addresses header = changed := Function.update_self _ _ _
    rw [holders, Finset.mem_filter, Finset.mem_range, own]
    exact and_iff_right inside
  rw [parts (holders _ obj), parts (memory.holders obj), others]
  simp only [before, after]
  omega

end AddressMemory

namespace Balanced

variable {address : AddressHeader}

theorem inside (balanced : Balanced memory external) (stands : memory.addresses header = some address) :
    header < memory.allocated := by
  by_contra beyond
  rw [balanced.within header (Nat.le_of_not_lt beyond)] at stands
  cases stands

/-- An object that an address holds has been referenced. -/
theorem referenced (balanced : Balanced memory external) (stands : memory.addresses header = some address)
    (refers : address.refersTo obj = true) :
    1 ≤ memory.refs obj := by
  have among : header ∈ memory.holders obj := by
    rw [AddressMemory.holders, Finset.mem_filter, Finset.mem_range, stands]
    exact ⟨balanced.inside stands, refers⟩
  have some_ := Finset.card_pos.mpr ⟨header, among⟩
  rcases balanced.counts obj with count | ⟨-, none_⟩ <;> omega

/-- The count of an object follows its holders when one reference is taken and another one given back. -/
theorem fair_replaced {count : Int} {held before after : Nat} {given cleared refers : Prop} [Decidable given]
    [Decidable cleared] [Decidable refers] (counts : Fair count (held + before)) (alive : given → count ≠ -1)
    (shown : cleared → refers) (apart : given → refers → cleared) (positive : refers → 1 ≤ count)
    (moved : (after + if refers then 1 else 0) = before + if given ∨ refers ∧ ¬cleared then 1 else 0) :
    Fair (if cleared then if (count + if given then 1 else 0) = 1 then -1 else (count + if given then 1 else 0) - 1
      else count + if given then 1 else 0) (held + after) := by
  unfold Fair at counts ⊢
  by_cases refers
  · next refers =>
      have positive := positive refers
      by_cases cleared
      · next cleared =>
          simp only [refers, cleared, not_true_eq_false, and_false, or_false, if_true] at moved ⊢
          by_cases given
          · next given =>
              simp only [given, if_true] at moved ⊢
              split <;> omega
          · next given =>
              simp only [given, if_false] at moved ⊢
              split <;> omega
      · next cleared =>
          have given : ¬given := fun given => cleared (apart given refers)
          simp only [refers, cleared, given, not_false_eq_true, and_self, or_true, if_true, if_false] at moved ⊢
          omega
  · next refers =>
      have cleared : ¬cleared := fun cleared => refers (shown cleared)
      simp only [refers, cleared, false_and, or_false, if_false] at moved ⊢
      by_cases given
      · next given =>
          have alive := alive given
          simp only [given, if_true] at moved ⊢
          omega
      · next given =>
          simp only [given, if_false] at moved ⊢
          omega

/-- A reference to one object takes the place of a reference to another in an address. -/
theorem replace (balanced : Balanced memory external) (stands : memory.addresses header = some address)
    (old new : Option UriObject) (changed : Option AddressHeader)
    (live : ∀ obj, new = some obj → obj.id < memory.created ∧ memory.refs obj ≠ -1)
    (held : ∀ obj, old = some obj → address.refersTo obj = true) (after : ∀ obj, changed.any (·.refersTo obj) = true ↔
      new = some obj ∨ address.refersTo obj = true ∧ old ≠ some obj)
    (apart : ∀ obj, new = some obj → address.refersTo obj = true → old = some obj) :
    Checked.Returns (do
        let taken ← memory.refAny new
        let dropped ← taken.unrefAny old
        return dropped.setAddress header changed) fun later =>
      Balanced later external ∧ later.addresses = Function.update memory.addresses header changed ∧
        later.created = memory.created ∧ later.allocated = memory.allocated := by
  have taken : ∀ obj, old = some obj → 1 ≤ memory.refs obj + if new = some obj then 1 else 0 := by
    intro obj same
    have positive := balanced.referenced stands (held obj same)
    split <;> omega
  rw [AddressMemory.refAny_eq fun obj same => (live obj same).2, Checked.ok_bind, AddressMemory.unrefAny_eq taken,
    Checked.ok_bind, Checked.returns_pure]
  refine ⟨⟨?_, ?_, ?_⟩, rfl, rfl, rfl⟩
  · intro obj
    have moved := AddressMemory.card_holders obj changed (balanced.inside stands)
    rw [stands, Option.any_some] at moved
    simp only [after obj] at moved
    exact fair_replaced (balanced.counts obj) (fun given => (live obj given).2) (held obj) (apart obj)
      (balanced.referenced stands) moved
  · intro obj beyond
    have unreferenced := balanced.fresh obj beyond
    have notNew : new ≠ some obj := fun same => absurd (live obj same).1 (Nat.not_lt.mpr beyond)
    have notOld : old ≠ some obj := by
      intro same
      have positive := balanced.referenced stands (held obj same)
      omega
    show (if old = some obj then _ else memory.refs obj + if new = some obj then 1 else 0) = 0
    rw [if_neg notOld, if_neg notNew, unreferenced, Int.add_zero]
  · intro other beyond
    have differs : other ≠ header :=
        fun same => absurd (balanced.inside stands) (by rw [← same]; exact Nat.not_lt.mpr beyond)
    exact (Function.update_of_ne differs _ _).trans (balanced.within other beyond)

/-- A new address refers to nothing. -/
theorem new (balanced : Balanced memory external) (displayname : Option String) :
    Balanced (memory.new.setAddress memory.allocated (some { displayname })) external := by
  have addresses : (memory.new.setAddress memory.allocated (some { displayname })).addresses =
      Function.update memory.addresses memory.allocated (some { displayname }) := Function.update_idem _ _ _
  refine ⟨fun obj => ?_, balanced.fresh, fun header beyond => ?_⟩
  · have same : (memory.new.setAddress memory.allocated (some { displayname })).holders obj = memory.holders obj := by
      ext header
      rw [AddressMemory.holders, AddressMemory.holders, Finset.mem_filter, Finset.mem_filter, addresses,
        Finset.mem_range, Finset.mem_range]
      show header < memory.allocated + 1 ∧ _ ↔ _
      by_cases own : header = memory.allocated
      · have refers : ({ displayname } : AddressHeader).refersTo obj = false := by cases obj <;> rfl
        rw [own, Function.update_self, Option.any_some, refers]
        simp
      · rw [Function.update_of_ne own]
        refine and_congr_left fun _ => ?_
        omega
    rw [same]
    exact balanced.counts obj
  · have beyond : memory.allocated + 1 ≤ header := beyond
    rw [addresses, Function.update_of_ne (by omega)]
    exact balanced.within header (by omega)

theorem create (balanced : Balanced memory external) : Balanced memory.create external :=
  ⟨balanced.counts, fun obj beyond => balanced.fresh obj (Nat.le_of_succ_le beyond), balanced.within⟩

theorem setUri (balanced : Balanced memory external) (stands : memory.addresses header = some address)
    (uri : Option Nat) (live : ∀ id, uri = some id → id < memory.created ∧ memory.refs (.sip id) ≠ -1)
    (free : address.absoluteUri = none ∨ uri = none) :
    Checked.Returns (memory.setUri header uri) fun later => Balanced later external ∧
      later.addresses = Function.update memory.addresses header (some { address with uri }) ∧
        later.created = memory.created ∧ later.allocated = memory.allocated := by
  have alone : ¬(address.absoluteUri.isSome = true ∧ uri.isSome = true) := by
    rintro ⟨absolute, given⟩
    rcases free with none_ | none_
    · rw [none_] at absolute
      cases absolute
    · rw [none_] at given
      cases given
  have replaced := balanced.replace stands (address.uri.map .sip) (uri.map .sip) (some { address with uri }) ?_ ?_ ?_ ?_
  · rw [AddressMemory.setUri, stands, Checked.deref_some, Checked.ok_bind]
    simp only [alone, dite_false]
    exact replaced
  · intro obj same
    obtain ⟨id, given, rfl⟩ := Option.map_eq_some_iff.mp same
    exact live id given
  · intro obj same
    obtain ⟨id, shown, rfl⟩ := Option.map_eq_some_iff.mp same
    exact decide_eq_true shown
  · intro obj
    cases obj <;> simp [AddressHeader.refersTo]
  · intro obj same
    obtain ⟨id, given, rfl⟩ := Option.map_eq_some_iff.mp same
    intro refers
    rw [of_decide_eq_true refers]
    rfl

/-- A null pointer for a generic URI stops the program. -/
theorem not_returns_setAbsoluteUri (property : AddressMemory → Prop) :
    ¬Checked.Returns (memory.setAbsoluteUri header none) property := by
  rw [AddressMemory.setAbsoluteUri]
  cases memory.addresses header with
  | none =>
      rintro ⟨later, stopped, -⟩
      cases stopped
  | some address =>
      rintro ⟨later, stopped, -⟩
      cases stopped

/-- A SIP URI for an address with a generic one stops the program. -/
theorem not_returns_setUri (stands : memory.addresses header = some address) {uri : Option Nat}
    (absolute : address.absoluteUri.isSome = true) (given : uri.isSome = true) (property : AddressMemory → Prop) :
    ¬Checked.Returns (memory.setUri header uri) property := by
  rw [AddressMemory.setUri, stands, Checked.deref_some, Checked.ok_bind, Checked.returns_bind]
  rintro ⟨taken, -, returns⟩
  rw [Checked.returns_bind] at returns
  obtain ⟨dropped, -, returns⟩ := returns
  simp only [absolute, given, and_self, dite_true] at returns
  exact not_returns_setAbsoluteUri _ returns

theorem setAbsoluteUri (balanced : Balanced memory external) (stands : memory.addresses header = some address)
    (id : Nat) (live : id < memory.created ∧ memory.refs (.generic id) ≠ -1) :
    Checked.Returns (memory.setAbsoluteUri header (some id)) fun later => Balanced later external ∧
      later.addresses =
        Function.update memory.addresses header (some { address with uri := none, absoluteUri := some id }) ∧
        later.created = memory.created ∧ later.allocated = memory.allocated := by
  have replaced := balanced.replace stands (address.absoluteUri.map .generic) (some (.generic id))
    (some { address with absoluteUri := some id }) ?_ ?_ ?_ ?_
  · rw [AddressMemory.setAbsoluteUri, stands, Checked.deref_some, Checked.ok_bind]
    rw [Checked.returns_bind] at replaced ⊢
    refine replaced.mono fun taken dropped => ?_
    rw [Checked.returns_bind] at dropped ⊢
    refine dropped.mono fun last kept => ?_
    obtain ⟨kept, addresses, created, allocated⟩ := Checked.returns_pure.mp kept
    have own : (last.setAddress header (some { address with absoluteUri := some id })).addresses header =
        some { address with absoluteUri := some id } := Function.update_self _ _ _
    split
    · refine (kept.setUri own none (by simp) (.inr rfl)).mono ?_
      rintro later ⟨balanced, cleared, later', still⟩
      refine ⟨balanced, ?_, later'.trans created, still.trans allocated⟩
      rw [cleared, addresses, Function.update_idem]
    · next alone =>
        have none_ : address.uri = none := by
          cases shown : address.uri with
          | none => rfl
          | some id => exact absurd ⟨by rw [shown]; rfl, rfl⟩ alone
        rw [Checked.returns_pure, ← none_]
        exact ⟨kept, addresses, created, allocated⟩
  · rintro obj same
    rw [← Option.some.inj same]
    exact live
  · intro obj same
    obtain ⟨id, shown, rfl⟩ := Option.map_eq_some_iff.mp same
    exact decide_eq_true shown
  · intro obj
    cases obj <;> simp [AddressHeader.refersTo]
  · intro obj same refers
    rw [← Option.some.inj same] at refers ⊢
    rw [of_decide_eq_true refers]
    rfl

theorem destroy (balanced : Balanced memory external) (stands : memory.addresses header = some address)
    (free : address.absoluteUri = none) :
    Checked.Returns (memory.destroy header) fun later => Balanced later external ∧
      later.addresses = Function.update memory.addresses header none ∧
        later.created = memory.created ∧ later.allocated = memory.allocated := by
  have replaced := balanced.replace stands (address.uri.map .sip) none none (by simp)
    ?_ ?_ (by simp)
  · rw [AddressMemory.destroy, stands]
    exact replaced
  · intro obj same
    obtain ⟨id, shown, rfl⟩ := Option.map_eq_some_iff.mp same
    exact decide_eq_true shown
  · intro obj
    cases obj <;> simp [AddressHeader.refersTo, free]

/-- The reference to the generic URI of an address that is destroyed is not given back. -/
theorem not_destroy (balanced : Balanced memory external) (stands : memory.addresses header = some address) {id : Nat}
    (absolute : address.absoluteUri = some id) :
    ¬Checked.Returns (memory.destroy header) fun later => Balanced later external := by
  have held : ∀ obj, address.uri.map UriObject.sip = some obj → 1 ≤ memory.refs obj := by
    intro obj same
    obtain ⟨id, shown, rfl⟩ := Option.map_eq_some_iff.mp same
    exact balanced.referenced stands (decide_eq_true shown)
  have refers : address.refersTo (.generic id) = true := decide_eq_true absolute
  have counts := balanced.counts (.generic id)
  have positive := balanced.referenced stands refers
  have moved := AddressMemory.card_holders (.generic id) none (balanced.inside stands)
  rw [stands, Option.any_some, if_pos refers] at moved
  rw [AddressMemory.destroy, stands, Checked.deref_some, Checked.ok_bind, AddressMemory.unrefAny_eq held,
    Checked.ok_bind, Checked.returns_pure]
  intro after
  have later := after.counts (.generic id)
  have other : address.uri.map UriObject.sip ≠ some (.generic id) := by
    intro same
    obtain ⟨shown, -, different⟩ := Option.map_eq_some_iff.mp same
    cases different
  have kept : Fair (memory.refs (.generic id))
      (external (.generic id) + ((memory.setAddress header none).holders (.generic id)).card) := by
    have same := later
    simp only [AddressMemory.setAddress, if_neg other] at same
    exact same
  unfold Fair at counts kept
  simp only [Option.any_none, Bool.false_eq_true, if_false] at moved
  omega

/-- The copy of an address refers to an object of its own. -/
theorem clone (balanced : Balanced memory external) {orig : AddressHeader}
    (stands : memory.addresses header = some orig) (single : orig.uri = none ∨ orig.absoluteUri = none) :
    Checked.Returns (memory.clone header) fun later => Balanced later external ∧
      later.addresses = Function.update memory.addresses memory.allocated (some { orig with
        uri := orig.uri.map fun _ => memory.created
        absoluteUri := orig.absoluteUri.map fun _ => memory.created }) := by
  have copied := balanced.new orig.displayname
  have addresses : (memory.new.setAddress memory.allocated (some { displayname := orig.displayname })).addresses =
      Function.update memory.addresses memory.allocated (some { displayname := orig.displayname }) :=
    Function.update_idem _ _ _
  have own : (memory.new.setAddress memory.allocated
      (some { displayname := orig.displayname })).create.addresses memory.allocated =
        some { displayname := orig.displayname } := Function.update_self _ _ _
  rw [AddressMemory.clone, stands, Checked.deref_some, Checked.ok_bind]
  cases shown : orig.uri with
  | none =>
      simp only [Option.isSome_none, Bool.false_eq_true, if_false, pure_bind]
      cases absolute : orig.absoluteUri with
      | none =>
          simp only [Option.isSome_none, Bool.false_eq_true, if_false, Checked.returns_pure]
          exact ⟨copied, addresses⟩
      | some id =>
          simp only [Option.isSome_some, if_true]
          have live := copied.fresh (.generic memory.created) (Nat.le_refl _)
          refine (copied.create.setAbsoluteUri own memory.created ⟨Nat.lt_succ_self _, ?_⟩).mono ?_
          · intro deleted
            have same : (0 : Int) = -1 := live.symm.trans deleted
            omega
          · rintro later ⟨kept, changed, -⟩
            exact ⟨kept, changed.trans (by rw [AddressMemory.create, addresses, Function.update_idem]; rfl)⟩
  | some id =>
      have absolute : orig.absoluteUri = none := single.resolve_left (by rw [shown]; simp)
      simp only [Option.isSome_some, if_true, Checked.returns_bind]
      have live := copied.fresh (.sip memory.created) (Nat.le_refl _)
      refine (copied.create.setUri own (some memory.created) ?_ (.inl rfl)).mono ?_
      · intro id same
        rw [← Option.some.inj same]
        refine ⟨Nat.lt_succ_self _, fun deleted => ?_⟩
        have same : (0 : Int) = -1 := live.symm.trans deleted
        omega
      · rintro later ⟨kept, changed, -⟩
        simp only [absolute, Option.isSome_none, Bool.false_eq_true, if_false, Checked.returns_pure]
        exact ⟨kept, changed.trans (by rw [AddressMemory.create, addresses, Function.update_idem]; rfl)⟩

/-- The count of an object and what the application holds of it change together. -/
theorem setRefs (balanced : Balanced memory external) (created : obj.id < memory.created) {count : Int} {held : Nat}
    (fair : Fair count (held + (memory.holders obj).card)) :
    Balanced (memory.setRefs obj count) (Function.update external obj held) := by
  refine ⟨fun other => ?_, fun other beyond => ?_, balanced.within⟩
  · by_cases same : other = obj
    · have written : (memory.setRefs obj count).refs obj = count := Function.update_self _ _ _
      rw [same, Function.update_self, written]
      exact fair
    · have kept : (memory.setRefs obj count).refs other = memory.refs other := Function.update_of_ne same _ _
      rw [Function.update_of_ne same, kept]
      exact balanced.counts other
  · have differs : other ≠ obj := by
      rintro rfl
      exact Nat.not_lt.mpr beyond created
    exact (Function.update_of_ne differs _ _).trans (balanced.fresh other beyond)

theorem ref (balanced : Balanced memory external) (created : obj.id < memory.created) (live : memory.refs obj ≠ -1) :
    Checked.Returns (memory.ref (some obj)) fun later =>
      Balanced later (Function.update external obj (external obj + 1)) ∧ later.addresses = memory.addresses := by
  rw [AddressMemory.ref, Checked.deref_some, Checked.ok_bind, if_neg live, Checked.returns_pure]
  refine ⟨balanced.setRefs created ?_, rfl⟩
  have counts := balanced.counts obj
  unfold Fair at counts ⊢
  omega

theorem release (balanced : Balanced memory external) (held : 0 < external obj) :
    Checked.Returns (memory.unref (some obj)) fun later =>
      Balanced later (Function.update external obj (external obj - 1)) ∧ later.addresses = memory.addresses := by
  have counts := balanced.counts obj
  have created : obj.id < memory.created := by
    by_contra beyond
    have unreferenced := balanced.fresh obj (Nat.le_of_not_lt beyond)
    unfold Fair at counts
    omega
  unfold Fair at counts
  rw [AddressMemory.unref, Checked.deref_some, Checked.ok_bind, if_neg (by omega)]
  split
  · rw [Checked.returns_pure]
    refine ⟨balanced.setRefs created ?_, rfl⟩
    unfold Fair
    omega
  · rw [Checked.returns_pure]
    refine ⟨balanced.setRefs created ?_, rfl⟩
    unfold Fair
    omega

/-- A pool deletes an object that nobody has referenced. -/
theorem drop (balanced : Balanced memory external) (created : obj.id < memory.created) (unused : memory.refs obj = 0) :
    Checked.Returns (memory.unref (some obj)) fun later =>
      Balanced later external ∧ later.addresses = memory.addresses := by
  have counts := balanced.counts obj
  unfold Fair at counts
  rw [AddressMemory.unref, Checked.deref_some, Checked.ok_bind, if_neg (by omega), if_pos (.inl unused),
    Checked.returns_pure]
  have fair : Fair (-1) (external obj + (memory.holders obj).card) := .inr ⟨rfl, by omega⟩
  have kept := balanced.setRefs created fair
  rw [Function.update_eq_self] at kept
  exact ⟨kept, rfl⟩

end Balanced

end

end BelleSip
