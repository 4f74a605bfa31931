import BelleSip.Sip.HeaderAddress

/-
This file proves in which runs every header address has the URI that was chosen for it and every reference is accounted
for.
-/

namespace BelleSip

open Foundation

/-- A program with the references that the application has taken and the URI that each address has to have. -/
structure AddressUse where
  memory : AddressMemory := {}
  external : UriObject → Nat := fun _ => 0
  chosen : Nat → Option UriObject := fun _ => none

namespace AddressUse

open AddressMemory

/-- A URI that is given takes the place of any other. A null pointer clears the URI of its own kind. -/
def choose (chosen : Option UriObject) (given : Option UriObject) (generic : Bool) : Option UriObject :=
  match given with
  | some obj => some obj
  | none => chosen.filter fun obj => obj.isGeneric != generic

/-- The object that is created for a copy of another. -/
def copied (created : Nat) : UriObject → UriObject
  | .sip _ => .sip created
  | .generic _ => .generic created

def account (use : AddressUse) : Call → UriObject → Nat
  | .hold obj => Function.update use.external obj (use.external obj + 1)
  | .release obj => Function.update use.external obj (use.external obj - 1)
  | _ => use.external

def choices (use : AddressUse) : Call → Nat → Option UriObject
  | .new => Function.update use.chosen use.memory.allocated none
  | .setUri header uri => Function.update use.chosen header (choose (use.chosen header) (uri.map .sip) false)
  | .setAbsoluteUri header absoluteUri =>
      Function.update use.chosen header (choose (use.chosen header) (absoluteUri.map .generic) true)
  | .clone header =>
      Function.update use.chosen use.memory.allocated ((use.chosen header).map (copied use.memory.created))
  | _ => use.chosen

def step (use : AddressUse) (event : Call) : Checked AddressUse := do
  let memory ← use.memory.handle event
  return { memory, external := use.account event, chosen := use.choices event }

/-- The object has been created and not been deleted. -/
def isLive (use : AddressUse) (obj : UriObject) : Bool := obj.id < use.memory.created && use.memory.refs obj != -1

/-- The application passes live objects and gives back what it has taken; a pool drops what nobody has referenced. -/
def isValid (use : AddressUse) : Call → Bool
  | .create => true
  | .new => true
  | .hold obj => use.isLive obj
  | .release obj => 0 < use.external obj
  | .drop obj => obj.id < use.memory.created && use.memory.refs obj == 0
  | .setUri header uri => (use.memory.addresses header).isSome && uri.all fun id => use.isLive (.sip id)
  | .setAbsoluteUri header absoluteUri =>
      (use.memory.addresses header).isSome && absoluteUri.all fun id => use.isLive (.generic id)
  | .clone header => (use.memory.addresses header).isSome
  | .destroy header => (use.memory.addresses header).isSome

def hasGeneric (use : AddressUse) (header : Nat) : Bool := (use.chosen header).any UriObject.isGeneric

/-- No null pointer is given for a generic URI, and an address that has one gets no SIP URI and is not destroyed. -/
def isSound (use : AddressUse) : Call → Bool
  | .setUri header (some _) => !use.hasGeneric header
  | .setAbsoluteUri _ none => false
  | .destroy header => !use.hasGeneric header
  | _ => true

/-- The references are balanced, and each address has the URI that has been chosen for it and no other. -/
structure Correct (use : AddressUse) : Prop where
  balanced : Balanced use.memory use.external
  shown : ∀ header address, use.memory.addresses header = some address →
    ∀ obj, address.refersTo obj = true ↔ use.chosen header = some obj
  single : ∀ header address, use.memory.addresses header = some address →
    address.uri = none ∨ address.absoluteUri = none

/-- The guard holds at each step of a run, until one stops the program. -/
def Along (guard : AddressUse → Call → Bool) : AddressUse → List Call → Prop
  | _, [] => True
  | use, event :: rest => guard use event ∧ Checked.OnReturn (use.step event) fun after => Along guard after rest

variable {use : AddressUse}

/-- One address changes with what has been chosen for it. -/
theorem Correct.updated (correct : use.Correct) {memory : AddressMemory} {external : UriObject → Nat} {header : Nat}
    {changed : Option AddressHeader} (choice : Option UriObject) (balanced : Balanced memory external)
    (addresses : memory.addresses = Function.update use.memory.addresses header changed)
    (shown : ∀ address, changed = some address → ∀ obj, address.refersTo obj = true ↔ choice = some obj)
    (single : ∀ address, changed = some address → address.uri = none ∨ address.absoluteUri = none) :
    Correct { memory, external, chosen := Function.update use.chosen header choice } := by
  constructor
  · exact balanced
  · intro other address stands
    dsimp only at stands ⊢
    rw [addresses] at stands
    by_cases same : other = header
    · rw [same, Function.update_self] at stands ⊢
      exact shown address stands
    · rw [Function.update_of_ne same] at stands ⊢
      exact correct.shown other address stands
  · intro other address stands
    dsimp only at stands
    rw [addresses] at stands
    by_cases same : other = header
    · rw [same, Function.update_self] at stands
      exact single address stands
    · rw [Function.update_of_ne same] at stands
      exact correct.single other address stands

/-- Where the addresses stay as they are, so does what has been chosen. -/
theorem Correct.kept (correct : use.Correct) {memory : AddressMemory} {external : UriObject → Nat}
    (balanced : Balanced memory external) (addresses : memory.addresses = use.memory.addresses) :
    Correct { memory, external, chosen := use.chosen } := by
  refine ⟨balanced, ?_, ?_⟩
  · intro header address stands
    exact correct.shown header address (by rw [← addresses]; exact stands)
  · intro header address stands
    exact correct.single header address (by rw [← addresses]; exact stands)

/-- An address has a generic URI if and only if one has been chosen. -/
theorem Correct.hasGeneric (correct : use.Correct) {header : Nat} {address : AddressHeader}
    (stands : use.memory.addresses header = some address) :
    use.hasGeneric header = address.absoluteUri.isSome := by
  have shown := correct.shown header address stands
  cases absolute : address.absoluteUri with
  | some id =>
      rw [AddressUse.hasGeneric, (shown (.generic id)).mp (decide_eq_true absolute)]
      rfl
  | none =>
      rw [AddressUse.hasGeneric]
      cases choice : use.chosen header with
      | none => rfl
      | some obj =>
          cases obj with
          | sip id => rfl
          | generic id =>
              have refers := of_decide_eq_true ((shown (.generic id)).mpr choice)
              rw [absolute] at refers
              cases refers

theorem isLive_iff {obj : UriObject} :
    use.isLive obj = true ↔ obj.id < use.memory.created ∧ use.memory.refs obj ≠ -1 := by
  rw [isLive, Bool.and_eq_true, decide_eq_true_iff, bne_iff_ne]

theorem step_iff {event : AddressMemory.Call} {property : AddressUse → Prop} :
    Checked.Returns (use.step event) property ↔ Checked.Returns (use.memory.handle event) fun memory =>
      property { memory, external := use.account event, chosen := use.choices event } := by
  rw [step, Checked.returns_bind]
  simp only [Checked.returns_pure]

/-- An address without SIP URI shows the generic one that has been chosen. -/
theorem shown_cleared {address : AddressHeader} {choice : Option UriObject}
    (shown : ∀ obj, address.refersTo obj = true ↔ choice = some obj) (obj : UriObject) :
    AddressHeader.refersTo { address with uri := none } obj = true ↔ choose choice none false = some obj := by
  have filtered : choose choice none false = some obj ↔ choice = some obj ∧ obj.isGeneric = true := by
    rw [choose, Option.filter_eq_some_iff, Bool.bne_false]
  rw [filtered]
  cases obj with
  | sip id => simp [AddressHeader.refersTo, UriObject.isGeneric]
  | generic id =>
      rw [← shown]
      exact (and_iff_left rfl).symm

/-- The copy of an address shows the copy of what has been chosen. -/
theorem shown_copied {address : AddressHeader} {choice : Option UriObject} {created : Nat}
    (shown : ∀ obj, address.refersTo obj = true ↔ choice = some obj)
    (single : address.uri = none ∨ address.absoluteUri = none) (obj : UriObject) :
    AddressHeader.refersTo { address with
      uri := address.uri.map fun _ => created
      absoluteUri := address.absoluteUri.map fun _ => created } obj = true ↔
        choice.map (copied created) = some obj := by
  cases choice with
  | none =>
      have noUri : address.uri = none := by
        refine Option.eq_none_iff_forall_ne_some.mpr fun id same => ?_
        cases (shown (.sip id)).mp (decide_eq_true same)
      have noGeneric : address.absoluteUri = none := by
        refine Option.eq_none_iff_forall_ne_some.mpr fun id same => ?_
        cases (shown (.generic id)).mp (decide_eq_true same)
      rw [noUri, noGeneric]
      cases obj <;> simp [AddressHeader.refersTo]
  | some chosen =>
      cases chosen with
      | sip id =>
          have uri : address.uri = some id := of_decide_eq_true ((shown (.sip id)).mpr rfl)
          have noGeneric : address.absoluteUri = none := single.resolve_left (by rw [uri]; simp)
          rw [uri, noGeneric]
          cases obj <;> simp [AddressHeader.refersTo, copied]
      | generic id =>
          have generic : address.absoluteUri = some id := of_decide_eq_true ((shown (.generic id)).mpr rfl)
          have noUri : address.uri = none := single.resolve_right (by rw [generic]; simp)
          rw [generic, noUri]
          cases obj <;> simp [AddressHeader.refersTo, copied]

/-- A SIP URI is set where there is no generic one, and a null pointer anywhere. -/
theorem Correct.setUri (correct : use.Correct) {header : Nat} {uri : Option Nat}
    (valid : use.isValid (.setUri header uri) = true) :
    Checked.Returns (use.step (.setUri header uri)) Correct ↔ use.isSound (.setUri header uri) = true := by
  rw [isValid, Bool.and_eq_true] at valid
  obtain ⟨address, stands⟩ := Option.isSome_iff_exists.mp valid.1
  have generic := correct.hasGeneric stands
  have live : ∀ id, uri = some id → id < use.memory.created ∧ use.memory.refs (.sip id) ≠ -1 := by
    rintro id rfl
    exact isLive_iff.mp valid.2
  rw [step_iff]
  cases given : uri with
  | none =>
      refine iff_of_true ((correct.balanced.setUri stands none (by simp) (.inr rfl)).mono ?_) rfl
      rintro memory ⟨balanced, addresses, -⟩
      refine correct.updated _ balanced addresses ?_ ?_
      · rintro changed same obj
        rw [← Option.some.inj same]
        exact shown_cleared (correct.shown header address stands) obj
      · rintro changed same
        exact .inl (by rw [← Option.some.inj same])
  | some id =>
      rw [isSound, generic]
      cases absolute : address.absoluteUri with
      | none =>
          refine iff_of_true ((correct.balanced.setUri stands (some id) (given ▸ live) (.inl absolute)).mono ?_) rfl
          rintro memory ⟨balanced, addresses, -⟩
          refine correct.updated _ balanced addresses ?_ ?_
          · rintro changed same obj
            rw [← Option.some.inj same]
            cases obj <;> simp [AddressHeader.refersTo, choose, absolute]
          · rintro changed same
            exact .inr (by rw [← Option.some.inj same, absolute])
      | some other =>
          refine iff_of_false ?_ (by simp)
          exact Balanced.not_returns_setUri stands (by rw [absolute]; rfl) rfl _

/-- A generic URI can always be set, and a null pointer never. -/
theorem Correct.setAbsoluteUri (correct : use.Correct) {header : Nat} {absoluteUri : Option Nat}
    (valid : use.isValid (.setAbsoluteUri header absoluteUri) = true) :
    Checked.Returns (use.step (.setAbsoluteUri header absoluteUri)) Correct ↔
      use.isSound (.setAbsoluteUri header absoluteUri) = true := by
  rw [isValid, Bool.and_eq_true] at valid
  obtain ⟨address, stands⟩ := Option.isSome_iff_exists.mp valid.1
  rw [step_iff]
  cases given : absoluteUri with
  | none => exact iff_of_false (Balanced.not_returns_setAbsoluteUri _) (by simp [isSound])
  | some id =>
      rw [given] at valid
      refine iff_of_true ((correct.balanced.setAbsoluteUri stands id (isLive_iff.mp valid.2)).mono ?_) rfl
      rintro memory ⟨balanced, addresses, -⟩
      refine correct.updated _ balanced addresses ?_ ?_
      · rintro changed same obj
        rw [← Option.some.inj same]
        cases obj <;> simp [AddressHeader.refersTo, choose]
      · rintro changed same
        exact .inl (by rw [← Option.some.inj same])

theorem Correct.destroy (correct : use.Correct) {header : Nat} (valid : use.isValid (.destroy header) = true) :
    Checked.Returns (use.step (.destroy header)) Correct ↔ use.isSound (.destroy header) = true := by
  obtain ⟨address, stands⟩ := Option.isSome_iff_exists.mp valid
  rw [step_iff, isSound, correct.hasGeneric stands]
  cases absolute : address.absoluteUri with
  | none =>
      refine iff_of_true ((correct.balanced.destroy stands absolute).mono ?_) rfl
      rintro memory ⟨balanced, addresses, -⟩
      have updated := correct.updated (use.chosen header) balanced addresses (by simp) (by simp)
      rwa [Function.update_eq_self] at updated
  | some id =>
      refine iff_of_false (fun returns => ?_) (by simp)
      exact correct.balanced.not_destroy stands absolute (returns.mono fun memory after => after.balanced)

theorem Correct.clone (correct : use.Correct) {header : Nat} (valid : use.isValid (.clone header) = true) :
    Checked.Returns (use.step (.clone header)) Correct := by
  obtain ⟨address, stands⟩ := Option.isSome_iff_exists.mp valid
  have shown := correct.shown header address stands
  rw [step_iff]
  refine (correct.balanced.clone stands (correct.single header address stands)).mono ?_
  rintro memory ⟨balanced, addresses⟩
  refine correct.updated _ balanced addresses ?_ ?_
  · rintro changed same obj
    rw [← Option.some.inj same]
    exact shown_copied shown (correct.single header address stands) obj
  · rintro changed same
    rw [← Option.some.inj same]
    rcases correct.single header address stands with none_ | none_
    · exact .inl (by rw [none_]; rfl)
    · exact .inr (by rw [none_]; rfl)

/-- A valid call keeps every address and every count right if and only if it is sound. -/
theorem step_correct_iff (correct : use.Correct) {event : AddressMemory.Call} (valid : use.isValid event = true) :
    Checked.Returns (use.step event) Correct ↔ use.isSound event = true := by
  cases event with
  | create =>
      rw [step_iff]
      exact iff_of_true (Checked.returns_ok.mpr (correct.kept correct.balanced.create rfl)) rfl
  | new =>
      rw [step_iff]
      refine iff_of_true (Checked.returns_ok.mpr (correct.updated none ?_ rfl ?_ ?_)) rfl
      · have created := correct.balanced.new none
        rwa [AddressMemory.setAddress, AddressMemory.new, AddressMemory.setAddress, Function.update_idem] at created
      · rintro changed same obj
        rw [← Option.some.inj same]
        cases obj <;> simp [AddressHeader.refersTo]
      · rintro changed same
        exact .inl (by rw [← Option.some.inj same])
  | hold obj =>
      obtain ⟨created, live⟩ := isLive_iff.mp valid
      rw [step_iff]
      refine iff_of_true ((correct.balanced.ref created live).mono ?_) rfl
      rintro memory ⟨balanced, addresses⟩
      exact correct.kept balanced addresses
  | release obj =>
      rw [step_iff]
      refine iff_of_true ((correct.balanced.release (of_decide_eq_true valid)).mono ?_) rfl
      rintro memory ⟨balanced, addresses⟩
      exact correct.kept balanced addresses
  | drop obj =>
      rw [isValid, Bool.and_eq_true, decide_eq_true_iff, beq_iff_eq] at valid
      rw [step_iff]
      refine iff_of_true ((correct.balanced.drop valid.1 valid.2).mono ?_) rfl
      rintro memory ⟨balanced, addresses⟩
      exact correct.kept balanced addresses
  | setUri header uri => exact correct.setUri valid
  | setAbsoluteUri header absoluteUri => exact correct.setAbsoluteUri valid
  | clone header => exact iff_of_true (correct.clone valid) rfl
  | destroy header => exact correct.destroy valid

theorem correct_empty : Correct {} := by
  refine ⟨⟨fun obj => ?_, fun obj _ => rfl, fun header _ => rfl⟩, ?_, ?_⟩
  · exact .inl rfl
  · rintro header address ⟨⟩
  · rintro header address ⟨⟩

/-- In a run of valid calls every state is right if and only if all calls are sound. -/
theorem run_correct_iff {events : List AddressMemory.Call} (valid : Along isValid {} events) :
    (∀ before, before <+: events → Checked.Returns (before.foldlM step {}) Correct) ↔ Along isSound {} events := by
  have general : ∀ (events : List AddressMemory.Call) (use : AddressUse), use.Correct → Along isValid use events →
      ((∀ before, before <+: events → Checked.Returns (before.foldlM step use) Correct) ↔
        Along isSound use events) := by
    intro events
    induction events with
    | nil =>
        intro use correct _
        refine iff_of_true (fun before starts => ?_) trivial
        rw [List.prefix_nil.mp starts]
        exact Checked.returns_ok.mpr correct
    | cons event rest ih =>
        intro use correct valid
        constructor
        · intro always
          have first := always [event] ⟨rest, rfl⟩
          rw [List.foldlM_cons, Checked.returns_bind] at first
          obtain ⟨after, ended, kept⟩ := first
          have kept : after.Correct := Checked.returns_ok.mp kept
          refine ⟨(step_correct_iff correct valid.1).mp ⟨after, ended, kept⟩, ?_⟩
          have later := valid.2
          rw [ended] at later ⊢
          refine (ih after kept later).mp fun before starts => ?_
          have whole := always (event :: before) (List.cons_prefix_cons.mpr ⟨rfl, starts⟩)
          rwa [List.foldlM_cons, ended] at whole
        · rintro ⟨sound, rest_⟩ before starts
          cases before with
          | nil => exact Checked.returns_ok.mpr correct
          | cons first before =>
              obtain ⟨rfl, begins⟩ := List.cons_prefix_cons.mp starts
              obtain ⟨after, ended, kept⟩ := (step_correct_iff correct valid.1).mpr sound
              have later := valid.2
              rw [ended] at later rest_
              rw [List.foldlM_cons, ended]
              exact (ih after kept later).mpr rest_ before begins
  exact general events {} correct_empty valid

section
attribute [local simp] Along isValid isLive isSound hasGeneric step account choices choose AddressMemory.handle
  AddressMemory.create AddressMemory.new AddressMemory.setUri AddressMemory.setAbsoluteUri AddressMemory.destroy
  setAddress refAny ref unrefAny unref setRefs Checked.deref Checked.OnReturn Function.update_apply UriObject.id
  UriObject.isGeneric pure Except.pure bind Except.bind

theorem run_correct_sip : Checked.Returns
    ([.create, .new, .setUri 0 (some 0), .setUri 0 none, .destroy 0].foldlM step ({} : AddressUse)) Correct := by
  refine (run_correct_iff ?_).mpr ?_ _ (List.prefix_refl _)
  · simp [-Checked.onReturn_bind, -Checked.onReturn_pure]
  · simp [-Checked.onReturn_bind, -Checked.onReturn_pure]

/-- A SIP URI for an address with a generic one, and a null pointer for a generic URI, stop the program. An address that
is destroyed with a generic URI leaves a reference to it. -/
theorem not_run_correct :
    (Along isValid {} [.create, .create, .new, .setAbsoluteUri 0 (some 0), .setUri 0 (some 1)] ∧
      [.create, .create, .new, .setAbsoluteUri 0 (some 0), .setUri 0 (some 1)].foldlM step ({} : AddressUse) =
        .error .nullPointer) ∧
    (Along isValid {} [.new, .setAbsoluteUri 0 none] ∧
      [.new, .setAbsoluteUri 0 none].foldlM step ({} : AddressUse) = .error .nullPointer) ∧
    Along isValid {} [.create, .new, .setAbsoluteUri 0 (some 0), .destroy 0] ∧
      ¬Checked.Returns ([.create, .new, .setAbsoluteUri 0 (some 0), .destroy 0].foldlM step ({} : AddressUse))
        Correct := by
  refine ⟨⟨?_, ?_⟩, ⟨?_, ?_⟩, ?_, ?_⟩
  · simp [-Checked.onReturn_bind, -Checked.onReturn_pure]
  · simp [-Checked.onReturn_bind, -Checked.onReturn_pure]
  · simp [-Checked.onReturn_bind, -Checked.onReturn_pure]
  · simp [-Checked.onReturn_bind, -Checked.onReturn_pure]
  · simp [-Checked.onReturn_bind, -Checked.onReturn_pure]
  · rintro ⟨use, ended, correct⟩
    have counts := correct.balanced.counts (.generic 0)
    simp at ended
    simp [← ended, Fair, AddressMemory.holders] at counts

end

end AddressUse

end BelleSip
