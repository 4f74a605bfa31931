import BelleSip.Foundation.Machine
import BelleSip.Sip.Message

/-
This file defines how a message files its headers under their names, and proves when it finds them all again.
-/

namespace BelleSip

open Foundation

/-- The part of `belle_sip_header_t` that the containers copy and compare. -/
structure Header where
  name : String
  value : String
deriving DecidableEq, Repr

/-- This is `headers_container_t`. -/
structure HeadersContainer where
  name : String
  headerList : List Header := []
deriving DecidableEq, Repr

/-- The compact names that `expand_name` knows. -/
def expandedNames : List (String × String) :=
  [("a", "Accept-Contact"), ("u", "Allow-Events"), ("e", "Content-Encoding"), ("o", "Event"), ("y", "Identity"),
    ("n", "Identity-Info"), ("r", "Refer-To"), ("b", "Referred-By"), ("j", "Reject-Contact"),
    ("d", "Request-Disposition"), ("x", "Session-Expires"), ("s", "Subject"), ("k", "Supported")]

/-- This is `expand_name`. -/
def expandName (name : String) : String := ((expandedNames.find? (·.1 = name)).map (·.2)).getD name

/-- This is `belle_sip_headers_container_comp_func`. -/
def HeadersContainer.isNamed (name : String) (container : HeadersContainer) : Bool :=
  strcasecmp container.name name

/-- The list `header_list` of a message. -/
abbrev HeaderLists := List HeadersContainer

namespace HeaderLists

/-- The container from `get_or_create_container` gets a new list of headers. -/
def updateOrCreate (message : HeaderLists) (name : String) (change : List Header → List Header) : HeaderLists :=
  match message.findIdx? (HeadersContainer.isNamed name) with
  | some position => message.modify position fun container =>
      { container with headerList := change container.headerList }
  | none => message ++ [{ name := expandName name, headerList := change [] }]

/-- This is `belle_sip_message_add_first`. -/
def addFirst (message : HeaderLists) (header : Header) : HeaderLists :=
  message.updateOrCreate header.name fun headerList => header :: headerList

/-- This is `belle_sip_message_add_header`. -/
def addHeader (message : HeaderLists) (header : Header) : HeaderLists :=
  message.updateOrCreate header.name fun headerList => headerList ++ [header]

/-- This is `belle_sip_message_add_headers`. -/
def addHeaders (message : HeaderLists) (headers : List Header) : Checked HeaderLists :=
  match headers with
  | [] => return message
  | first :: _ =>
      if headers.all (·.name = first.name) then
        return message.updateOrCreate first.name fun headerList => headerList ++ headers
      else .error .fatal

/-- This is `belle_sip_message_set_header`. -/
def setHeader (message : HeaderLists) (header : Header) : HeaderLists :=
  message.updateOrCreate header.name fun _ => [header]

/-- This is `belle_sip_message_get_headers`. -/
def getHeaders (message : HeaderLists) (name : String) : List Header :=
  ((message.find? (HeadersContainer.isNamed name)).map (·.headerList)).getD []

/-- The container that is found gets a new list of headers. -/
def updateFound (message : HeaderLists) (name : String) (change : List Header → List Header) : HeaderLists :=
  match message.findIdx? (HeadersContainer.isNamed name) with
  | some position => message.modify position fun container =>
      { container with headerList := change container.headerList }
  | none => message

/-- This is `belle_sip_message_remove_first`. -/
def removeFirst (message : HeaderLists) (name : String) : HeaderLists := message.updateFound name List.tail

/-- This is `belle_sip_message_remove_last`. -/
def removeLast (message : HeaderLists) (name : String) : HeaderLists := message.updateFound name List.dropLast

/-- This is `belle_sip_message_clone`; the copy of a header has its name. -/
def clone (message : HeaderLists) : Checked HeaderLists :=
  message.foldlM (fun copy container => copy.addHeaders container.headerList) []

inductive Event where
  | addFirst (header : Header)
  | addHeader (header : Header)
  | addHeaders (headers : List Header)
  | setHeader (header : Header)
  | removeFirst (name : String)
  | removeLast (name : String)
deriving DecidableEq, Repr

def handle (message : HeaderLists) : Event → Checked HeaderLists
  | .addFirst header => return message.addFirst header
  | .addHeader header => return message.addHeader header
  | .addHeaders headers => message.addHeaders headers
  | .setHeader header => return message.setHeader header
  | .removeFirst name => return message.removeFirst name
  | .removeLast name => return message.removeLast name

end HeaderLists

/-- The compact forms of SIP; the grammar expands the last seven of a message that it parses. -/
def compactForms : List (String × String) :=
  expandedNames ++ [("v", "Via"), ("f", "From"), ("t", "To"), ("i", "Call-ID"), ("m", "Contact"),
    ("l", "Content-Length"), ("c", "Content-Type")]

def isCompact (name : String) : Bool := compactForms.any fun form => strcasecmp name form.1

/-- The name without compact form and letter case. -/
def canonical (name : String) : List Char :=
  (((compactForms.find? fun form => strcasecmp name form.1).map (·.2)).getD name).toList.map Char.toLower

/-- All the headers of a message. -/
def HeaderLists.headers (message : HeaderLists) : List Header := message.flatMap (·.headerList)

/-- The headers that have been added and not removed under each name. -/
abbrev Held := List Char → List Header

namespace Held

/-- The headers under a name change. -/
def change (held : Held) (name : String) (change : List Header → List Header) : Held :=
  fun key => if key = canonical name then change (held key) else held key

def handle (held : Held) : HeaderLists.Event → Held
  | .addFirst header => held.change header.name fun headers => header :: headers
  | .addHeader header => held.change header.name fun headers => headers ++ [header]
  | .addHeaders headers => headers.foldl (fun held header => held.change header.name (· ++ [header])) held
  | .setHeader header => held.change header.name fun _ => [header]
  | .removeFirst name => held.change name List.tail
  | .removeLast name => held.change name List.dropLast

/-- The header has a full name, spelled like that of the headers that are held under it. -/
def mayJoin (held : Held) (header : Header) : Bool :=
  !isCompact header.name && (held (canonical header.name)).all (·.name = header.name)

/-- The condition on an event. -/
def permits (held : Held) : HeaderLists.Event → Bool
  | .addFirst header => held.mayJoin header
  | .addHeader header => held.mayJoin header
  | .addHeaders headers => headers.all held.mayJoin
  | .setHeader header => !isCompact header.name
  | .removeFirst name => !isCompact name || (held (canonical name)).isEmpty
  | .removeLast name => !isCompact name || (held (canonical name)).isEmpty

end Held

/-- A message with the headers that it has to hold. -/
structure HeaderRegister where
  message : Checked HeaderLists := .ok []
  held : Held := fun _ => []

def HeaderRegister.step (register : HeaderRegister) (event : HeaderLists.Event) : HeaderRegister where
  message := register.message >>= fun message => message.handle event
  held := register.held.handle event

/-- One container for each name, and all the headers in it. -/
structure Filed (message : HeaderLists) (held : Held) : Prop where
  unique : message.Pairwise fun one other => canonical one.name ≠ canonical other.name
  found : ∀ name, isCompact name = false ∨ held (canonical name) = [] →
    message.getHeaders name = held (canonical name)
  cloned : message.clone ≠ .error .fatal

/-- The invariant of the containers. -/
structure Stored (message : HeaderLists) (held : Held) : Prop where
  full : ∀ container ∈ message, isCompact container.name = false
  unique : message.Pairwise fun one other => canonical one.name ≠ canonical other.name
  lists : ∀ container ∈ message, container.headerList = held (canonical container.name)
  complete : ∀ key, held key ≠ [] → ∃ container ∈ message, canonical container.name = key
  uniform : ∀ key, ∀ one ∈ held key, ∀ other ∈ held key, one.name = other.name

theorem strcasecmp_iff {one other : String} :
    strcasecmp one other = true ↔ one.toList.map Char.toLower = other.toList.map Char.toLower := by
  simp [strcasecmp]

/-- Letter case makes no difference. -/
theorem canonical_congr {one other : String} (same : strcasecmp one other = true) :
    canonical one = canonical other := by
  have folded := strcasecmp_iff.mp same
  have alike : (fun form : String × String => strcasecmp one form.1) = fun form => strcasecmp other form.1 := by
    funext form
    unfold strcasecmp
    rw [folded]
  unfold canonical
  rw [alike]
  cases compactForms.find? fun form => strcasecmp other form.1 with
  | none => exact folded
  | some form => rfl

/-- A name is expanded to one that means the same. -/
theorem canonical_expandName (name : String) : canonical (expandName name) = canonical name := by
  unfold expandName
  cases found : expandedNames.find? (·.1 = name) with
  | none => rfl
  | some form =>
      have same : form.1 = name := by simpa using List.find?_some found
      have known : ∀ form ∈ expandedNames, canonical form.2 = canonical form.1 := by decide
      rw [← same]
      exact known form (List.mem_of_find?_eq_some found)

theorem canonical_full {name : String} (full : isCompact name = false) :
    canonical name = name.toList.map Char.toLower := by
  have none_ : (compactForms.find? fun form => strcasecmp name form.1) = none := by
    apply List.find?_eq_none.mpr
    exact List.any_eq_false.mp full
  unfold canonical
  rw [none_]
  rfl

theorem expandName_full {name : String} (full : isCompact name = false) : expandName name = name := by
  have none_ : expandedNames.find? (·.1 = name) = none := by
    apply List.find?_eq_none.mpr
    intro entry among equal
    have differs := List.any_eq_false.mp full entry (List.mem_append_left _ among)
    apply differs
    rw [← of_decide_eq_true equal]
    exact strcasecmp_iff.mpr rfl
  unfold expandName
  rw [none_]
  rfl

/-- Names that differ in letter case are both compact or both full. -/
theorem isCompact_congr {one other : String} (same : strcasecmp one other = true) :
    isCompact one = isCompact other := by
  have folded := strcasecmp_iff.mp same
  unfold isCompact strcasecmp
  rw [folded]

/-- A container with a full name is found by a full name that is the same up to letter case. -/
theorem isNamed_iff {container : HeadersContainer} (own : isCompact container.name = false) {name : String}
    (full : isCompact name = false) :
    container.isNamed name = true ↔ canonical container.name = canonical name := by
  unfold HeadersContainer.isNamed
  rw [canonical_full own, canonical_full full]
  exact strcasecmp_iff

namespace Stored

variable {message : HeaderLists} {held : Held}

variable {change : List Header → List Header} {name : String}

/-- The container of a full name is the only one. -/
theorem container (stored : Stored message held) (full : isCompact name = false) {position : Nat}
    {container : HeadersContainer} (present : message[position]? = some container)
    (named : container.isNamed name = true) {other : Nat} {another : HeadersContainer}
    (alsoPresent : message[other]? = some another) (same : canonical another.name = canonical name) :
    other = position := by
  have own := (isNamed_iff (stored.full container (List.mem_of_getElem? present)) full).mp named
  by_contra different
  obtain ⟨inside, isContainer⟩ := List.getElem?_eq_some_iff.mp present
  obtain ⟨otherInside, isAnother⟩ := List.getElem?_eq_some_iff.mp alsoPresent
  have unique := List.pairwise_iff_getElem.mp stored.unique
  rcases Nat.lt_or_gt_of_ne different with before | after
  · apply unique other position otherInside inside before
    rw [isContainer, isAnother, own, same]
  · apply unique position other inside otherInside after
    rw [isContainer, isAnother, own, same]

/-- The found container and the list held under its name change together. -/
theorem modify (stored : Stored message held) (full : isCompact name = false) {position : Nat}
    {container : HeadersContainer} (present : message[position]? = some container)
    (named : container.isNamed name = true)
    (uniform : ∀ one ∈ change (held (canonical name)), ∀ other ∈ change (held (canonical name)),
      one.name = other.name) :
    Stored (message.modify position fun container => { container with headerList := change container.headerList })
      (held.change name change) := by
  have own := (isNamed_iff (stored.full container (List.mem_of_getElem? present)) full).mp named
  have back : ∀ (index : Nat) (later : HeadersContainer),
      (message.modify position fun container =>
        { container with headerList := change container.headerList })[index]? = some later →
      ∃ old, message[index]? = some old ∧ later.name = old.name ∧
        later.headerList = if position = index then change old.headerList else old.headerList := by
    intro index later laterPresent
    rw [List.getElem?_modify, Option.map_eq_map, Option.map_eq_some_iff] at laterPresent
    obtain ⟨old, oldPresent, isLater⟩ := laterPresent
    refine ⟨old, oldPresent, ?_⟩
    rw [← isLater]
    split <;> exact ⟨rfl, rfl⟩
  have names : ∀ (index : Nat) (old : HeadersContainer), message[index]? = some old →
      ∃ later, (message.modify position fun container =>
        { container with headerList := change container.headerList })[index]? = some later ∧
        later.name = old.name := by
    intro index old oldPresent
    rw [List.getElem?_modify, oldPresent]
    refine ⟨_, rfl, ?_⟩
    split <;> rfl
  refine ⟨?_, ?_, ?_, ?_, ?_⟩
  · intro later among
    obtain ⟨index, laterPresent⟩ := List.mem_iff_getElem?.mp among
    obtain ⟨old, oldPresent, sameName, -⟩ := back index later laterPresent
    rw [sameName]
    exact stored.full old (List.mem_of_getElem? oldPresent)
  · apply List.pairwise_iff_getElem.mpr
    intro first second firstInside secondInside before
    obtain ⟨one, onePresent, oneName, -⟩ := back first _ (List.getElem?_eq_getElem firstInside)
    obtain ⟨other, otherPresent, otherName, -⟩ := back second _ (List.getElem?_eq_getElem secondInside)
    obtain ⟨oneInside, rfl⟩ := List.getElem?_eq_some_iff.mp onePresent
    obtain ⟨otherInside, rfl⟩ := List.getElem?_eq_some_iff.mp otherPresent
    rw [oneName, otherName]
    exact List.pairwise_iff_getElem.mp stored.unique first second oneInside otherInside before
  · intro later among
    obtain ⟨index, laterPresent⟩ := List.mem_iff_getElem?.mp among
    obtain ⟨old, oldPresent, sameName, lists⟩ := back index later laterPresent
    have oldLists := stored.lists old (List.mem_of_getElem? oldPresent)
    rw [lists, sameName, oldLists]
    unfold Held.change
    split
    · next here =>
        subst here
        cases present.symm.trans oldPresent
        rw [if_pos own]
    · next elsewhere =>
        rw [if_neg]
        intro same
        exact elsewhere (stored.container full present named oldPresent same).symm
  · intro key some_
    have before : held key ≠ [] ∨ key = canonical name := by
      unfold Held.change at some_
      split at some_
      · next here => exact .inr here
      · exact .inl some_
    obtain ⟨old, among, isKey⟩ : ∃ old ∈ message, canonical old.name = key := by
      rcases before with nonempty | here
      · exact stored.complete key nonempty
      · exact ⟨container, List.mem_of_getElem? present, own.trans here.symm⟩
    obtain ⟨index, oldPresent⟩ := List.mem_iff_getElem?.mp among
    obtain ⟨later, laterPresent, sameName⟩ := names index old oldPresent
    exact ⟨later, List.mem_of_getElem? laterPresent, sameName ▸ isKey⟩
  · intro key
    unfold Held.change
    split
    · next here =>
        rw [here]
        exact uniform
    · exact stored.uniform key

/-- A name without container holds nothing. -/
theorem absent (stored : Stored message held) (full : isCompact name = false)
    (nowhere : ∀ container ∈ message, container.isNamed name = false) : held (canonical name) = [] := by
  by_contra some_
  obtain ⟨container, among, same⟩ := stored.complete _ some_
  have named := (isNamed_iff (stored.full container among) full).mpr same
  rw [nowhere container among] at named
  cases named

theorem found_or_absent (message : HeaderLists) (name : String) :
    (∃ position container, message.findIdx? (HeadersContainer.isNamed name) = some position ∧
      message[position]? = some container ∧ container.isNamed name = true) ∨
    message.findIdx? (HeadersContainer.isNamed name) = none ∧
      ∀ container ∈ message, container.isNamed name = false := by
  cases search : message.findIdx? (HeadersContainer.isNamed name) with
  | none => exact .inr ⟨rfl, List.findIdx?_eq_none_iff.mp search⟩
  | some position =>
      obtain ⟨inside, named, -⟩ := List.findIdx?_eq_some_iff_getElem.mp search
      exact .inl ⟨position, _, rfl, List.getElem?_eq_getElem inside, named⟩

theorem updateOrCreate (stored : Stored message held) (full : isCompact name = false)
    (uniform : ∀ one ∈ change (held (canonical name)), ∀ other ∈ change (held (canonical name)),
      one.name = other.name) :
    Stored (message.updateOrCreate name change) (held.change name change) := by
  unfold HeaderLists.updateOrCreate
  rcases found_or_absent message name with ⟨position, container, search, present, named⟩ | ⟨search, nowhere⟩
  · rw [search]
    exact stored.modify full present named uniform
  · rw [search, expandName_full full]
    have nothing := stored.absent full nowhere
    have elsewhere : ∀ container ∈ message, canonical container.name ≠ canonical name := by
      intro container among same
      have named := (isNamed_iff (stored.full container among) full).mpr same
      rw [nowhere container among] at named
      cases named
    refine ⟨?_, ?_, ?_, ?_, ?_⟩
    · intro container among
      rcases List.mem_append.mp among with old | new
      · exact stored.full container old
      · rw [List.mem_singleton.mp new]
        exact full
    · apply List.pairwise_append.mpr
      refine ⟨stored.unique, List.pairwise_singleton _ _, ?_⟩
      intro container among new isNew
      rw [List.mem_singleton.mp isNew]
      exact elsewhere container among
    · intro container among
      unfold Held.change
      rcases List.mem_append.mp among with old | new
      · rw [if_neg (elsewhere container old)]
        exact stored.lists container old
      · rw [List.mem_singleton.mp new, if_pos rfl, nothing]
    · intro key some_
      unfold Held.change at some_
      split at some_
      · next here => exact ⟨_, List.mem_append_right _ List.mem_cons_self, here.symm⟩
      · obtain ⟨container, among, isKey⟩ := stored.complete key some_
        exact ⟨container, List.mem_append_left _ among, isKey⟩
    · intro key
      unfold Held.change
      split
      · next here =>
          rw [here]
          exact uniform
      · exact stored.uniform key

theorem updateFound (stored : Stored message held) (may : (!isCompact name || (held (canonical name)).isEmpty) = true)
    (empty : change [] = []) (keeps : ∀ headers, ∀ header ∈ change headers, header ∈ headers) :
    Stored (message.updateFound name change) (held.change name change) := by
  have still : held (canonical name) = [] → held.change name change = held := by
    intro nothing
    funext key
    unfold Held.change
    split
    · next here => rw [here, nothing, empty]
    · rfl
  unfold HeaderLists.updateFound
  rcases found_or_absent message name with ⟨position, container, search, present, named⟩ | ⟨search, nowhere⟩
  · have full : isCompact name = false := by
      rw [← isCompact_congr named]
      exact stored.full container (List.mem_of_getElem? present)
    rw [search]
    apply stored.modify full present named
    intro one isOne other isOther
    exact stored.uniform _ one (keeps _ one isOne) other (keeps _ other isOther)
  · rw [search]
    have nothing : held (canonical name) = [] := by
      cases full : isCompact name with
      | false => exact stored.absent full nowhere
      | true =>
          rw [full] at may
          simpa using may
    rw [still nothing]
    exact stored

/-- Every look-up but that of a compact name of some header gives what is held. -/
theorem getHeaders (stored : Stored message held) (asked : isCompact name = false ∨ held (canonical name) = []) :
    message.getHeaders name = held (canonical name) := by
  unfold HeaderLists.getHeaders
  cases search : message.find? (HeadersContainer.isNamed name) with
  | none =>
      have nowhere : ∀ container ∈ message, container.isNamed name = false := by
        intro container among
        exact Bool.eq_false_iff.mpr (List.find?_eq_none.mp search container among)
      rcases asked with full | nothing
      · exact (stored.absent full nowhere).symm
      · exact nothing.symm
  | some container =>
      have among := List.mem_of_find?_eq_some search
      have named := List.find?_some search
      have own := stored.full container among
      have full : isCompact name = false := by
        rw [← isCompact_congr named]
        exact own
      rw [Option.map_some, Option.getD_some, ← (isNamed_iff own full).mp named]
      exact stored.lists container among

/-- The copy takes lists in which all headers have one name. -/
theorem clone (stored : Stored message held) : message.clone ≠ .error .fatal := by
  have copies : ∀ (containers : HeaderLists),
      (∀ container ∈ containers, ∀ one ∈ container.headerList, ∀ other ∈ container.headerList,
        one.name = other.name) → ∀ copy : HeaderLists,
          containers.foldlM (fun copy container => copy.addHeaders container.headerList) copy ≠
            (.error .fatal : Checked HeaderLists) := by
    intro containers
    induction containers with
    | nil =>
        intro _ copy stopped
        cases stopped
    | cons container rest ih =>
        intro uniform copy
        have same := uniform container List.mem_cons_self
        obtain ⟨next, added⟩ : ∃ next, copy.addHeaders container.headerList = .ok next := by
          unfold HeaderLists.addHeaders
          split
          · exact ⟨copy, rfl⟩
          · next first others isList =>
              rw [isList] at same
              have all : (first :: others).all (·.name = first.name) = true := by
                apply List.all_eq_true.mpr
                intro header among
                exact decide_eq_true (same header among first List.mem_cons_self)
              rw [isList, if_pos all]
              exact ⟨_, rfl⟩
        rw [List.foldlM_cons, added]
        exact ih (fun other among => uniform other (List.mem_cons_of_mem _ among)) next
  apply copies
  intro container among
  rw [stored.lists container among]
  exact stored.uniform _

theorem filed (stored : Stored message held) : Filed message held :=
  ⟨stored.unique, fun _ => stored.getHeaders, stored.clone⟩

theorem join (stored : Stored message held) {header : Header} (may : held.mayJoin header = true)
    (joins : ∀ headers, ∀ one ∈ change headers, one ∈ headers ∨ one = header) :
    Stored (message.updateOrCreate header.name change) (held.change header.name change) := by
  simp only [Held.mayJoin, Bool.and_eq_true, Bool.not_eq_true', List.all_eq_true, decide_eq_true_eq] at may
  apply stored.updateOrCreate may.1
  have named : ∀ one ∈ change (held (canonical header.name)), one.name = header.name := by
    intro one among
    rcases joins _ one among with old | new
    · exact may.2 one old
    · rw [new]
  intro one isOne other isOther
  exact (named one isOne).trans (named other isOther).symm

theorem held_addHeaders (held : Held) (name : String) {headers : List Header}
    (same : ∀ header ∈ headers, header.name = name) :
    headers.foldl (fun held header => held.change header.name (· ++ [header])) held =
      held.change name (· ++ headers) := by
  induction headers generalizing held with
  | nil =>
      funext key
      simp [Held.change]
  | cons header rest ih =>
      rw [List.foldl_cons, ih _ fun other among => same other (List.mem_cons_of_mem _ among),
        same header List.mem_cons_self]
      funext key
      unfold Held.change
      split
      · show held key ++ [header] ++ rest = held key ++ header :: rest
        rw [List.append_assoc, List.singleton_append]
      · rfl

theorem addHeaders (stored : Stored message held) {headers : List Header}
    (may : headers.all held.mayJoin = true) :
    Checked.OnReturn (message.addHeaders headers) fun after =>
      Stored after (headers.foldl (fun held header => held.change header.name (· ++ [header])) held) := by
  unfold HeaderLists.addHeaders
  split
  · exact Checked.onReturn_pure.mpr stored
  · next first others =>
      split
      · next all =>
          have same : ∀ header ∈ first :: others, header.name = first.name := by
            intro header among
            exact of_decide_eq_true (List.all_eq_true.mp all header among)
          have mayFirst := List.all_eq_true.mp may first List.mem_cons_self
          simp only [Held.mayJoin, Bool.and_eq_true, Bool.not_eq_true', List.all_eq_true,
            decide_eq_true_eq] at mayFirst
          apply Checked.onReturn_pure.mpr
          rw [held_addHeaders held first.name same]
          apply stored.updateOrCreate mayFirst.1
          have named : ∀ one ∈ held (canonical first.name) ++ first :: others, one.name = first.name := by
            intro one among
            rcases List.mem_append.mp among with old | new
            · exact mayFirst.2 one old
            · exact same one new
          intro one isOne other isOther
          exact (named one isOne).trans (named other isOther).symm
      · trivial

theorem handle (stored : Stored message held) {event : HeaderLists.Event} (may : held.permits event = true) :
    Checked.OnReturn (message.handle event) fun after => Stored after (held.handle event) := by
  cases event with
  | addFirst header =>
      apply Checked.onReturn_pure.mpr
      apply stored.join may
      intro headers one among
      exact (List.mem_cons.mp among).symm
  | addHeader header =>
      apply Checked.onReturn_pure.mpr
      apply stored.join may
      intro headers one among
      exact (List.mem_append.mp among).imp_right List.mem_singleton.mp
  | addHeaders headers => exact stored.addHeaders may
  | setHeader header =>
      apply Checked.onReturn_pure.mpr
      apply stored.updateOrCreate (by simpa [Held.permits] using may)
      intro one isOne other isOther
      rw [List.mem_singleton.mp isOne, List.mem_singleton.mp isOther]
  | removeFirst name =>
      apply Checked.onReturn_pure.mpr
      exact stored.updateFound may rfl fun headers header => List.mem_of_mem_tail
  | removeLast name =>
      apply Checked.onReturn_pure.mpr
      exact stored.updateFound may rfl fun headers header among => (List.dropLast_sublist headers).subset among

end Stored

/-- In every run with full names of one spelling, the containers hold what has been added. -/
theorem run_filed {events : List HeaderLists.Event}
    (permitted : Machine.Along HeaderRegister.step (fun register event => register.held.permits event = true)
      {} events) :
    Checked.OnReturn (Machine.run HeaderRegister.step {} events).message fun message =>
      Filed message (Machine.run HeaderRegister.step {} events).held := by
  have preserved : ∀ (register : HeaderRegister) (event : HeaderLists.Event),
      (Checked.OnReturn register.message fun message => Stored message register.held) →
        register.held.permits event = true →
          Checked.OnReturn (register.step event).message fun message => Stored message (register.step event).held := by
    intro register event stored may
    apply Checked.onReturn_bind.mpr
    exact stored.mono fun message stored => stored.handle may
  have start : Checked.OnReturn ({} : HeaderRegister).message fun message =>
      Stored message ({} : HeaderRegister).held := by
    constructor <;> simp
  have ended := Machine.run_invariant preserved start permitted
  exact ended.mono fun message stored => stored.filed

theorem run_filed_subject :
    Checked.OnReturn (Machine.run HeaderRegister.step {} [.addHeader ⟨"Subject", "one"⟩,
        .addHeaders [⟨"X-Tag", "first"⟩, ⟨"X-Tag", "second"⟩], .removeLast "x-tag"]).message fun message =>
      Filed message (Machine.run HeaderRegister.step {} [.addHeader ⟨"Subject", "one"⟩,
        .addHeaders [⟨"X-Tag", "first"⟩, ⟨"X-Tag", "second"⟩], .removeLast "x-tag"]).held :=
  run_filed (by decide)

/-- Two headers with the compact name of Subject get two containers, and neither is found under it. Two headers
whose names differ in letter case share one, and the clone of their message stops the program. -/
theorem not_filed_spellings :
    (∃ message, (Machine.run HeaderRegister.step {}
          [.addHeader ⟨"s", "one"⟩, .addHeader ⟨"s", "two"⟩]).message = .ok message ∧
      message.map (·.name) = ["Subject", "Subject"] ∧ message.getHeaders "s" = [] ∧
      message.getHeaders "Subject" = [⟨"s", "one"⟩] ∧
      ¬Filed message (Machine.run HeaderRegister.step {} [.addHeader ⟨"s", "one"⟩, .addHeader ⟨"s", "two"⟩]).held) ∧
    ∃ message, (Machine.run HeaderRegister.step {}
          [.addHeader ⟨"X-Tag", "one"⟩, .addHeader ⟨"x-tag", "two"⟩]).message = .ok message ∧
      message.clone = .error .fatal ∧ ¬Filed message (Machine.run HeaderRegister.step {}
          [.addHeader ⟨"X-Tag", "one"⟩, .addHeader ⟨"x-tag", "two"⟩]).held := by
  refine ⟨⟨_, rfl, by decide, by decide, by decide, ?_⟩, _, rfl, by decide, ?_⟩
  · intro filed
    exact absurd filed.unique (by decide)
  · intro filed
    exact filed.cloned (by decide)

end BelleSip
