import BelleSip.Sip.HeaderContainers
import BelleSip.Utils.Links
import Mathlib.Data.List.Perm.Subperm

/-
This file models the memory of the containers of a message, and proves when the list of the message survives the removal
of a container.
-/

namespace BelleSip

open Foundation

/-- The elements and containers of a message. A place that has been freed is not used again. -/
structure HeaderMemory where
  links : Links Nat := fun _ => {}
  live : Nat → Bool := fun _ => false
  data : Nat → Nat := fun _ => 0
  containers : Nat → Option HeadersContainer := fun _ => none
  headerList : Option Nat := none
  allocated : Nat := 0

namespace HeaderMemory

/-- This is `belle_sip_list_find_custom` with `belle_sip_headers_container_comp_func`. -/
def findNamed (memory : HeaderMemory) (name : String) : Checked (Option Nat) :=
  Links.find memory.live memory.links (fun elem => do
    let container ← Checked.deref (memory.containers (memory.data elem))
    return container.isNamed name) memory.allocated memory.headerList

/-- This is `belle_sip_headers_container_get`. -/
def headersContainerGet (memory : HeaderMemory) (name : String) : Checked (Option Nat) := do
  let result ← memory.findNamed name
  return result.map memory.data

/-- This is `belle_sip_message_headers_container_new` and the element that is allocated for the container. -/
def allocate (memory : HeaderMemory) (container : HeadersContainer) : HeaderMemory :=
  { memory with
    links := Function.update memory.links memory.allocated {}
    live := Function.update memory.live memory.allocated true
    data := Function.update memory.data memory.allocated memory.allocated
    containers := Function.update memory.containers memory.allocated (some container)
    allocated := memory.allocated + 1 }

/-- This is `get_or_create_container`. -/
def getOrCreateContainer (memory : HeaderMemory) (name : String) : Checked (HeaderMemory × Nat) := do
  match ← memory.headersContainerGet name with
  | some container => return (memory, container)
  | none =>
      let grown := memory.allocate { name := expandName name }
      let (links, headerList) ←
        Links.appendLink grown.live grown.links grown.allocated grown.headerList memory.allocated
      return ({ grown with links, headerList }, memory.allocated)

def setContainer (memory : HeaderMemory) (place : Nat) (container : Option HeadersContainer) : HeaderMemory :=
  { memory with containers := Function.update memory.containers place container }

/-- The headers of a container are replaced. -/
def changeContainer (memory : HeaderMemory) (place : Nat) (change : List Header → List Header) :
    Checked HeaderMemory := do
  let container ← Checked.deref (memory.containers place)
  return memory.setContainer place (some { container with headerList := change container.headerList })

def updateOrCreate (memory : HeaderMemory) (name : String) (change : List Header → List Header) :
    Checked HeaderMemory := do
  let (created, place) ← memory.getOrCreateContainer name
  created.changeContainer place change

def updateFound (memory : HeaderMemory) (name : String) (change : List Header → List Header) :
    Checked HeaderMemory := do
  match ← memory.headersContainerGet name with
  | some place => memory.changeContainer place change
  | none => return memory

/-- This is `belle_sip_list_remove` on the list of a message. It returns the first element that is left. -/
def listRemove (memory : HeaderMemory) (container : Nat) : Checked (HeaderMemory × Option Nat) := do
  match ← Links.find memory.live memory.links (fun elem => .ok (decide (memory.data elem = container)))
      memory.allocated memory.headerList with
  | some it =>
      let (links, first) ← Links.removeLink memory.live memory.links memory.headerList it
      return ({ memory with links, live := Function.update memory.live it false }, first)
  | none => return (memory, memory.headerList)

/-- This is `belle_sip_message_remove_header`. The first element that is left is not stored in the message. -/
def removeHeader (memory : HeaderMemory) (name : String) : Checked HeaderMemory := do
  match ← memory.headersContainerGet name with
  | some place =>
      let (removed, _) ← memory.listRemove place
      return removed.setContainer place none
  | none => return memory

/-- The containers that `belle_sip_message_for_each_header` and `belle_sip_headers_marshal` go through. -/
def traverse (memory : HeaderMemory) : Checked HeaderLists := do
  let elems ← Links.elements memory.live memory.links memory.allocated memory.headerList
  elems.mapM fun elem => Checked.deref (memory.containers (memory.data elem))

/-- This is `belle_sip_message_get_headers`. -/
def getHeaders (memory : HeaderMemory) (name : String) : Checked (List Header) := do
  match ← memory.headersContainerGet name with
  | some place =>
      let container ← Checked.deref (memory.containers place)
      return container.headerList
  | none => return []

/-- This is `belle_sip_message_clone`. -/
def clone (memory : HeaderMemory) : Checked HeaderLists := memory.traverse >>= HeaderLists.clone

def handle (memory : HeaderMemory) : HeaderLists.Event → Checked HeaderMemory
  | .addFirst header => memory.updateOrCreate header.name fun headerList => header :: headerList
  | .addHeader header => memory.updateOrCreate header.name fun headerList => headerList ++ [header]
  | .addHeaders [] => return memory
  | .addHeaders (first :: others) =>
      if (first :: others).all (·.name = first.name) then
        memory.updateOrCreate first.name fun headerList => headerList ++ first :: others
      else .error .fatal
  | .setHeader header => memory.updateOrCreate header.name fun _ => [header]
  | .removeFirst name => memory.updateFound name List.tail
  | .removeLast name => memory.updateFound name List.dropLast

/-- The elements are those of the message, in order, and each one has a live container of its own. -/
structure Keeps (memory : HeaderMemory) (elems : List Nat) (message : HeaderLists) : Prop where
  holds : Links.Holds memory.links memory.headerList elems
  alive : ∀ elem ∈ elems, memory.live elem = true
  within : ∀ elem ∈ elems, elem < memory.allocated ∧ memory.data elem < memory.allocated
  apart : (elems.map memory.data).Nodup
  filed : elems.map (fun elem => memory.containers (memory.data elem)) = message.map some

/-- The list of the message is live and has the given containers. -/
def Stands (memory : HeaderMemory) (message : HeaderLists) : Prop := ∃ elems, memory.Keeps elems message

/-- Whatever is done later with the message is done with the given containers. -/
structure Serves (memory : HeaderMemory) (message : HeaderLists) : Prop where
  traversed : ∀ events : List HeaderLists.Event,
      (events.foldlM handle memory >>= traverse) = events.foldlM HeaderLists.handle message
  got : ∀ (events : List HeaderLists.Event) (name : String),
      (events.foldlM handle memory >>= fun later => later.getHeaders name) =
    events.foldlM HeaderLists.handle message >>= fun later => .ok (later.getHeaders name)
  cloned : ∀ events : List HeaderLists.Event, (events.foldlM handle memory >>= clone) =
    events.foldlM HeaderLists.handle message >>= HeaderLists.clone

variable {memory : HeaderMemory} {elems : List Nat} {message : HeaderLists} {name : String}

namespace Keeps

/-- There are no more elements than have been allocated. -/
theorem length_le (keeps : memory.Keeps elems message) : elems.length ≤ memory.allocated := by
  have subset : elems ⊆ List.range memory.allocated :=
    fun elem among => List.mem_range.mpr (keeps.within elem among).1
  have shorter := (List.subperm_of_subset keeps.holds.nodup subset).length_le
  rwa [List.length_range] at shorter

/-- The elements in front of a container, its own and those behind it. -/
theorem split {front rest : HeaderLists} {container : HeadersContainer}
    (keeps : memory.Keeps elems (front ++ container :: rest)) :
    ∃ before elem behind, elems = before ++ elem :: behind ∧
      before.map (fun elem => memory.containers (memory.data elem)) = front.map some ∧
      memory.containers (memory.data elem) = some container ∧
      behind.map (fun elem => memory.containers (memory.data elem)) = rest.map some := by
  have filed := keeps.filed
  rw [List.map_append, List.map_cons] at filed
  obtain ⟨before, others, rfl, inFront, back⟩ := List.map_eq_append_iff.mp filed
  obtain ⟨elem, behind, rfl, own, inBack⟩ := List.map_eq_cons_iff.mp back
  exact ⟨before, elem, behind, rfl, inFront, own, inBack⟩

/-- The container of an element among those that keep some containers. -/
theorem among_container {elems : List Nat} {message : HeaderLists}
    (filed : elems.map (fun elem => memory.containers (memory.data elem)) = message.map some) {elem : Nat}
    (among : elem ∈ elems) :
    ∃ container ∈ message, memory.containers (memory.data elem) = some container := by
  have stored : memory.containers (memory.data elem) ∈ message.map some := by
    rw [← filed]
    exact List.mem_map_of_mem among
  obtain ⟨container, among, same⟩ := List.mem_map.mp stored
  exact ⟨container, among, same.symm⟩

/-- The elements in front of the found container are refused. -/
theorem refused {before : List Nat} {front : HeaderLists}
    (filed : before.map (fun elem => memory.containers (memory.data elem)) = front.map some)
    (others : ∀ other ∈ front, other.isNamed name = false) : ∀ elem ∈ before,
      (do let container ← Checked.deref (memory.containers (memory.data elem))
          return container.isNamed name : Checked Bool) = .ok false := by
  intro elem among
  obtain ⟨container, inside, stored⟩ := among_container filed among
  rw [stored, Checked.deref_some, Checked.ok_bind, others container inside]
  rfl

theorem headersContainerGet {front rest : HeaderLists} {container : HeadersContainer} {before behind : List Nat}
    {elem : Nat} (keeps : memory.Keeps (before ++ elem :: behind) (front ++ container :: rest))
    (inFront : before.map (fun elem => memory.containers (memory.data elem)) = front.map some)
    (own : memory.containers (memory.data elem) = some container)
    (others : ∀ other ∈ front, other.isNamed name = false) (named : container.isNamed name = true) :
    memory.headersContainerGet name = .ok (some (memory.data elem)) := by
  have accepted : (do let container ← Checked.deref (memory.containers (memory.data elem))
                      return container.isNamed name : Checked Bool) = .ok true := by
    rw [own, Checked.deref_some, Checked.ok_bind, named]
    rfl
  rw [HeaderMemory.headersContainerGet, findNamed,
    Links.find_returns keeps.holds keeps.alive (refused inFront others) accepted keeps.length_le]
  rfl

theorem headersContainerGet_none (keeps : memory.Keeps elems message)
    (nowhere : ∀ container ∈ message, container.isNamed name = false) :
    memory.headersContainerGet name = .ok none := by
  rw [HeaderMemory.headersContainerGet, findNamed,
    Links.find_nothing keeps.holds keeps.alive (refused keeps.filed nowhere) keeps.length_le]
  rfl

/-- No other element is the same or has the same container. -/
theorem distinct {before behind : List Nat} {elem : Nat} (keeps : memory.Keeps (before ++ elem :: behind) message) :
    ∀ other ∈ before ++ behind, other ≠ elem ∧ memory.data other ≠ memory.data elem := by
  have data := keeps.apart
  rw [List.map_append] at data
  have apart := List.nodup_append.mp data
  have elems := List.nodup_append.mp keeps.holds.nodup
  intro other among
  rcases List.mem_append.mp among with inside | outside
  · exact ⟨elems.2.2 other inside elem List.mem_cons_self,
      apart.2.2 _ (List.mem_map_of_mem inside) _ List.mem_cons_self⟩
  · refine ⟨fun equal => (List.nodup_cons.mp elems.2.1).1 (equal ▸ outside), fun equal => ?_⟩
    exact (List.nodup_cons.mp apart.2.1).1 (equal ▸ List.mem_map_of_mem outside)

/-- The container of one element changes. -/
theorem setContainer {front rest : HeaderLists} {container changed : HeadersContainer} {before behind : List Nat}
    {elem : Nat} (keeps : memory.Keeps (before ++ elem :: behind) (front ++ container :: rest))
    (inFront : before.map (fun elem => memory.containers (memory.data elem)) = front.map some)
    (inBack : behind.map (fun elem => memory.containers (memory.data elem)) = rest.map some) :
    (memory.setContainer (memory.data elem) (some changed)).Keeps (before ++ elem :: behind)
      (front ++ changed :: rest) := by
  have kept : ∀ other ∈ before ++ behind,
      Function.update memory.containers (memory.data elem) (some changed) (memory.data other) =
        memory.containers (memory.data other) :=
    fun other among => Function.update_of_ne (keeps.distinct other among).2 _ _
  refine ⟨keeps.holds, keeps.alive, keeps.within, keeps.apart, ?_⟩
  rw [List.map_append, List.map_append, List.map_cons, List.map_cons, ← inFront, ← inBack]
  congr 1
  · exact List.map_congr_left fun other among => kept other (List.mem_append_left _ among)
  · congr 1
    · exact Function.update_self _ _ _
    · exact List.map_congr_left fun other among => kept other (List.mem_append_right _ among)

theorem changeContainer {front rest : HeaderLists} {container : HeadersContainer} {before behind : List Nat}
    {elem : Nat} (keeps : memory.Keeps (before ++ elem :: behind) (front ++ container :: rest))
    (inFront : before.map (fun elem => memory.containers (memory.data elem)) = front.map some)
    (own : memory.containers (memory.data elem) = some container)
    (inBack : behind.map (fun elem => memory.containers (memory.data elem)) = rest.map some)
    (change : List Header → List Header) :
    Checked.Returns (memory.changeContainer (memory.data elem) change) fun after =>
      after.Keeps (before ++ elem :: behind)
        (front ++ { container with headerList := change container.headerList } :: rest) := by
  rw [HeaderMemory.changeContainer, own, Checked.deref_some, Checked.ok_bind, Checked.returns_pure]
  exact keeps.setContainer inFront inBack

/-- A container is appended with a new element. -/
theorem allocate (keeps : memory.Keeps elems message) (container : HeadersContainer) :
    Checked.Returns (Links.appendLink (memory.allocate container).live (memory.allocate container).links
        (memory.allocate container).allocated (memory.allocate container).headerList memory.allocated) fun appended =>
      Keeps { memory.allocate container with links := appended.1, headerList := appended.2 }
        (elems ++ [memory.allocated]) (message ++ [container]) := by
  have older : ∀ elem ∈ elems, elem ≠ memory.allocated := fun elem among => (keeps.within elem among).1.ne
  have data : ∀ elem ∈ elems, (memory.allocate container).data elem = memory.data elem :=
    fun elem among => Function.update_of_ne (older elem among) _ _
  have holds : Links.Holds (memory.allocate container).links memory.headerList elems :=
    ⟨keeps.holds.head,
      keeps.holds.strung.congr fun elem among => Function.update_of_ne (older elem among) _ _, keeps.holds.nodup⟩
  have alive : ∀ elem ∈ elems, (memory.allocate container).live elem = true := by
    intro elem among
    show Function.update memory.live memory.allocated true elem = true
    rw [Function.update_of_ne (older elem among), keeps.alive elem among]
  have aliveNew : (memory.allocate container).live memory.allocated = true := Function.update_self _ _ _
  refine (Links.appendLink_returns holds (fun among => older _ among rfl) (Function.update_self _ _ _) alive aliveNew
    (Nat.le_succ_of_le keeps.length_le)).mono ?_
  rintro ⟨links, headerList⟩ ⟨appended, -⟩
  have dataNew : (memory.allocate container).data memory.allocated = memory.allocated := Function.update_self _ _ _
  have stored : (memory.allocate container).containers memory.allocated = some container := Function.update_self _ _ _
  refine ⟨appended, ?_, ?_, ?_, ?_⟩
  · intro elem among
    rcases List.mem_append.mp among with old | new
    · exact alive elem old
    · rw [List.mem_singleton.mp new]
      exact aliveNew
  · intro elem among
    show elem < memory.allocated + 1 ∧ (memory.allocate container).data elem < memory.allocated + 1
    rcases List.mem_append.mp among with old | new
    · rw [data elem old]
      have within := keeps.within elem old
      omega
    · rw [List.mem_singleton.mp new, dataNew]
      omega
  · show ((elems ++ [memory.allocated]).map (memory.allocate container).data).Nodup
    rw [List.map_append, List.map_congr_left data, List.map_singleton, dataNew, List.nodup_append]
    refine ⟨keeps.apart, List.nodup_singleton _, ?_⟩
    intro place among other new
    obtain ⟨elem, inside, rfl⟩ := List.mem_map.mp among
    rw [List.mem_singleton.mp new]
    exact (keeps.within elem inside).2.ne
  · show (elems ++ [memory.allocated]).map (fun elem =>
      (memory.allocate container).containers ((memory.allocate container).data elem)) = _
    rw [List.map_append, List.map_append, List.map_singleton, List.map_singleton, dataNew, stored, ← keeps.filed]
    congr 1
    refine List.map_congr_left fun elem among => ?_
    rw [data elem among]
    exact Function.update_of_ne (keeps.within elem among).2.ne _ _

/-- The data of the elements are told apart, so that the element of a container is found. -/
theorem listRemove_found {front rest : HeaderLists} {container : HeadersContainer} {before behind : List Nat}
    {elem : Nat} (keeps : memory.Keeps (before ++ elem :: behind) (front ++ container :: rest)) :
    Links.find memory.live memory.links (fun other => .ok (decide (memory.data other = memory.data elem)))
      memory.allocated memory.headerList = .ok (some elem) := by
  refine Links.find_returns keeps.holds keeps.alive (fun other among => ?_) ?_ keeps.length_le
  · rw [decide_eq_false (keeps.distinct other (List.mem_append_left _ among)).2]
  · rw [decide_eq_true rfl]

theorem listRemove {front rest : HeaderLists} {container : HeadersContainer} {before behind : List Nat}
    {elem : Nat} (keeps : memory.Keeps (before ++ elem :: behind) (front ++ container :: rest)) :
    Checked.Returns (memory.listRemove (memory.data elem)) fun removed =>
      Links.Holds removed.1.links removed.2 (before ++ behind) ∧
        removed.1 = { memory with links := removed.1.links, live := Function.update memory.live elem false } := by
  rw [HeaderMemory.listRemove, keeps.listRemove_found, Checked.ok_bind, Checked.returns_bind]
  refine (Links.removeLink_returns keeps.holds keeps.alive).mono ?_
  rintro ⟨links, first⟩ ⟨holds, -, -⟩
  exact Checked.returns_pure.mpr ⟨holds, rfl⟩

/-- The container of an element behind others is removed, and the list goes on around it. -/
theorem removeHeader_behind {front rest : HeaderLists} {container : HeadersContainer} {first : Nat}
    {before behind : List Nat} {elem : Nat}
    (keeps : memory.Keeps (first :: before ++ elem :: behind) (front ++ container :: rest))
    (inFront : (first :: before).map (fun elem => memory.containers (memory.data elem)) = front.map some)
    (own : memory.containers (memory.data elem) = some container)
    (inBack : behind.map (fun elem => memory.containers (memory.data elem)) = rest.map some)
    (others : ∀ other ∈ front, other.isNamed name = false) (named : container.isNamed name = true) :
    Checked.Returns (memory.removeHeader name) fun after =>
      after.Keeps (first :: before ++ behind) (front ++ rest) := by
  rw [removeHeader, keeps.headersContainerGet inFront own others named, Checked.ok_bind, Checked.returns_bind]
  refine keeps.listRemove.mono ?_
  rintro ⟨removed, list⟩ ⟨holds, same⟩
  rw [Checked.returns_pure]
  have sub : (first :: before ++ behind).Sublist (first :: before ++ elem :: behind) :=
    (List.Sublist.refl _).append (List.sublist_cons_self _ _)
  dsimp only at holds same
  rw [same] at holds ⊢
  have head : memory.headerList = list := by
    rw [keeps.holds.head, holds.head]
    rfl
  refine ⟨⟨head.trans holds.head, holds.strung, holds.nodup⟩, ?_, ?_, ?_, ?_⟩
  · intro other among
    exact (Function.update_of_ne (keeps.distinct other among).1 _ _).trans (keeps.alive other (sub.subset among))
  · exact fun other among => keeps.within other (sub.subset among)
  · exact keeps.apart.sublist (sub.map _)
  · have kept : ∀ other ∈ first :: before ++ behind,
        Function.update memory.containers (memory.data elem) none (memory.data other) =
          memory.containers (memory.data other) :=
      fun other among => Function.update_of_ne (keeps.distinct other among).2 _ _
    show (first :: before ++ behind).map (fun other =>
      Function.update memory.containers (memory.data elem) none (memory.data other)) = _
    rw [List.map_congr_left kept, List.map_append, List.map_append, inFront, inBack]

/-- The message still points to its first element when that has been freed. -/
theorem removeHeader_first {rest : HeaderLists} {container : HeadersContainer} {behind : List Nat} {elem : Nat}
    (keeps : memory.Keeps (elem :: behind) (container :: rest))
    (own : memory.containers (memory.data elem) = some container) (named : container.isNamed name = true) :
    Checked.Returns (memory.removeHeader name) fun after =>
      after.headerList = some elem ∧ after.live elem = false := by
  have found := @headersContainerGet memory name [] rest container [] behind elem keeps rfl own (by simp) named
  rw [removeHeader, found, Checked.ok_bind, Checked.returns_bind]
  refine (@listRemove memory [] rest container [] behind elem keeps).mono ?_
  rintro ⟨removed, list⟩ ⟨-, same⟩
  rw [Checked.returns_pure]
  dsimp only at same
  rw [same]
  exact ⟨keeps.holds.head, Function.update_self _ _ _⟩

end Keeps

/-- Both computations return the same containers, or both stop the program on purpose. -/
def Refines (result : Checked HeaderMemory) (expected : Checked HeaderLists) : Prop :=
  (∃ memory message, result = .ok memory ∧ expected = .ok message ∧ memory.Stands message) ∨
    result = .error .fatal ∧ expected = .error .fatal

theorem Refines.of_returns {computation : Checked HeaderMemory}
    (returns : Checked.Returns computation fun memory => memory.Stands message) :
    Refines computation (.ok message) := by
  obtain ⟨memory, ended, stands⟩ := returns
  exact .inl ⟨memory, message, ended, rfl, stands⟩

/-- A container with the name stands in the message, or none does. -/
theorem named_or_absent (message : HeaderLists) (name : String) :
    (∃ front container rest, message = front ++ container :: rest ∧ container.isNamed name = true ∧
      ∀ other ∈ front, other.isNamed name = false) ∨ ∀ container ∈ message, container.isNamed name = false := by
  cases search : message.find? (HeadersContainer.isNamed name) with
  | none => exact .inr fun container among => Bool.eq_false_iff.mpr (List.find?_eq_none.mp search container among)
  | some container =>
      obtain ⟨named, front, rest, whole, others⟩ := List.find?_eq_some_iff_append.mp search
      exact .inl ⟨front, container, rest, whole, named, fun other among => by simpa using others other among⟩

section
variable {front rest : HeaderLists} {container : HeadersContainer}

theorem findIdx_named (others : ∀ other ∈ front, other.isNamed name = false) (named : container.isNamed name = true) :
    (front ++ container :: rest).findIdx? (HeadersContainer.isNamed name) = some front.length := by
  rw [List.findIdx?_append, List.findIdx?_eq_none_iff.mpr others, List.findIdx?_cons, if_pos named]
  simp

theorem modify_named (change : HeadersContainer → HeadersContainer) :
    (front ++ container :: rest).modify front.length change = front ++ change container :: rest := by
  induction front with
  | nil => rfl
  | cons first front ih => rw [List.cons_append, List.length_cons, List.modify_succ_cons, ih, List.cons_append]

end

/-- A container is changed where it is found. -/
theorem Stands.change (stands : memory.Stands message) (name : String) (change : List Header → List Header) :
    (∃ place position, memory.headersContainerGet name = .ok (some place) ∧
      message.findIdx? (HeadersContainer.isNamed name) = some position ∧
      Checked.Returns (memory.changeContainer place change) fun after =>
        after.Stands (message.modify position fun container =>
          { container with headerList := change container.headerList })) ∨
    (memory.headersContainerGet name = .ok none ∧ message.findIdx? (HeadersContainer.isNamed name) = none) := by
  obtain ⟨elems, keeps⟩ := stands
  rcases named_or_absent message name with ⟨front, container, rest, rfl, named, others⟩ | nowhere
  · obtain ⟨before, elem, behind, rfl, inFront, own, inBack⟩ := keeps.split
    refine .inl ⟨_, _, keeps.headersContainerGet inFront own others named, findIdx_named others named, ?_⟩
    rw [modify_named]
    exact (keeps.changeContainer inFront own inBack change).mono fun after kept => ⟨_, kept⟩
  · exact .inr ⟨keeps.headersContainerGet_none nowhere, List.findIdx?_eq_none_iff.mpr nowhere⟩

theorem Stands.updateFound (stands : memory.Stands message) (name : String) (change : List Header → List Header) :
    Checked.Returns (memory.updateFound name change) fun after => after.Stands (message.updateFound name change) := by
  unfold HeaderMemory.updateFound HeaderLists.updateFound
  rcases stands.change name change with ⟨place, position, found, search, changed⟩ | ⟨absent, search⟩
  · rw [found, search]
    exact changed
  · rw [absent, search]
    exact Checked.returns_ok.mpr stands

theorem Stands.updateOrCreate (stands : memory.Stands message) (name : String) (change : List Header → List Header) :
    Checked.Returns (memory.updateOrCreate name change) fun after =>
      after.Stands (message.updateOrCreate name change) := by
  unfold HeaderMemory.updateOrCreate HeaderLists.updateOrCreate getOrCreateContainer
  rcases stands.change name change with ⟨place, position, found, search, changed⟩ | ⟨absent, search⟩
  · rw [found, search]
    exact changed
  · rw [absent, search]
    obtain ⟨elems, keeps⟩ := stands
    obtain ⟨⟨links, headerList⟩, appended, created⟩ := keeps.allocate { name := expandName name }
    have filed := created.filed
    rw [List.map_append, List.map_append] at filed
    obtain ⟨inFront, own⟩ := List.append_inj' filed rfl
    have changed := created.changeContainer inFront (List.head_eq_of_cons_eq own) rfl change
    have place : (memory.allocate { name := expandName name }).data memory.allocated = memory.allocated :=
      Function.update_self _ _ _
    dsimp only at changed
    rw [place] at changed
    rw [Checked.ok_bind]
    dsimp only
    rw [appended]
    exact changed.mono fun after kept => ⟨_, kept⟩

theorem Stands.handle (stands : memory.Stands message) (event : HeaderLists.Event) :
    Refines (memory.handle event) (message.handle event) := by
  cases event with
  | addFirst header => exact .of_returns (stands.updateOrCreate _ _)
  | addHeader header => exact .of_returns (stands.updateOrCreate _ _)
  | addHeaders headers =>
      cases headers with
      | nil => exact .inl ⟨_, _, rfl, rfl, stands⟩
      | cons first others =>
          unfold HeaderMemory.handle HeaderLists.handle HeaderLists.addHeaders
          dsimp only
          split
          · exact .of_returns (stands.updateOrCreate _ _)
          · exact .inr ⟨rfl, rfl⟩
  | setHeader header => exact .of_returns (stands.updateOrCreate _ _)
  | removeFirst name => exact .of_returns (stands.updateFound _ _)
  | removeLast name => exact .of_returns (stands.updateFound _ _)

/-- The memory of a message does what its containers do, in every run. -/
theorem Stands.run (stands : memory.Stands message) (events : List HeaderLists.Event) :
    Refines (events.foldlM HeaderMemory.handle memory) (events.foldlM HeaderLists.handle message) := by
  induction events generalizing memory message with
  | nil => exact .inl ⟨_, _, rfl, rfl, stands⟩
  | cons event events ih =>
      rw [List.foldlM_cons, List.foldlM_cons]
      rcases stands.handle event with ⟨after, expected, handled, same, kept⟩ | ⟨stopped, same⟩
      · rw [handled, same]
        exact ih kept
      · rw [stopped, same]
        exact .inr ⟨rfl, rfl⟩

theorem Stands.traverse (stands : memory.Stands message) : memory.traverse = .ok message := by
  obtain ⟨elems, keeps⟩ := stands
  have walked := Links.elements_returns keeps.holds.strung keeps.alive keeps.length_le
  rw [HeaderMemory.traverse, keeps.holds.head, walked, Checked.ok_bind]
  have read : ∀ (elems : List Nat) (message : HeaderLists),
      elems.map (fun elem => memory.containers (memory.data elem)) = message.map some →
        elems.mapM (fun elem => Checked.deref (memory.containers (memory.data elem))) = .ok message := by
    intro elems
    induction elems with
    | nil =>
        intro message same
        rw [List.map_eq_nil_iff.mp same.symm]
        rfl
    | cons elem rest ih =>
        intro message same
        obtain ⟨container, behind, rfl, own, others⟩ := List.map_eq_cons_iff.mp same.symm
        have own : memory.containers (memory.data elem) = some container := own.symm
        rw [List.mapM_cons, own, Checked.deref_some, Checked.ok_bind, ih behind others.symm]
        rfl
  exact read elems message keeps.filed

theorem Stands.getHeaders (stands : memory.Stands message) (name : String) :
    memory.getHeaders name = .ok (message.getHeaders name) := by
  obtain ⟨elems, keeps⟩ := stands
  unfold HeaderMemory.getHeaders HeaderLists.getHeaders
  rcases named_or_absent message name with ⟨front, container, rest, rfl, named, others⟩ | nowhere
  · obtain ⟨before, elem, behind, rfl, inFront, own, inBack⟩ := keeps.split
    have found : (front ++ container :: rest).find? (HeadersContainer.isNamed name) = some container :=
      List.find?_eq_some_iff_append.mpr ⟨named, front, rest, rfl, fun other among => by simp [others other among]⟩
    rw [keeps.headersContainerGet inFront own others named, Checked.ok_bind, found]
    dsimp only
    rw [own]
    rfl
  · have absent : message.find? (HeadersContainer.isNamed name) = none :=
      List.find?_eq_none.mpr fun container among => by simp [nowhere container among]
    rw [keeps.headersContainerGet_none nowhere, absent]
    rfl

theorem Stands.serves (stands : memory.Stands message) : memory.Serves message := by
  constructor
  · intro events
    rcases stands.run events with ⟨after, expected, ended, same, kept⟩ | ⟨stopped, same⟩
    · rw [ended, same]
      exact kept.traverse
    · rw [stopped, same]
      rfl
  · intro events name
    rcases stands.run events with ⟨after, expected, ended, same, kept⟩ | ⟨stopped, same⟩
    · rw [ended, same]
      exact kept.getHeaders name
    · rw [stopped, same]
      rfl
  · intro events
    rcases stands.run events with ⟨after, expected, ended, same, kept⟩ | ⟨stopped, same⟩
    · rw [ended, same, Checked.ok_bind, Checked.ok_bind, HeaderMemory.clone, kept.traverse, Checked.ok_bind]
    · rw [stopped, same]
      rfl

/-- Every header stands in a container of its name. -/
def Coherent (message : HeaderLists) : Prop :=
  ∀ container ∈ message, ∀ header ∈ container.headerList, canonical header.name = canonical container.name

/-- The headers with other names, in any case or compact form. -/
def without (message : HeaderLists) (name : String) : List Header :=
  message.headers.filter fun header => canonical header.name ≠ canonical name

/-- The first container whose name is the same up to letter case is not the first one of the message, and no header with
the name stands outside it. -/
def StandsBehind (message : HeaderLists) (name : String) : Prop :=
  ∃ front container rest, message = front ++ container :: rest ∧ front ≠ [] ∧ container.isNamed name = true ∧
    (∀ other ∈ front, other.isNamed name = false) ∧
      ∀ header ∈ HeaderLists.headers (front ++ rest), canonical header.name ≠ canonical name

section
variable {front rest : HeaderLists} {container : HeadersContainer}

theorem without_eq_headers : without message name = message.headers ↔
    ∀ header ∈ message.headers, canonical header.name ≠ canonical name := by
  simp [without]

/-- A container with the name holds no other header. -/
theorem without_named (coherent : Coherent (front ++ container :: rest)) (named : container.isNamed name = true) :
    without (front ++ container :: rest) name = without (front ++ rest) name := by
  have own : container.headerList.filter (fun header => canonical header.name ≠ canonical name) = [] := by
    apply List.filter_eq_nil_iff.mpr
    intro header among
    rw [coherent container (List.mem_append_right _ List.mem_cons_self) header among, canonical_congr named]
    simp
  simp only [without, HeaderLists.headers, List.flatMap_append, List.flatMap_cons, List.filter_append, own,
    List.nil_append]

/-- The first container with the name is the one that is found. -/
theorem standsBehind_iff (others : ∀ other ∈ front, other.isNamed name = false)
    (named : container.isNamed name = true) :
    StandsBehind (front ++ container :: rest) name ↔
      front ≠ [] ∧ ∀ header ∈ HeaderLists.headers (front ++ rest), canonical header.name ≠ canonical name := by
  constructor
  · rintro ⟨before, own, behind, same, nonempty, ownNamed, before_, absent⟩
    have place : (front ++ container :: rest).findIdx? (HeadersContainer.isNamed name) = some front.length :=
      findIdx_named others named
    rw [same, findIdx_named before_ ownNamed] at place
    obtain ⟨rfl, tails⟩ := List.append_inj same (Option.some.inj place).symm
    obtain ⟨-, rfl⟩ := List.cons_eq_cons.mp tails
    exact ⟨nonempty, absent⟩
  · rintro ⟨nonempty, absent⟩
    exact ⟨front, container, rest, rfl, nonempty, named, others, absent⟩

/-- A container that gets headers of its name, or a new one, leaves the message coherent. -/
theorem Coherent.updateOrCreate (coherent : Coherent message) {change : List Header → List Header}
    (fitting : ∀ headers, ∀ header ∈ change headers, header ∈ headers ∨ canonical header.name = canonical name) :
    Coherent (message.updateOrCreate name change) := by
  rcases named_or_absent message name with ⟨front, container, rest, rfl, named, others⟩ | nowhere
  · rw [HeaderLists.updateOrCreate, findIdx_named others named]
    dsimp only
    rw [modify_named]
    intro other among header inside
    rcases List.mem_append.mp among with before | behind
    · exact coherent other (List.mem_append_left _ before) header inside
    · rcases List.mem_cons.mp behind with rfl | behind
      · rcases fitting _ header inside with known | fits
        · exact coherent container (List.mem_append_right _ List.mem_cons_self) header known
        · exact fits.trans (canonical_congr named).symm
      · exact coherent other (List.mem_append_right _ (List.mem_cons_of_mem _ behind)) header inside
  · rw [HeaderLists.updateOrCreate, List.findIdx?_eq_none_iff.mpr nowhere]
    intro other among header inside
    rcases List.mem_append.mp among with before | new
    · exact coherent other before header inside
    · obtain rfl := List.mem_singleton.mp new
      rcases fitting [] header inside with impossible | fits
      · cases impossible
      · exact fits.trans (canonical_expandName name).symm

theorem Coherent.updateFound (coherent : Coherent message) {change : List Header → List Header}
    (fewer : ∀ headers, ∀ header ∈ change headers, header ∈ headers) : Coherent (message.updateFound name change) := by
  rcases named_or_absent message name with ⟨front, container, rest, rfl, named, others⟩ | nowhere
  · have changed : Coherent (HeaderLists.updateOrCreate (front ++ container :: rest) name change) :=
      coherent.updateOrCreate fun headers header among => .inl (fewer headers header among)
    rw [HeaderLists.updateOrCreate, findIdx_named others named] at changed
    rw [HeaderLists.updateFound, findIdx_named others named]
    exact changed
  · rw [HeaderLists.updateFound, List.findIdx?_eq_none_iff.mpr nowhere]
    exact coherent

theorem Coherent.handle (coherent : Coherent message) (event : HeaderLists.Event) :
    Checked.OnReturn (message.handle event) Coherent := by
  cases event with
  | addFirst header =>
      refine Checked.onReturn_pure.mpr (coherent.updateOrCreate fun headers other among => ?_)
      rcases List.mem_cons.mp among with rfl | known
      · exact .inr rfl
      · exact .inl known
  | addHeader header =>
      refine Checked.onReturn_pure.mpr (coherent.updateOrCreate fun headers other among => ?_)
      rcases List.mem_append.mp among with known | own
      · exact .inl known
      · exact .inr (by rw [List.mem_singleton.mp own])
  | addHeaders headers =>
      cases headers with
      | nil => exact Checked.onReturn_pure.mpr coherent
      | cons first others =>
          unfold HeaderLists.handle HeaderLists.addHeaders
          dsimp only
          split
          next alike =>
            refine Checked.onReturn_pure.mpr (coherent.updateOrCreate fun headers other among => ?_)
            rcases List.mem_append.mp among with known | own
            · exact .inl known
            · exact .inr (by rw [of_decide_eq_true (List.all_eq_true.mp alike other own)])
          next => exact Checked.onReturn_error
  | setHeader header =>
      refine Checked.onReturn_pure.mpr (coherent.updateOrCreate fun headers other among => ?_)
      exact .inr (by rw [List.mem_singleton.mp among])
  | removeFirst name =>
      exact Checked.onReturn_pure.mpr (coherent.updateFound fun headers header => List.mem_of_mem_tail)
  | removeLast name =>
      exact Checked.onReturn_pure.mpr (coherent.updateFound fun headers _ among =>
        (List.dropLast_sublist headers).subset among)

theorem Coherent.run (coherent : Coherent message) (events : List HeaderLists.Event) :
    Checked.OnReturn (events.foldlM HeaderLists.handle message) Coherent := by
  induction events generalizing message with
  | nil => exact Checked.onReturn_pure.mpr coherent
  | cons event events ih =>
      rw [List.foldlM_cons, Checked.onReturn_bind]
      exact (coherent.handle event).mono fun after kept => ih kept

end

/-- A message whose first element has been freed serves nothing. -/
theorem not_serves_freed {elem : Nat} (first : memory.headerList = some elem) (freed : memory.live elem = false)
    (message : HeaderLists) : ¬memory.Serves message := by
  intro serves
  have walked : memory.traverse = .ok message := serves.traversed []
  rw [HeaderMemory.traverse, first] at walked
  cases bound : memory.allocated with
  | zero =>
      rw [bound] at walked
      cases walked
  | succ smaller =>
      rw [bound, Links.elements, Links.access, freed] at walked
      cases walked

/-- A removed name leaves exactly the headers with other names, in a message that can be used, if and only if they stand
in the container that is found, which is not the first one. -/
theorem removeHeader_serves (stands : memory.Stands message) (coherent : Coherent message)
    (present : ∃ header ∈ message.headers, canonical header.name = canonical name) :
    Checked.Returns (memory.removeHeader name) fun after =>
      (∃ left : HeaderLists, after.Serves left ∧ left.headers = without message name) ↔ StandsBehind message name := by
  obtain ⟨elems, keeps⟩ := stands
  rcases named_or_absent message name with ⟨front, container, rest, rfl, named, others⟩ | nowhere
  · obtain ⟨before, elem, behind, rfl, inFront, own, inBack⟩ := keeps.split
    cases before with
    | nil =>
        obtain rfl : front = [] := List.map_eq_nil_iff.mp inFront.symm
        refine (keeps.removeHeader_first own named).mono ?_
        rintro after ⟨first, freed⟩
        refine iff_of_false ?_ fun behind => ((standsBehind_iff others named).mp behind).1 rfl
        rintro ⟨left, serves, -⟩
        exact not_serves_freed first freed left serves
    | cons first before =>
        refine (keeps.removeHeader_behind inFront own inBack others named).mono ?_
        intro after kept
        have nonempty : front ≠ [] := by
          rintro rfl
          cases inFront
        have served : after.Serves (front ++ rest) := Stands.serves ⟨_, kept⟩
        rw [standsBehind_iff others named, without_named coherent named, ← without_eq_headers]
        constructor
        · rintro ⟨left, serves, same⟩
          have traversed := (serves.traversed []).symm.trans (served.traversed [])
          rw [Except.ok.inj traversed] at same
          exact ⟨nonempty, same.symm⟩
        · rintro ⟨-, same⟩
          exact ⟨front ++ rest, served, same.symm⟩
  · rw [HeaderMemory.removeHeader, keeps.headersContainerGet_none nowhere, Checked.ok_bind]
    refine Checked.returns_pure.mpr (iff_of_false ?_ ?_)
    · rintro ⟨left, serves, same⟩
      have served : memory.Serves message := Stands.serves ⟨_, keeps⟩
      have traversed := (serves.traversed []).symm.trans (served.traversed [])
      rw [Except.ok.inj traversed] at same
      obtain ⟨header, among, named⟩ := present
      exact without_eq_headers.mp same.symm header among named
    · rintro ⟨front, container, rest, rfl, -, named, -⟩
      rw [nowhere container (List.mem_append_right _ List.mem_cons_self)] at named
      cases named

theorem stands_empty : ({} : HeaderMemory).Stands [] :=
  ⟨[], ⟨rfl, trivial, List.nodup_nil⟩, by simp, by simp, List.nodup_nil, rfl⟩

/-- A message that headers are added to stands in memory. -/
theorem run_stands (events : List HeaderLists.Event) (ended : events.foldlM HeaderLists.handle [] = .ok message) :
    ∃ memory, events.foldlM handle {} = .ok memory ∧ memory.Stands message ∧ Coherent message := by
  have empty : Coherent [] := fun _ among => absurd among List.not_mem_nil
  have coherent := (empty.run events).elim ended
  rcases stands_empty.run events with ⟨memory, expected, run, same, stands⟩ | ⟨-, stopped⟩
  · rw [ended] at same
    cases same
    exact ⟨memory, run, stands, coherent⟩
  · rw [ended] at stopped
    cases stopped

theorem removeHeader_serves_subject :
    ∃ memory, [.addHeader ⟨"Via", "one"⟩, .addHeader ⟨"s", "two"⟩, .addHeader ⟨"To", "three"⟩].foldlM handle {} =
        .ok memory ∧
      Checked.Returns (memory.removeHeader "subject") fun after =>
        ∃ left : HeaderLists, after.Serves left ∧ left.headers = [⟨"Via", "one"⟩, ⟨"To", "three"⟩] := by
  obtain ⟨memory, ended, stands, coherent⟩ := run_stands [.addHeader ⟨"Via", "one"⟩, .addHeader ⟨"s", "two"⟩,
    .addHeader ⟨"To", "three"⟩] rfl
  refine ⟨memory, ended, (@removeHeader_serves memory _ "subject" stands coherent ⟨⟨"s", "two"⟩, ?_, ?_⟩).mono ?_⟩
  · decide
  · decide
  · intro after serves
    refine serves.mpr ⟨[⟨"Via", [⟨"Via", "one"⟩]⟩], _, _, rfl, ?_⟩
    decide

/-- The only container of a message is freed with its element, which the message keeps. Of two containers for the
compact name of Subject, one is left. A header is not found under its compact name. -/
theorem not_removeHeader_serves :
    (∃ memory, [.addHeader ⟨"Subject", "one"⟩].foldlM handle {} = .ok memory ∧
      memory.Stands [⟨"Subject", [⟨"Subject", "one"⟩]⟩] ∧
      Checked.Returns (memory.removeHeader "Subject") fun after =>
        after.traverse = .error .nullPointer ∧ ∀ left, ¬after.Serves left) ∧
    (∃ memory, [.addHeader ⟨"Via", "one"⟩, .addHeader ⟨"s", "two"⟩, .addHeader ⟨"s", "three"⟩].foldlM handle {} =
        .ok memory ∧
      memory.Stands [⟨"Via", [⟨"Via", "one"⟩]⟩, ⟨"Subject", [⟨"s", "two"⟩]⟩, ⟨"Subject", [⟨"s", "three"⟩]⟩] ∧
      Checked.Returns (memory.removeHeader "Subject") fun after =>
        after.traverse = .ok [⟨"Via", [⟨"Via", "one"⟩]⟩, ⟨"Subject", [⟨"s", "three"⟩]⟩]) ∧
    ∃ memory, [.addHeader ⟨"Via", "one"⟩, .addHeader ⟨"s", "two"⟩].foldlM handle {} = .ok memory ∧
      memory.Stands [⟨"Via", [⟨"Via", "one"⟩]⟩, ⟨"Subject", [⟨"s", "two"⟩]⟩] ∧
      Checked.Returns (memory.removeHeader "s") fun after =>
        after.traverse = .ok [⟨"Via", [⟨"Via", "one"⟩]⟩, ⟨"Subject", [⟨"s", "two"⟩]⟩] := by
  refine ⟨?_, ?_, ?_⟩
  · obtain ⟨memory, ended, stands, -⟩ := run_stands [.addHeader ⟨"Subject", "one"⟩] rfl
    cases ended
    refine ⟨_, rfl, stands, _, rfl, by decide, fun left serves => ?_⟩
    cases serves.traversed []
  · obtain ⟨memory, ended, stands, -⟩ := run_stands [.addHeader ⟨"Via", "one"⟩, .addHeader ⟨"s", "two"⟩,
      .addHeader ⟨"s", "three"⟩] rfl
    cases ended
    exact ⟨_, rfl, stands, _, rfl, by decide⟩
  · obtain ⟨memory, ended, stands, -⟩ := run_stands [.addHeader ⟨"Via", "one"⟩, .addHeader ⟨"s", "two"⟩] rfl
    cases ended
    exact ⟨_, rfl, stands, _, rfl, by decide⟩

end HeaderMemory

end BelleSip
