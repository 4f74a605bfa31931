import BelleSip.MainLoop.Sources
import Mathlib.Data.List.Perm.Subperm

/-
This file proves what iterations of the main loop keep, whatever the callbacks do, as long as no source is added that is
the only one of the list, or that was removed before its turn.
-/

namespace BelleSip.MainLoop

open Foundation

/-- The sources to which a function of the loop has a reference. -/
def Frame.owned : Frame → List Nat
  | .removing source => [source]
  | .iterating queue _ => queue
  | .notifying source queue _ => source :: queue
  | .finishing source queue _ => source :: queue

/-- The sources that await their turn. -/
def Frame.queue : Frame → List Nat
  | .removing _ => []
  | .iterating queue _ => queue
  | .notifying _ queue _ => queue
  | .finishing _ queue _ => queue

def Frame.isIteration : Frame → Bool
  | .removing _ => false
  | _ => true

namespace Loop

def owned (loop : Loop) : List Nat := loop.frames.flatMap Frame.owned

def awaiting (loop : Loop) : List Nat := loop.frames.flatMap Frame.queue

/-- The list has the elements, each reference has its owner, and the sources of the only iteration await their turns.
The references to `extra` are owned by the function that is being executed. -/
structure Sound (loop : Loop) (elems extra : List Nat) : Prop where
  holds : Links.Holds loop.links loop.sources elems
  counted : loop.nsources = elems.length
  unlinked : ∀ source ∉ elems, loop.links source = {}
  references : ∀ source, loop.refs source = loop.held source + (elems ++ (loop.owned ++ extra)).count source
  fresh : ∀ source, loop.created ≤ source → loop.refs source = 0
  single : loop.frames.countP Frame.isIteration = if loop.inIterate then 1 else 0
  distinct : loop.awaiting.Nodup
  unnotified : ∀ source ∈ loop.awaiting, source ∉ loop.notified
  cancelled : ∀ source ∈ loop.awaiting, source ∈ loop.revoked → (loop.source source).cancelled = true

variable {loop : Loop} {elems extra : List Nat} {source : Nat}

theorem Sound.live_of_mem (sound : loop.Sound elems extra) (among : source ∈ elems ++ (loop.owned ++ extra)) :
    loop.live source = true := by
  have positive := List.count_pos_iff.mpr among
  have references := sound.references source
  rw [live, decide_eq_true_eq]
  omega

theorem Sound.live_elems (sound : loop.Sound elems extra) : ∀ source ∈ elems, loop.live source = true :=
  fun _ among => sound.live_of_mem (List.mem_append_left _ among)

theorem owned_of_awaiting (waits : source ∈ loop.awaiting) : source ∈ loop.owned := by
  obtain ⟨frame, among, queued⟩ := List.mem_flatMap.mp waits
  refine List.mem_flatMap.mpr ⟨frame, among, ?_⟩
  cases frame with
  | removing other => exact absurd queued List.not_mem_nil
  | iterating queue cur => exact queued
  | notifying other queue cur => exact List.mem_cons_of_mem _ queued
  | finishing other queue cur => exact List.mem_cons_of_mem _ queued

/-- There are no more elements than sources that were created. -/
theorem Sound.length_le (sound : loop.Sound elems extra) : elems.length ≤ loop.created := by
  have subset : elems ⊆ List.range loop.created := by
    intro source among
    have live := sound.live_elems source among
    rw [List.mem_range]
    by_contra beyond
    rw [Loop.live, sound.fresh source (by omega)] at live
    exact absurd live (by decide)
  have shorter := (List.subperm_of_subset sound.holds.nodup subset).length_le
  rwa [List.length_range] at shorter

theorem Sound.elements (sound : loop.Sound elems extra) :
    Links.elements loop.live loop.links loop.created loop.sources = .ok elems := by
  rw [sound.holds.head]
  exact Links.elements_returns sound.holds.strung sound.live_elems sound.length_le

theorem modify_source_self (loop : Loop) (source : Nat) (change : Source → Source) :
    (loop.modify source change).source source = change (loop.source source) :=
  Function.update_self _ _ _

theorem modify_source_of_ne {other : Nat} (differs : other ≠ source) (loop : Loop) (change : Source → Source) :
    (loop.modify source change).source other = loop.source other :=
  Function.update_of_ne differs _ _

theorem access_of_live (live : loop.live source = true) : loop.access source = .ok () := by
  rw [Loop.access, Links.access_live live]

theorem ref_of_live (live : loop.live source = true) :
    loop.ref source = .ok { loop with refs := Function.update loop.refs source (loop.refs source + 1) } := by
  rw [Loop.ref, access_of_live live]
  rfl

theorem countP_iteration_zero {frames : List Frame} (none : frames.countP Frame.isIteration = 0) :
    frames.flatMap Frame.queue = [] := by
  rw [List.flatMap_eq_nil_iff]
  intro frame among
  have other := List.countP_eq_zero.mp none frame among
  cases frame with
  | removing source => rfl
  | iterating queue cur => exact absurd rfl other
  | notifying source queue cur => exact absurd rfl other
  | finishing source queue cur => exact absurd rfl other

/-- A source of the list without neighbours is its only one. -/
theorem first_of_unlinked (holds : Links.Holds loop.links loop.sources elems) (among : source ∈ elems)
    (unlinked : loop.links source = {}) : loop.sources = some source := by
  obtain ⟨before, after, rfl⟩ := List.append_of_mem among
  have own := (Links.strung_append.mp holds.strung).2.1
  rw [unlinked, Option.or_none, Option.or_none] at own
  obtain ⟨next, prev⟩ := Link.mk.inj own
  rw [holds.head, List.getLast?_eq_none_iff.mp prev.symm]
  rfl

/-- A reference that its owner drops. -/
theorem unref_returns (sound : loop.Sound elems (source :: extra)) :
    Checked.Returns (loop.unref source) fun after => after.Sound elems extra := by
  have live : loop.live source = true := sound.live_of_mem (by simp)
  have references := sound.references source
  have linked : ¬(loop.refs source = 1 ∧ loop.links source ≠ {}) := by
    rintro ⟨last, neighbours⟩
    have among : source ∈ elems := by
      by_contra absent
      exact neighbours (sound.unlinked source absent)
    have positive := List.count_pos_iff.mpr among
    simp only [List.count_append, List.count_cons_self] at references
    omega
  rw [unref, Checked.returns_bind, access_of_live live, Checked.returns_ok, if_neg linked, Checked.returns_pure]
  refine { sound with references := ?_, fresh := ?_ }
  · intro other
    have references := sound.references other
    by_cases same : other = source
    · rw [same] at references ⊢
      simp only [Function.update_self, List.count_append, List.count_cons_self] at references ⊢
      show loop.refs source - 1 = loop.held source + (elems.count source + (loop.owned.count source + _))
      omega
    · have differs : source ≠ other := fun equal => same equal.symm
      simp only [Function.update_of_ne same, List.count_append, List.count_cons_of_ne differs] at references ⊢
      exact references
  · intro other beyond
    have none := sound.fresh other beyond
    by_cases same : other = source
    · rw [same] at none
      simp [same, none]
    · simpa [Function.update_of_ne same] using none

/-- A source that is removed leaves the list, and the reference of the list belongs to the function. -/
theorem removeSource_returns (sound : loop.Sound elems extra) (live : loop.live source = true) :
    Checked.Returns (loop.removeSource source) fun after => ∃ others, after.Sound others extra := by
  rw [removeSource, Checked.returns_bind, access_of_live live, Checked.returns_ok]
  split
  · exact Checked.returns_pure.mpr ⟨elems, sound⟩
  · next linked =>
      have among : source ∈ elems := by
        by_contra absent
        apply linked
        refine ⟨sound.unlinked source absent, fun first => absent ?_⟩
        rw [sound.holds.head] at first
        exact List.mem_of_mem_head? first
      obtain ⟨before, rest, rfl⟩ := List.append_of_mem among
      rw [Checked.returns_bind]
      refine (Links.removeLink_returns sound.holds sound.live_elems).mono ?_
      rintro ⟨links, sources⟩ ⟨holds, alone, others⟩
      dsimp only at holds alone others
      rw [Checked.returns_pure]
      refine ⟨before ++ rest, { sound with
        holds := holds, counted := ?_, unlinked := ?_, references := ?_, single := ?_, cancelled := ?_ }⟩
      · have counted := sound.counted
        show loop.nsources - 1 = _
        rw [counted]
        simp only [List.length_append, List.length_cons]
        omega
      · intro other absent
        show links other = {}
        by_cases same : other = source
        · rw [same]
          exact alone
        · have absentToo : other ∉ before ++ source :: rest := by
            simp only [List.mem_append, List.mem_cons] at absent ⊢
            tauto
          rw [others other absentToo]
          exact sound.unlinked other absentToo
      · intro other
        show loop.refs other = loop.held other + (before ++ rest ++ (([source] ++ loop.owned) ++ extra)).count other
        rw [sound.references other]
        simp only [List.count_append, List.count_cons, List.count_nil]
        omega
      · have single := sound.single
        rw [List.countP_cons]
        exact single
      · intro other waits gone
        show (Function.update loop.source source _ other).cancelled = true
        by_cases same : other = source
        · rw [same, Function.update_self]
        · rw [Function.update_of_ne same]
          exact sound.cancelled other waits ((List.mem_cons.mp gone).resolve_left same)

/-- A source without neighbours that is not the only one is appended to the list. -/
theorem addSource_returns (sound : loop.Sound elems extra) (live : loop.live source = true)
    (unlinked : loop.links source = {}) (notFirst : loop.sources ≠ some source) (free : source ∉ loop.awaiting)
    (now : Int) :
    Checked.Returns (loop.addSource source now) fun after =>
      after.Sound (elems ++ [source]) extra ∧ after.held = loop.held := by
  have absent : source ∉ elems := fun among => notFirst (first_of_unlinked sound.holds among unlinked)
  rw [addSource, Checked.returns_bind, access_of_live live, Checked.returns_ok, if_neg (not_not_intro unlinked),
    Checked.returns_bind, ref_of_live live, Checked.returns_ok]
  have stays : ∀ other, loop.live other = true →
      decide (0 < Function.update loop.refs source (loop.refs source + 1) other) = true := by
    intro other alive
    by_cases same : other = source
    · simp [same]
    · rw [Function.update_of_ne same]
      exact alive
  rw [Checked.returns_bind]
  refine (Links.appendLink_returns sound.holds absent unlinked
    (fun other among => stays other (sound.live_elems other among)) (stays source live) sound.length_le).mono ?_
  rintro ⟨links, sources⟩ ⟨holds, others⟩
  dsimp only at holds others
  rw [Checked.returns_pure]
  refine ⟨{ sound with
    holds := holds, counted := ?_, unlinked := ?_, references := ?_, fresh := ?_, cancelled := ?_ }, rfl⟩
  · show loop.nsources + 1 = _
    rw [sound.counted, List.length_append]
    rfl
  · intro other outside
    show links other = {}
    rw [others other outside]
    exact sound.unlinked other fun among => outside (List.mem_append_left _ among)
  · intro other
    show Function.update loop.refs source (loop.refs source + 1) other =
      loop.held other + (elems ++ [source] ++ (loop.owned ++ extra)).count other
    have references := sound.references other
    by_cases same : other = source
    · rw [same] at references ⊢
      rw [Function.update_self, references]
      simp only [List.count_append, List.count_cons_self, List.count_nil]
      omega
    · have differs : source ≠ other := fun equal => same equal.symm
      rw [Function.update_of_ne same, references]
      simp only [List.count_append, List.count_cons_of_ne differs, List.count_nil, Nat.add_zero]
  · intro other beyond
    show Function.update loop.refs source (loop.refs source + 1) other = 0
    have other_ne : other ≠ source := by
      rintro rfl
      rw [Loop.live, sound.fresh other beyond] at live
      exact absurd live (by decide)
    rw [Function.update_of_ne other_ne]
    exact sound.fresh other beyond
  · intro other waits gone
    show (Function.update loop.source source _ other).cancelled = true
    have other_ne : other ≠ source := fun same => free (same ▸ waits)
    rw [Function.update_of_ne other_ne]
    exact sound.cancelled other waits gone

/-- The records of the sources change, but no source is cancelled or revived. -/
theorem Sound.withSource (sound : loop.Sound elems extra) {records : Nat → Source}
    (same : ∀ source, (records source).cancelled = (loop.source source).cancelled) :
    Sound { loop with source := records } elems extra :=
  { sound with cancelled := fun source waits gone => (same source).trans (sound.cancelled source waits gone) }

theorem Sound.modify (sound : loop.Sound elems extra) {change : Source → Source}
    (same : ∀ record, (change record).cancelled = record.cancelled) :
    (loop.modify source change).Sound elems extra := by
  apply sound.withSource
  intro other
  by_cases equal : other = source
  · rw [equal, Function.update_self, same]
  · rw [Function.update_of_ne equal]

theorem Sound.created_not_mem (sound : loop.Sound elems extra) : loop.created ∉ elems ++ (loop.owned ++ extra) := by
  intro among
  have live := sound.live_of_mem among
  rw [Loop.live, sound.fresh loop.created (Nat.le_refl _)] at live
  exact absurd live (by decide)

theorem newSource_sound (sound : loop.Sound elems extra) (fd : Int) (events : Nat) (timeout : UInt32) :
    (loop.newSource fd events timeout).Sound elems extra := by
  have absent := sound.created_not_mem
  have free : loop.created ∉ loop.awaiting := fun waits =>
    absent (List.mem_append_right _ (List.mem_append_left _ (owned_of_awaiting waits)))
  refine { sound with references := ?_, fresh := ?_, cancelled := ?_ }
  · intro other
    show Function.update loop.refs loop.created 1 other =
      Function.update loop.held loop.created 1 other + (elems ++ (loop.owned ++ extra)).count other
    by_cases same : other = loop.created
    · rw [same, Function.update_self, Function.update_self, List.count_eq_zero_of_not_mem absent]
    · rw [Function.update_of_ne same, Function.update_of_ne same]
      exact sound.references other
  · intro other beyond
    show Function.update loop.refs loop.created 1 other = 0
    have beyond : loop.created + 1 ≤ other := beyond
    rw [Function.update_of_ne (by omega)]
    exact sound.fresh other (by omega)
  · intro other waits gone
    show (Function.update loop.source loop.created _ other).cancelled = true
    have other_ne : other ≠ loop.created := by
      rintro rfl
      exact free waits
    rw [Function.update_of_ne other_ne]
    exact sound.cancelled other waits gone

theorem ref_sound (sound : loop.Sound elems extra) (live : loop.live source = true) :
    Sound { loop with refs := Function.update loop.refs source (loop.refs source + 1) } elems (source :: extra) := by
  refine { sound with references := ?_, fresh := ?_ }
  · intro other
    show Function.update loop.refs source (loop.refs source + 1) other =
      loop.held other + (elems ++ (loop.owned ++ source :: extra)).count other
    have references := sound.references other
    by_cases same : other = source
    · rw [same] at references ⊢
      rw [Function.update_self, references]
      simp only [List.count_append, List.count_cons_self]
      omega
    · have differs : source ≠ other := fun equal => same equal.symm
      rw [Function.update_of_ne same, references]
      simp only [List.count_append, List.count_cons_of_ne differs]
  · intro other beyond
    show Function.update loop.refs source (loop.refs source + 1) other = 0
    have other_ne : other ≠ source := by
      rintro rfl
      rw [Loop.live, sound.fresh other beyond] at live
      exact absurd live (by decide)
    rw [Function.update_of_ne other_ne]
    exact sound.fresh other beyond

/-- A reference of the application becomes one of the function that drops it. -/
theorem Sound.give (sound : loop.Sound elems extra) (holds : 0 < loop.held source) :
    Sound { loop with held := Function.update loop.held source (loop.held source - 1) } elems (source :: extra) := by
  refine { sound with references := ?_ }
  intro other
  show loop.refs other = Function.update loop.held source (loop.held source - 1) other +
    (elems ++ (loop.owned ++ source :: extra)).count other
  rw [sound.references other]
  by_cases same : other = source
  · rw [same, Function.update_self]
    simp only [List.count_append, List.count_cons_self]
    omega
  · have differs : source ≠ other := fun equal => same equal.symm
    rw [Function.update_of_ne same]
    simp only [List.count_append, List.count_cons_of_ne differs]

/-- A reference of a function becomes one of the application. -/
theorem Sound.take (sound : loop.Sound elems (source :: extra)) :
    Sound { loop with held := Function.update loop.held source (loop.held source + 1) } elems extra := by
  refine { sound with references := ?_ }
  intro other
  show loop.refs other = Function.update loop.held source (loop.held source + 1) other +
    (elems ++ (loop.owned ++ extra)).count other
  rw [sound.references other]
  by_cases same : other = source
  · rw [same, Function.update_self]
    simp only [List.count_append, List.count_cons_self]
    omega
  · have differs : source ≠ other := fun equal => same equal.symm
    rw [Function.update_of_ne same]
    simp only [List.count_append, List.count_cons_of_ne differs]

theorem drop_returns (sound : loop.Sound elems extra) (holds : 0 < loop.held source) :
    Checked.Returns (loop.drop source) fun after => after.Sound elems extra :=
  unref_returns (sound.give holds)

theorem doLater_returns (sound : loop.Sound elems extra) (now : Int) :
    Checked.Returns (loop.doLater now) fun after => ∃ others, after.Sound others extra := by
  have created := newSource_sound sound (-1) 0 0
  have absent := sound.created_not_mem
  have unlinked := sound.unlinked loop.created fun among => absent (List.mem_append_left _ among)
  have notFirst : loop.sources ≠ some loop.created := by
    intro first
    rw [sound.holds.head] at first
    exact absent (List.mem_append_left _ (List.mem_of_mem_head? first))
  have free : loop.created ∉ loop.awaiting := fun waits =>
    absent (List.mem_append_right _ (List.mem_append_left _ (owned_of_awaiting waits)))
  have live : (loop.newSource (-1) 0 0).live loop.created = true := by simp [Loop.live, newSource]
  rw [doLater, Checked.returns_bind]
  refine (addSource_returns created live unlinked notFirst free now).mono ?_
  rintro added ⟨sound, held⟩
  have marked : (added.modify loop.created fun source => { source with oneshot := true }).Sound _ extra :=
    sound.modify fun _ => rfl
  refine (drop_returns marked ?_).mono fun after sound => ⟨_, sound⟩
  show 0 < added.held loop.created
  rw [held]
  simp [newSource]

theorem cancelSource_returns (sound : loop.Sound elems extra) :
    Checked.Returns (loop.cancelSource source) fun after => after.Sound elems extra := by
  rw [cancelSource, sound.elements, Checked.ok_bind]
  split
  · rw [Checked.returns_pure]
    refine { sound with cancelled := ?_ }
    intro other waits gone
    show (Function.update loop.source source _ other).cancelled = true
    by_cases same : other = source
    · rw [same, Function.update_self]
    · rw [Function.update_of_ne same]
      exact sound.cancelled other waits ((List.mem_cons.mp gone).resolve_left same)
  · exact Checked.returns_pure.mpr sound

/-- The index of a source that is polled is one of the entries. -/
def Indexed (loop : Loop) (table : List PollFd) (source : Nat) : Prop :=
  (loop.source source).cancelled = false → (loop.source source).fd ≠ -1 → (loop.source source).index < table.length

/-- The table has room for the entries, and the index of each source is that of an entry. -/
theorem prepare_returns {size : Int} {table : List PollFd} {rest : List Nat}
    (alive : ∀ source ∈ rest, loop.live source = true) (room : (table.length + rest.length : Int) ≤ size) :
    Checked.Returns (prepare size loop table rest) fun prepared =>
      ∃ records, prepared.1 = { loop with source := records } ∧
        (∀ source, (records source).cancelled = (loop.source source).cancelled) ∧
        ∀ source, source ∈ rest ∨ loop.Indexed table source → prepared.1.Indexed prepared.2 source := by
  induction rest generalizing loop table with
  | nil =>
      rw [prepare]
      refine Checked.returns_ok.mpr ⟨loop.source, rfl, fun _ => rfl, ?_⟩
      rintro source (among | indexed)
      · exact absurd among List.not_mem_nil
      · exact indexed
  | cons source rest ih =>
      have aliveRest : ∀ other ∈ rest, loop.live other = true :=
        fun other among => alive other (List.mem_cons_of_mem _ among)
      rw [List.length_cons, Int.natCast_succ] at room
      rw [prepare, Checked.returns_bind, access_of_live (alive source List.mem_cons_self), Checked.returns_ok]
      dsimp only
      split
      · rw [if_pos (by omega)]
        have length : (table ++ [(⟨(loop.source source).fd, (loop.source source).events⟩ : PollFd)]).length =
            table.length + 1 := by simp
        refine (@ih (loop.modify source fun record => { record with index := table.length }) _ aliveRest ?_).mono ?_
        · rw [length]
          omega
        rintro prepared ⟨records, same, cancelled, indexed⟩
        refine ⟨records, same, fun other => (cancelled other).trans ?_, fun other known => indexed other ?_⟩
        · by_cases equal : other = source
          · rw [equal, modify_source_self]
          · rw [modify_source_of_ne equal]
        · by_cases equal : other = source
          · refine .inr fun _ _ => ?_
            rw [equal, modify_source_self, length]
            exact Nat.lt_succ_self _
          · rcases known with among | known
            · exact .inl ((List.mem_cons.mp among).resolve_left equal)
            · refine .inr fun active polled => ?_
              rw [modify_source_of_ne equal] at active polled ⊢
              have bound := known active polled
              omega
      · next skipped =>
          refine (ih aliveRest (by omega)).mono ?_
          rintro prepared ⟨records, same, cancelled, indexed⟩
          refine ⟨records, same, cancelled, fun other known => indexed other ?_⟩
          rcases known with among | known
          · rcases List.mem_cons.mp among with rfl | among
            · refine .inr fun active polled => absurd ?_ skipped
              simp [active, polled]
            · exact .inl among
          · exact .inr known

theorem pollSource_returns {table : List PollFd} {polled : Nat → Nat} {record : Source}
    (indexed : record.fd ≠ -1 → record.index < table.length) :
    Checked.Returns (pollSource table polled record) fun found =>
      found.cancelled = record.cancelled ∧ found.fd = record.fd ∧ found.index = record.index := by
  rw [pollSource]
  split
  · exact Checked.returns_ok.mpr ⟨rfl, rfl, rfl⟩
  · next polls =>
      split
      · exact Checked.returns_ok.mpr ⟨rfl, rfl, rfl⟩
      · rw [Checked.returns_bind, getRevents, if_pos (indexed polls), Checked.returns_ok]
        exact Checked.returns_pure.mpr ⟨rfl, rfl, rfl⟩

/-- What the second step of an iteration makes of a loop: the records of sources have changed, and there is a reference
to each selected source. -/
def selecting (loop : Loop) (records : Nat → Source) (added : List Nat) : Loop :=
  { loop with source := records, refs := fun source => loop.refs source + added.count source }

theorem selecting_nil (loop : Loop) : loop.selecting loop.source [] = loop := rfl

theorem selecting_cons (loop : Loop) (source : Nat) (changed records : Nat → Source) (added : List Nat) :
    Loop.selecting { loop with
      source := changed
      refs := Function.update loop.refs source (loop.refs source + 1) } records added =
    loop.selecting records (source :: added) := by
  unfold selecting
  congr 1
  funext other
  by_cases same : other = source
  · rw [same, List.count_cons_self]
    show Function.update loop.refs source (loop.refs source + 1) source + added.count source = _
    rw [Function.update_self]
    omega
  · have differs : source ≠ other := fun equal => same equal.symm
    rw [List.count_cons_of_ne differs]
    show Function.update loop.refs source (loop.refs source + 1) other + added.count other = _
    rw [Function.update_of_ne same]

theorem modify_cancelled {change : Source → Source}
    (same : (change (loop.source source)).cancelled = (loop.source source).cancelled) (other : Nat) :
    ((loop.modify source change).source other).cancelled = (loop.source other).cancelled := by
  by_cases equal : other = source
  · rw [equal, modify_source_self, same]
  · rw [modify_source_of_ne equal]

/-- Each source is selected at most once, and a reference is taken to each of them. -/
theorem examine_returns {table : List PollFd} {polled : Nat → Nat} {cur : Int} {queue rest : List Nat}
    (alive : ∀ source ∈ rest, loop.live source = true) (indexed : ∀ source ∈ rest, loop.Indexed table source) :
    Checked.Returns (examine table polled cur loop queue rest) fun selected =>
      ∃ records added, selected = (loop.selecting records added, queue ++ added) ∧ added.Sublist rest ∧
        ∀ source, (records source).cancelled = (loop.source source).cancelled := by
  induction rest generalizing loop queue with
  | nil =>
      rw [examine]
      refine Checked.returns_ok.mpr ⟨loop.source, [], ?_, List.Sublist.refl _, fun _ => rfl⟩
      rw [selecting_nil, List.append_nil]
  | cons source rest ih =>
      have aliveSource := alive source List.mem_cons_self
      have aliveRest : ∀ other ∈ rest, loop.live other = true :=
        fun other among => alive other (List.mem_cons_of_mem _ among)
      have indexedRest : ∀ other ∈ rest, loop.Indexed table other :=
        fun other among => indexed other (List.mem_cons_of_mem _ among)
      have aliveMore : ∀ other ∈ rest,
          decide (0 < Function.update loop.refs source (loop.refs source + 1) other) = true := by
        intro other among
        by_cases same : other = source
        · simp [same]
        · rw [Function.update_of_ne same]
          exact aliveRest other among
      rw [examine, Checked.returns_bind, access_of_live aliveSource, Checked.returns_ok]
      split
      · rw [Checked.returns_bind, ref_of_live aliveSource, Checked.returns_ok]
        refine (@ih { loop with refs := Function.update loop.refs source (loop.refs source + 1) } _ aliveMore
          indexedRest).mono ?_
        rintro selected ⟨records, added, rfl, sublist, same⟩
        refine ⟨records, source :: added, ?_, sublist.cons_cons source, same⟩
        rw [selecting_cons loop source loop.source, List.append_assoc, List.singleton_append]
      · next active =>
          have active : (loop.source source).cancelled = false := by simpa using active
          rw [Checked.returns_bind]
          refine (pollSource_returns (indexed source List.mem_cons_self active)).mono ?_
          rintro found ⟨cancelled, fd, index⟩
          have keeps : ∀ record : Source, record.cancelled = found.cancelled → record.fd = found.fd →
              record.index = found.index → ∀ other ∈ rest,
                (loop.modify source fun _ => record).Indexed table other := by
            intro record sameCancelled sameFd sameIndex other among
            by_cases equal : other = source
            · rw [equal, Indexed, modify_source_self, sameCancelled, sameFd, sameIndex, cancelled, fd, index]
              exact indexed source List.mem_cons_self
            · rw [Indexed, modify_source_of_ne equal]
              exact indexedRest other among
          split
          · have live : (loop.modify source fun _ => expire found).live source = true := aliveSource
            rw [Checked.returns_bind, ref_of_live live, Checked.returns_ok]
            refine (@ih { loop.modify source fun _ => expire found with
                refs := Function.update loop.refs source (loop.refs source + 1) } _ aliveMore
              (keeps (expire found) rfl rfl rfl)).mono ?_
            rintro selected ⟨records, added, rfl, sublist, same⟩
            refine ⟨records, source :: added, ?_, sublist.cons_cons source, fun other => (same other).trans ?_⟩
            · rw [List.append_assoc, List.singleton_append, ← selecting_cons loop source _ records]
              rfl
            · exact @modify_cancelled _ source (fun _ => expire found) cancelled other
          · refine (@ih (loop.modify source fun _ => found) _ aliveRest (keeps found rfl rfl rfl)).mono ?_
            rintro selected ⟨records, added, rfl, sublist, same⟩
            exact ⟨records, added, rfl, sublist.cons source, fun other =>
              (same other).trans (@modify_cancelled _ source (fun _ => found) cancelled other)⟩

theorem iterate_returns (sound : loop.Sound elems []) (polled : Option (Nat → Nat)) (cur : Int) :
    Checked.Returns (loop.iterate polled cur) fun after => after.Sound elems [] := by
  rw [iterate]
  split
  · exact Checked.returns_ok.mpr sound
  · next idle =>
      have none : loop.frames.countP Frame.isIteration = 0 := by
        rw [sound.single, if_neg idle]
      have room : ((([] : List PollFd).length : Nat) + elems.length : Int) ≤ loop.nsources := by
        rw [sound.counted]
        simp
      rw [sound.elements, Checked.ok_bind, Checked.returns_bind]
      refine (prepare_returns sound.live_elems room).mono ?_
      rintro ⟨prepared, table⟩ ⟨records, rfl, same, indexed⟩
      have prepared := sound.withSource same
      cases polled with
      | none => exact Checked.returns_pure.mpr prepared
      | some polled =>
          dsimp only at indexed ⊢
          rw [Checked.returns_bind]
          refine (examine_returns prepared.live_elems fun source among => indexed source (.inl among)).mono ?_
          rintro selected ⟨records, added, rfl, sublist, -⟩
          rw [Checked.returns_pure]
          refine { prepared with
            references := ?_, fresh := ?_, single := ?_, distinct := ?_, unnotified := ?_, cancelled := ?_ }
          · intro source
            show loop.refs source + added.count source =
              loop.held source + (elems ++ ((added ++ loop.owned) ++ [])).count source
            rw [sound.references source]
            simp only [List.count_append]
            omega
          · intro source beyond
            show loop.refs source + added.count source = 0
            have absent : source ∉ added := by
              intro among
              have live := sound.live_elems source (sublist.subset among)
              rw [Loop.live, sound.fresh source beyond] at live
              exact absurd live (by decide)
            rw [sound.fresh source beyond, List.count_eq_zero_of_not_mem absent]
          · show (Frame.iterating added cur :: loop.frames).countP Frame.isIteration = 1
            rw [List.countP_cons, none]
            rfl
          · show (added ++ loop.awaiting).Nodup
            rw [awaiting, countP_iteration_zero none, List.append_nil]
            exact sound.holds.nodup.sublist sublist
          · exact fun source _ => List.not_mem_nil
          · exact fun source _ gone => absurd gone List.not_mem_nil

/-- The functions that are being executed go on, and their references stay theirs. -/
theorem Sound.setFrames {frames : List Frame} {others : List Nat} (sound : loop.Sound elems extra)
    (owned : ∀ source, (frames.flatMap Frame.owned ++ others).count source = (loop.owned ++ extra).count source)
    (single : frames.countP Frame.isIteration = loop.frames.countP Frame.isIteration)
    (waiting : (frames.flatMap Frame.queue).Sublist loop.awaiting) : (loop.setFrames frames).Sound elems others := by
  refine { sound with references := ?_, single := ?_, distinct := ?_, unnotified := ?_, cancelled := ?_ }
  · intro source
    show loop.refs source = loop.held source + (elems ++ (frames.flatMap Frame.owned ++ others)).count source
    have same := owned source
    rw [sound.references source]
    simp only [List.count_append] at same ⊢
    omega
  · show frames.countP Frame.isIteration = if loop.inIterate then 1 else 0
    rw [single, sound.single]
  · exact sound.distinct.sublist waiting
  · exact fun source waits => sound.unnotified source (waiting.subset waits)
  · exact fun source waits => sound.cancelled source (waiting.subset waits)

theorem proceed_returns (sound : loop.Sound elems []) (result : Result) :
    Checked.Returns (loop.proceed result) fun after => ∃ others, after.Sound others [] := by
  have owned : ∀ frames, loop.frames = frames → loop.owned = frames.flatMap Frame.owned := by
    rintro frames rfl
    rfl
  have awaiting : ∀ frames, loop.frames = frames → loop.awaiting = frames.flatMap Frame.queue := by
    rintro frames rfl
    rfl
  unfold proceed
  split
  · exact Checked.returns_ok.mpr ⟨elems, sound⟩
  · next source frames same =>
      have left : (loop.setFrames frames).Sound elems [source] := by
        apply sound.setFrames
        · intro other
          rw [owned _ same]
          simp only [List.flatMap_cons, Frame.owned, List.count_append, List.count_cons, List.count_nil]
          omega
        · rw [same]
          rfl
        · rw [awaiting _ same]
          exact List.Sublist.refl _
      exact (unref_returns left).mono fun after sound => ⟨elems, sound⟩
  · next cur frames same =>
      have single := sound.single
      rw [same, List.countP_cons_of_pos rfl] at single
      have none : frames.countP Frame.isIteration = 0 := by
        split at single <;> omega
      rw [Checked.returns_ok]
      refine ⟨elems, { sound with
        references := ?_, single := ?_, distinct := ?_, unnotified := ?_, cancelled := ?_ }⟩
      · intro source
        have references := sound.references source
        rw [owned _ same] at references
        exact references
      · rw [none]
        rfl
      · have distinct := sound.distinct
        rw [awaiting _ same] at distinct
        exact distinct
      · have unnotified := sound.unnotified
        rw [awaiting _ same] at unnotified
        exact unnotified
      · have cancelled := sound.cancelled
        rw [awaiting _ same] at cancelled
        exact cancelled
  · next source queue cur frames same =>
      have among : source ∈ loop.owned := by
        rw [owned _ same]
        exact List.mem_cons_self
      have live := sound.live_of_mem (List.mem_append_right elems (List.mem_append_left [] among))
      rw [Checked.returns_bind, access_of_live live, Checked.returns_ok]
      split
      · have turned : (loop.setFrames (.finishing source queue cur :: frames)).Sound elems [] := by
          apply sound.setFrames
          · intro other
            rw [owned _ same]
            rfl
          · rw [same]
            rfl
          · rw [awaiting _ same]
            exact (List.sublist_cons_self source _)
        exact removeSource_returns turned live
      · rw [Checked.returns_pure]
        have turned : (loop.setFrames (.notifying source queue cur :: frames)).Sound elems [] := by
          apply sound.setFrames
          · intro other
            rw [owned _ same]
            rfl
          · rw [same]
            rfl
          · rw [awaiting _ same]
            exact (List.sublist_cons_self source _)
        refine ⟨elems, { turned with unnotified := ?_ }⟩
        intro other waits notified
        have distinct := sound.distinct
        rw [awaiting _ same] at distinct
        rcases List.mem_cons.mp notified with rfl | notified
        · exact (List.nodup_cons.mp distinct).1 waits
        · exact turned.unnotified other waits notified
  · next source queue cur frames same =>
      have among : source ∈ loop.owned := by
        rw [owned _ same]
        exact List.mem_cons_self
      have live := sound.live_of_mem (List.mem_append_right elems (List.mem_append_left [] among))
      have turned : (loop.setFrames (.finishing source queue cur :: frames)).Sound elems [] := by
        apply sound.setFrames
        · intro other
          rw [owned _ same]
          rfl
        · rw [same]
          rfl
        · rw [awaiting _ same]
          exact List.Sublist.refl _
      rw [Checked.returns_bind, access_of_live live, Checked.returns_ok]
      split
      · exact removeSource_returns turned live
      · rw [Checked.returns_pure]
        refine ⟨elems, turned.modify fun record => ?_⟩
        rw [restart]
        split <;> rfl
  · next source queue cur frames same =>
      have left : (loop.setFrames (.iterating queue cur :: frames)).Sound elems [source] := by
        apply sound.setFrames
        · intro other
          rw [owned _ same]
          simp only [List.flatMap_cons, Frame.owned, List.count_append, List.count_cons, List.count_nil]
          omega
        · rw [same]
          rfl
        · rw [awaiting _ same]
          exact List.Sublist.refl _
      exact (unref_returns left).mono fun after sound => ⟨elems, sound⟩

end Loop

/-- What the run may do: a source that looks as if it were in no list is not the only one of the list, and it does not
await its turn. -/
def Addable (loop : Loop) (source : Nat) : Prop :=
  loop.links source = {} → loop.sources ≠ some source ∧ source ∉ loop.awaiting

def Guard : Checked Loop → Event → Prop
  | .ok loop, .addSource source _ => Addable loop source
  | _, _ => True

/-- The list has as many elements as are counted, and neither they nor the sources of an iteration are destroyed. -/
def Intact (loop : Loop) : Prop :=
  ∃ elems, Links.Holds loop.links loop.sources elems ∧ loop.nsources = elems.length ∧
    ∀ source ∈ elems ++ loop.owned, loop.live source = true

/-- A source is notified once, and not when it was removed or cancelled; no source of the list is added again; and
nothing else stops the program. -/
structure Keeps (loop : Loop) (event : Event) : Prop where
  intact : Intact loop
  once : ∀ source queue cur frames, loop.frames = .iterating (source :: queue) cur :: frames →
    (loop.source source).cancelled = false → source ∉ loop.notified ∧ source ∉ loop.revoked
  refused : ∀ source now elems, event = .addSource source now → loop.inApplication = true →
    Links.Holds loop.links loop.sources elems → source ∈ elems → step (.ok loop) event = .error .fatal
  stops : ∀ fault, step (.ok loop) event = .error fault →
    fault = .fatal ∧ ∃ source now, event = .addSource source now ∧ loop.links source ≠ {}

def Kept (loop : Checked Loop) (event : Event) : Prop := ∀ current, loop = .ok current → Keeps current event

/-- Where the program has not stopped, the loop is sound. -/
def Invariant (loop : Checked Loop) : Prop := Checked.OnReturn loop fun loop => ∃ elems, loop.Sound elems []

section

variable {loop : Loop} {elems : List Nat} {event : Event}

theorem Loop.Sound.intact (sound : loop.Sound elems []) : Intact loop := by
  refine ⟨elems, sound.holds, sound.counted, fun source among => sound.live_of_mem ?_⟩
  rw [List.append_nil]
  exact among

/-- The application keeps the loop sound; it stops the program where it adds a source that has neighbours. -/
theorem act_returns (sound : loop.Sound elems []) (guard : Guard (.ok loop) event) :
    Checked.Returns (loop.act event) (fun after => ∃ others, after.Sound others []) ∨
      loop.act event = .error .fatal ∧ ∃ source now, event = .addSource source now ∧ loop.links source ≠ {} := by
  cases event with
  | newSource fd events timeout =>
      exact .inl (Checked.returns_ok.mpr ⟨elems, Loop.newSource_sound sound fd events timeout⟩)
  | ref source =>
      left
      rw [Loop.act]
      split
      · next live =>
          rw [Checked.returns_bind, Loop.ref_of_live live, Checked.returns_ok, Checked.returns_pure]
          exact ⟨elems, (Loop.ref_sound sound live).take⟩
      · exact Checked.returns_ok.mpr ⟨elems, sound⟩
  | unref source =>
      left
      rw [Loop.act]
      split
      · next holds => exact (Loop.drop_returns sound holds).mono fun after sound => ⟨elems, sound⟩
      · exact Checked.returns_ok.mpr ⟨elems, sound⟩
  | sourceInit source fd events timeout =>
      left
      rw [Loop.act, Checked.returns_ok]
      split
      · exact ⟨elems, sound.modify fun _ => rfl⟩
      · exact ⟨elems, sound⟩
  | setTimeout source value now =>
      left
      rw [Loop.act, Checked.returns_ok]
      split
      · exact ⟨elems, sound.modify fun _ => rfl⟩
      · exact ⟨elems, sound⟩
  | setNotifyRequired source =>
      left
      rw [Loop.act, Checked.returns_ok]
      split
      · exact ⟨elems, sound.modify fun _ => rfl⟩
      · exact ⟨elems, sound⟩
  | addSource source now =>
      rw [Loop.act]
      split
      · next live =>
          by_cases unlinked : loop.links source = {}
          · left
            obtain ⟨notFirst, free⟩ := guard unlinked
            refine (Loop.addSource_returns sound live unlinked notFirst free now).mono ?_
            rintro after ⟨added, -⟩
            exact ⟨_, added⟩
          · right
            refine ⟨?_, source, now, rfl, unlinked⟩
            rw [Loop.addSource, Loop.access_of_live live, Checked.ok_bind, if_pos unlinked]
      · exact .inl (Checked.returns_ok.mpr ⟨elems, sound⟩)
  | removeSource source =>
      left
      rw [Loop.act]
      split
      · next live => exact Loop.removeSource_returns sound live
      · exact Checked.returns_ok.mpr ⟨elems, sound⟩
  | cancelSource source => exact .inl ((Loop.cancelSource_returns sound).mono fun after sound => ⟨elems, sound⟩)
  | doLater now => exact .inl (Loop.doLater_returns sound now)
  | iterate polled cur =>
      exact .inl ((Loop.iterate_returns sound polled cur).mono fun after sound => ⟨elems, sound⟩)
  | proceed result => exact .inl (Loop.proceed_returns sound result)

theorem step_returns (sound : loop.Sound elems []) (guard : Guard (.ok loop) event) :
    Checked.Returns (step (.ok loop) event) (fun after => ∃ others, after.Sound others []) ∨
      step (.ok loop) event = .error .fatal ∧
        ∃ source now, event = .addSource source now ∧ loop.links source ≠ {} := by
  rw [step, Checked.ok_bind]
  split
  · next result => exact .inl (Loop.proceed_returns sound result)
  · split
    · exact act_returns sound guard
    · exact .inl (Checked.returns_pure.mpr ⟨elems, sound⟩)

theorem Loop.Sound.keeps (sound : loop.Sound elems []) (guard : Guard (.ok loop) event) : Keeps loop event := by
  refine ⟨sound.intact, ?_, ?_, ?_⟩
  · intro source queue cur frames same active
    have waits : source ∈ loop.awaiting := by
      rw [Loop.awaiting, same]
      exact List.mem_cons_self
    refine ⟨sound.unnotified source waits, fun gone => ?_⟩
    rw [sound.cancelled source waits gone] at active
    exact absurd active (by decide)
  · rintro source now others rfl controls holds among
    obtain rfl := holds.unique sound.holds
    have live := sound.live_elems source among
    have linked : loop.links source ≠ {} := by
      intro unlinked
      exact (guard unlinked).1 (Loop.first_of_unlinked sound.holds among unlinked)
    show (if loop.inApplication then loop.act (.addSource source now) else .ok loop) = .error .fatal
    rw [if_pos controls, Loop.act, if_pos live, Loop.addSource, Loop.access_of_live live, Checked.ok_bind,
      if_pos linked]
  · intro fault stopped
    rcases step_returns sound guard with ⟨after, returned, -⟩ | ⟨fatal, added⟩
    · rw [stopped] at returned
      exact absurd returned (by simp)
    · rw [stopped] at fatal
      exact ⟨Except.error.inj fatal, added⟩

theorem invariant_step {loop : Checked Loop} (invariant : Invariant loop) (guard : Guard loop event) :
    Invariant (step loop event) := by
  cases loop with
  | error fault => exact invariant
  | ok loop =>
      obtain ⟨elems, sound⟩ := invariant
      rcases step_returns sound guard with ⟨after, returned, sound⟩ | ⟨fatal, -⟩
      · rw [returned]
        exact sound
      · rw [fatal]
        trivial

theorem invariant_initial : Invariant (.ok {}) := by
  refine ⟨[], ⟨rfl, trivial, List.nodup_nil⟩, rfl, fun _ _ => rfl, fun _ => rfl, fun _ _ => rfl, rfl,
    List.nodup_nil, ?_, ?_⟩
  · exact fun _ waits => absurd waits List.not_mem_nil
  · exact fun _ waits => absurd waits List.not_mem_nil

/-- This is what iterations keep, whatever the callbacks do. -/
theorem run_kept (events : List Event) (along : Machine.Along step Guard (.ok {}) events) :
    Machine.Along step Kept (.ok {}) events ∧
      ∀ loop, Machine.run step (.ok {}) events = .ok loop → Intact loop := by
  constructor
  · refine Machine.Along.entails (fun _ _ => invariant_step) ?_ invariant_initial along
    rintro _ event invariant guard loop rfl
    obtain ⟨elems, sound⟩ := invariant
    exact sound.keeps guard
  · intro loop ended
    have invariant : Invariant (Machine.run step (.ok {}) events) :=
      Machine.run_invariant (fun _ _ => invariant_step) invariant_initial along
    rw [ended] at invariant
    obtain ⟨elems, sound⟩ := invariant
    exact sound.intact

end

/-- The callback of the first source removes the second one. -/
def removal : List Event :=
  [.newSource 5 1 0, .newSource 6 1 0, .addSource 0 0, .addSource 1 0, .iterate (some fun _ => 1) 10, .proceed .stop,
    .removeSource 1, .proceed .stop]

theorem run_kept_removal : Machine.Along step Kept (.ok {}) removal ∧
    ∀ loop, Machine.run step (.ok {}) removal = .ok loop → Intact loop := by
  have addedFirst : Guard (Machine.run step (.ok {}) (removal.take 2)) (.addSource 0 0) :=
    fun _ => ⟨by decide, by decide⟩
  have addedSecond : Guard (Machine.run step (.ok {}) (removal.take 3)) (.addSource 1 0) :=
    fun _ => ⟨by decide, by decide⟩
  exact run_kept removal ⟨trivial, trivial, addedFirst, addedSecond, trivial, trivial, trivial, trivial, trivial⟩

/-- The only source of the list is added again, and a source that was removed before its turn is notified after it is
added again. -/
theorem not_kept : ¬Machine.Along step Kept (.ok {}) [.newSource 5 1 0, .addSource 0 0, .addSource 0 0] ∧
    ¬Machine.Along step Kept (.ok {})
      (removal ++ [.addSource 1 0, .proceed .stop, .proceed .stop, .proceed .stop, .proceed .stop]) := by
  constructor
  · rintro ⟨-, -, kept, -⟩
    have refused := (kept _ rfl).refused 0 0 [0] rfl rfl ⟨rfl, ⟨rfl, trivial⟩, by decide⟩ List.mem_cons_self
    cases refused
  · intro along
    obtain ⟨-, -, -, -, kept, -⟩ := (Machine.along_append.mp along).2
    have once := (kept _ rfl).once 1 [] 10 [] rfl rfl
    exact once.2 (by decide)

end BelleSip.MainLoop
