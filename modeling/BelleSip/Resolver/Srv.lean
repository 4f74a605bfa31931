import Mathlib.Algebra.Ring.Nat
import Mathlib.Data.List.Perm.Basic
import Mathlib.Tactic.Common

/-
This file defines the order that the resolver gives to SRV records, and proves when it keeps them all.
-/

namespace BelleSip

/-- This is `belle_sip_dns_srv_t`; the field `cumulative_weight` is only read by the election that writes it. -/
structure DnsSrv where
  target : String
  port : Nat
  priority : Nat
  weight : Nat
deriving DecidableEq, Repr

/-- This is `belle_sip_list_insert_sorted`. -/
def insertSorted {Item : Type} (compare : Item → Item → Int) (data : Item) : List Item → List Item
  | [] => [data]
  | item :: rest => if compare data item ≤ 0 then data :: item :: rest else item :: insertSorted compare data rest

namespace DnsSrv

/-- This is `srv_compare_prio`. -/
def comparePrio (srv1 srv2 : DnsSrv) : Int :=
  if srv1.priority < srv2.priority then -1 else if srv1.priority = srv2.priority then 0 else 1

/-- This is `srv_sort_weight`. -/
def sortWeight (srv1 _srv2 : DnsSrv) : Int := if srv1.weight = 0 then -1 else 1

/-- The values of `cumulative_weight`. -/
def cumulativeWeights (sum : Nat) : List DnsSrv → List Nat
  | [] => []
  | srv :: rest => (sum + srv.weight) :: cumulativeWeights (sum + srv.weight) rest

/-- This is `srv_elect_one`: the position of the elected record, and the random numbers that are left. -/
def electOne (random : Nat → Nat) (srvList : List DnsSrv) : Nat × (Nat → Nat) :=
  let sum := (srvList.map (·.weight)).sum
  -- no weights given, the first one
  if sum = 0 then (0, random)
  else
    let randNumber := random 0 % sum
    (((cumulativeWeights 0 srvList).findIdx? (· ≤ randNumber)).getD 0, fun draw => random (draw + 1))

/-- This is `srv_elect` on a list of the given length. -/
def elect (random : Nat → Nat) : Nat → List DnsSrv → List DnsSrv × (Nat → Nat)
  | 0, _ => ([], random)
  | length + 1, srvList =>
      let (position, random) := electOne random srvList
      let (rest, random) := elect random length (srvList.eraseIdx position)
      (srvList[position]?.toList ++ rest, random)

/-- The variables of `srv_select_by_weight`, and the random numbers that are left. -/
structure Selection where
  random : Nat → Nat
  samePrio : List DnsSrv := []
  prevSrv : Option DnsSrv := none
  result : List DnsSrv := []

/-- The records of one priority are elected. -/
def Selection.conclude (selection : Selection) : Selection :=
  if selection.samePrio = [] then selection
  else
    let (elected, random) := elect selection.random selection.samePrio.length selection.samePrio
    { selection with random := random, samePrio := [], result := selection.result ++ elected }

/-- The body of the loop. -/
def Selection.visit (selection : Selection) (srv : DnsSrv) : Selection :=
  let visited := match selection.prevSrv with
    | none => selection
    | some prevSrv =>
        if prevSrv.priority = srv.priority then
          let samePrio := if selection.samePrio = [] then [prevSrv] else selection.samePrio
          { selection with samePrio := insertSorted sortWeight srv samePrio }
        else selection.conclude
  { visited with prevSrv := some srv }

/-- This is `srv_select_by_weight`. -/
def selectByWeight (random : Nat → Nat) (srvList : List DnsSrv) : List DnsSrv :=
  let selection := (srvList.foldl Selection.visit { random := random }).conclude
  -- no weight election was necessary, return original list
  if selection.result = [] then srvList else selection.result

/-- The list of a context after it has got the records in this order. -/
def received (records : List DnsSrv) : List DnsSrv :=
  records.foldl (fun srvList srv => insertSorted comparePrio srv srvList) []

/-- The records in the order of their priorities. -/
abbrev Ordered (srvList : List DnsSrv) : Prop := srvList.Pairwise fun one other => one.priority ≤ other.priority

/-- Another record of the list has the priority. -/
def shares (srvList : List DnsSrv) (srv : DnsSrv) : Bool := 2 ≤ srvList.countP (·.priority = srv.priority)

/-- The records that take part in an election. -/
def contested (srvList : List DnsSrv) : List DnsSrv := srvList.filter (shares srvList)

theorem insertSorted_perm (compare : DnsSrv → DnsSrv → Int) (data : DnsSrv) (srvList : List DnsSrv) :
    (insertSorted compare data srvList).Perm (data :: srvList) := by
  induction srvList with
  | nil => exact List.Perm.refl _
  | cons srv rest ih =>
      rw [insertSorted]
      split
      · exact List.Perm.refl _
      · exact (ih.cons srv).trans (List.Perm.swap data srv rest)

theorem comparePrio_iff {srv1 srv2 : DnsSrv} : comparePrio srv1 srv2 ≤ 0 ↔ srv1.priority ≤ srv2.priority := by
  unfold comparePrio
  split
  · omega
  · split <;> omega

theorem insertSorted_ordered (data : DnsSrv) {srvList : List DnsSrv} (ordered : Ordered srvList) :
    Ordered (insertSorted comparePrio data srvList) := by
  induction srvList with
  | nil => exact List.pairwise_singleton _ _
  | cons srv rest ih =>
      obtain ⟨first, restOrdered⟩ := List.pairwise_cons.mp ordered
      rw [insertSorted]
      split
      · next before =>
          have least := comparePrio_iff.mp before
          apply List.pairwise_cons.mpr
          refine ⟨?_, ordered⟩
          intro other among
          rcases List.mem_cons.mp among with rfl | among
          · exact least
          · exact Nat.le_trans least (first other among)
      · next after =>
          rw [comparePrio_iff] at after
          apply List.pairwise_cons.mpr
          refine ⟨?_, ih restOrdered⟩
          intro other among
          rcases List.mem_cons.mp ((insertSorted_perm comparePrio data rest).mem_iff.mp among) with rfl | among
          · omega
          · exact first other among

/-- The list of the context has the records that have been received, in the order of their priorities. -/
theorem received_spec (records : List DnsSrv) : (received records).Perm records ∧ Ordered (received records) := by
  have inserted : ∀ (rest srvList : List DnsSrv), Ordered srvList →
      (rest.foldl (fun srvList srv => insertSorted comparePrio srv srvList) srvList).Perm (srvList ++ rest) ∧
        Ordered (rest.foldl (fun srvList srv => insertSorted comparePrio srv srvList) srvList) := by
    intro rest
    induction rest with
    | nil =>
        intro srvList ordered
        rw [List.append_nil]
        exact ⟨List.Perm.refl _, ordered⟩
    | cons srv rest ih =>
        intro srvList ordered
        obtain ⟨perm, restOrdered⟩ := ih _ (insertSorted_ordered srv ordered)
        refine ⟨?_, restOrdered⟩
        have first := (insertSorted_perm comparePrio srv srvList).append_right rest
        exact (perm.trans first).trans List.perm_middle.symm
  exact inserted records [] List.Pairwise.nil

theorem cumulativeWeights_length (sum : Nat) (srvList : List DnsSrv) :
    (cumulativeWeights sum srvList).length = srvList.length := by
  induction srvList generalizing sum with
  | nil => rfl
  | cons srv rest ih =>
      rw [cumulativeWeights, List.length_cons, List.length_cons, ih]

/-- The elected record is one of the list, whatever the random number is. -/
theorem electOne_lt (random : Nat → Nat) {srvList : List DnsSrv} (nonempty : srvList ≠ []) :
    (electOne random srvList).1 < srvList.length := by
  have positive := List.length_pos_iff.mpr nonempty
  unfold electOne
  dsimp only
  split
  · exact positive
  · cases found : (cumulativeWeights 0 srvList).findIdx? _ with
    | none => exact positive
    | some position =>
        obtain ⟨inside, -⟩ := List.findIdx?_eq_some_iff_getElem.mp found
        rw [cumulativeWeights_length] at inside
        exact inside

/-- An election keeps every record. -/
theorem elect_perm (random : Nat → Nat) {length : Nat} {srvList : List DnsSrv} (counted : srvList.length = length) :
    (elect random length srvList).1.Perm srvList := by
  induction length generalizing random srvList with
  | zero =>
      rw [List.length_eq_zero_iff.mp counted]
      exact List.Perm.refl _
  | succ length ih =>
      have nonempty : srvList ≠ [] := by
        intro empty
        rw [empty] at counted
        cases counted
      have inside := electOne_lt random nonempty
      have left : (srvList.eraseIdx (electOne random srvList).1).length = length := by
        rw [List.length_eraseIdx_of_lt inside]
        omega
      rw [elect]
      dsimp only
      rw [List.getElem?_eq_getElem inside]
      exact ((ih _ left).cons _).trans (List.getElem_cons_eraseIdx_perm inside)

/-- The records before a group of higher priority values do not count for it. -/
theorem contested_append {front group : List DnsSrv}
    (before : ∀ srv ∈ front, ∀ other ∈ group, srv.priority < other.priority) :
    contested (front ++ group) = contested front ++ contested group := by
  unfold contested
  rw [List.filter_append]
  congr 1
  · apply List.filter_congr
    intro srv among
    have none_ : group.countP (·.priority = srv.priority) = 0 := by
      apply List.countP_eq_zero.mpr
      intro other otherAmong
      have less := before srv among other otherAmong
      simp only [decide_eq_true_eq]
      omega
    rw [shares, shares, List.countP_append, none_, Nat.add_zero]
  · apply List.filter_congr
    intro srv among
    have none_ : front.countP (·.priority = srv.priority) = 0 := by
      apply List.countP_eq_zero.mpr
      intro other otherAmong
      have less := before other otherAmong srv among
      simp only [decide_eq_true_eq]
      omega
    rw [shares, shares, List.countP_append, none_, Nat.zero_add]

/-- All records of a group of two or more take part in an election. -/
theorem contested_group {group : List DnsSrv}
    (same : ∀ srv ∈ group, ∀ other ∈ group, srv.priority = other.priority) :
    contested group = if group.length < 2 then [] else group := by
  have counted : ∀ srv ∈ group, group.countP (·.priority = srv.priority) = group.length := by
    intro srv among
    apply List.countP_eq_length.mpr
    intro other otherAmong
    exact decide_eq_true (same other otherAmong srv among)
  unfold contested shares
  split
  · next short =>
      apply List.filter_eq_nil_iff.mpr
      intro srv among
      rw [counted srv among, decide_eq_true_eq]
      omega
  · next long =>
      apply List.filter_eq_self.mpr
      intro srv among
      rw [counted srv among, decide_eq_true_eq]
      omega

/-- The loop has visited the records `front ++ group`, and those of `group` have the last priority. -/
structure Visited (front group : List DnsSrv) (selection : Selection) : Prop where
  prevSrv : selection.prevSrv = group.getLast?
  started : group = [] → front = []
  same : ∀ srv ∈ group, ∀ other ∈ group, srv.priority = other.priority
  before : ∀ srv ∈ front, ∀ other ∈ group, srv.priority < other.priority
  samePrio : if group.length < 2 then selection.samePrio = [] else selection.samePrio.Perm group
  result : selection.result.Perm (contested front)
  ordered : Ordered selection.result

/-- The end of a group adds its contested records to the result. -/
theorem Visited.conclude {front group : List DnsSrv} {selection : Selection}
    (visited : Visited front group selection) :
    selection.conclude.samePrio = [] ∧ selection.conclude.result.Perm (contested (front ++ group)) ∧
      Ordered selection.conclude.result := by
  have samePrio := visited.samePrio
  rw [contested_append visited.before, contested_group visited.same]
  unfold Selection.conclude
  split at samePrio
  · next short =>
      rw [if_pos samePrio, if_pos short, List.append_nil]
      exact ⟨samePrio, visited.result, visited.ordered⟩
  · next long =>
      have nonempty : selection.samePrio ≠ [] := by
        intro empty
        rw [empty] at samePrio
        have none_ := samePrio.length_eq
        rw [List.length_nil] at none_
        omega
      have elected := (elect_perm selection.random (Eq.refl selection.samePrio.length)).trans samePrio
      rw [if_neg nonempty, if_neg long]
      refine ⟨rfl, visited.result.append elected, ?_⟩
      apply List.pairwise_append.mpr
      refine ⟨visited.ordered, ?_, ?_⟩
      · apply List.pairwise_of_forall_mem_list
        intro srv among other otherAmong
        exact Nat.le_of_eq (visited.same srv (elected.mem_iff.mp among) other (elected.mem_iff.mp otherAmong))
      · intro srv among other otherAmong
        have inFront := List.mem_of_mem_filter (visited.result.mem_iff.mp among)
        exact Nat.le_of_lt (visited.before srv inFront other (elected.mem_iff.mp otherAmong))

/-- The body of the loop visits one record more. -/
theorem Visited.visit {front group : List DnsSrv} {selection : Selection} (visited : Visited front group selection)
    {srv : DnsSrv} (above : ∀ other ∈ front ++ group, other.priority ≤ srv.priority) :
    ∃ nextFront nextGroup, nextFront ++ nextGroup = front ++ group ++ [srv] ∧
      Visited nextFront nextGroup (selection.visit srv) := by
  have alone : ∀ one ∈ [srv], ∀ other ∈ [srv], one.priority = other.priority := by
    intro one isOne other isOther
    rw [List.mem_singleton.mp isOne, List.mem_singleton.mp isOther]
  unfold Selection.visit
  rw [visited.prevSrv]
  cases last : group.getLast? with
  | none =>
      have noGroup := List.getLast?_eq_none_iff.mp last
      have noFront := visited.started noGroup
      have noSamePrio : selection.samePrio = [] := by
        simpa [noGroup] using visited.samePrio
      refine ⟨[], [srv], ?_, rfl, nofun, alone, by simp, by simpa using noSamePrio, ?_, visited.ordered⟩
      · rw [noFront, noGroup]
        rfl
      · simpa [noFront] using visited.result
  | some prevSrv =>
      have among : prevSrv ∈ group := List.mem_of_getLast? last
      dsimp only
      split
      · next equal =>
          have same : ∀ other ∈ group, other.priority = srv.priority :=
            fun other inGroup => (visited.same other inGroup prevSrv among).trans equal
          have waiting : (if selection.samePrio = [] then [prevSrv] else selection.samePrio).Perm group := by
            have samePrio := visited.samePrio
            split at samePrio
            · next short =>
                rw [if_pos samePrio]
                obtain ⟨only, isOnly⟩ : ∃ only, group = [only] := by
                  apply List.length_eq_one_iff.mp
                  have positive := List.length_pos_of_mem among
                  omega
                rw [isOnly] at among ⊢
                rw [List.mem_singleton.mp among]
            · next long =>
                have nonempty : selection.samePrio ≠ [] := by
                  intro empty
                  rw [empty] at samePrio
                  have none_ := samePrio.length_eq
                  rw [List.length_nil] at none_
                  omega
                rw [if_neg nonempty]
                exact samePrio
          refine ⟨front, group ++ [srv], (List.append_assoc ..).symm, ?_, ?_, ?_, ?_, ?_, visited.result,
            visited.ordered⟩
          · exact List.getLast?_concat.symm
          · intro empty
            simp at empty
          · intro one isOne other isOther
            have priority : ∀ any ∈ group ++ [srv], any.priority = srv.priority := by
              intro any inAny
              rcases List.mem_append.mp inAny with old | new
              · exact same any old
              · rw [List.mem_singleton.mp new]
            exact (priority one isOne).trans (priority other isOther).symm
          · intro one isOne other isOther
            rcases List.mem_append.mp isOther with old | new
            · exact visited.before one isOne other old
            · rw [List.mem_singleton.mp new, ← equal]
              exact visited.before one isOne prevSrv among
          · have positive := List.length_pos_of_mem among
            rw [if_neg (by rw [List.length_append, List.length_singleton]; omega)]
            have inserted := insertSorted_perm sortWeight srv
              (if selection.samePrio = [] then [prevSrv] else selection.samePrio)
            exact (inserted.trans (waiting.cons srv)).trans (List.perm_append_singleton srv group).symm
      · next different =>
          obtain ⟨none_, result, ordered⟩ := visited.conclude
          refine ⟨front ++ group, [srv], rfl, rfl, nofun, alone, ?_, by simpa using none_, result, ordered⟩
          intro one isOne other isOther
          rw [List.mem_singleton.mp isOther]
          have lower : prevSrv.priority < srv.priority := by
            have least := above prevSrv (List.mem_append_right _ among)
            omega
          rcases List.mem_append.mp isOne with inFront | inGroup
          · exact Nat.lt_trans (visited.before one inFront prevSrv among) lower
          · rw [visited.same one inGroup prevSrv among]
            exact lower

theorem Visited.run {rest front group : List DnsSrv} {selection : Selection}
    (visited : Visited front group selection) (ordered : Ordered (front ++ group ++ rest)) :
    ∃ nextFront nextGroup, nextFront ++ nextGroup = front ++ group ++ rest ∧
      Visited nextFront nextGroup (rest.foldl Selection.visit selection) := by
  induction rest generalizing front group selection with
  | nil => exact ⟨front, group, (List.append_nil _).symm, visited⟩
  | cons srv rest ih =>
      have above : ∀ other ∈ front ++ group, other.priority ≤ srv.priority :=
        fun other among => (List.pairwise_append.mp ordered).2.2 other among srv List.mem_cons_self
      obtain ⟨nextFront, nextGroup, joined, next⟩ := visited.visit above
      have step : front ++ group ++ srv :: rest = nextFront ++ nextGroup ++ rest := by
        rw [joined, List.append_assoc _ [srv], List.singleton_append]
      rw [step] at ordered ⊢
      exact ih next ordered

/-- The result has the records that take part in an election, or all of them when there is no election. -/
theorem selectByWeight_spec (random : Nat → Nat) {srvList : List DnsSrv} (ordered : Ordered srvList) :
    Ordered (selectByWeight random srvList) ∧
      (selectByWeight random srvList).Perm (if contested srvList = [] then srvList else contested srvList) := by
  have start : Visited [] [] { random := random } :=
    ⟨rfl, fun _ => rfl, by simp, by simp, rfl, List.Perm.refl _, List.Pairwise.nil⟩
  have whole : Ordered ([] ++ [] ++ srvList) := ordered
  obtain ⟨front, group, joined, visited⟩ := start.run whole
  obtain ⟨-, result, resultOrdered⟩ := visited.conclude
  rw [joined] at result
  change List.Perm _ (contested srvList) at result
  unfold selectByWeight
  dsimp only
  split
  · next none_ =>
      rw [none_] at result
      rw [if_pos result.symm.eq_nil]
      exact ⟨ordered, List.Perm.refl _⟩
  · next some_ =>
      have elected : contested srvList ≠ [] := by
        intro empty
        rw [empty] at result
        exact some_ result.eq_nil
      rw [if_neg elected]
      exact ⟨resultOrdered, result⟩

theorem shares_perm {one other : List DnsSrv} (perm : one.Perm other) (srv : DnsSrv) :
    shares one srv = shares other srv := by
  unfold shares
  rw [perm.countP_eq]

/-- The list keeps all records exactly when either no two of them or all of them share a priority. -/
theorem select_perm_iff (random : Nat → Nat) (records : List DnsSrv) :
    ((selectByWeight random (received records)).Perm records ∧
        Ordered (selectByWeight random (received records))) ↔
      (∀ srv ∈ records, shares records srv = false) ∨ (∀ srv ∈ records, shares records srv = true) := by
  obtain ⟨inserted, sorted⟩ := received_spec records
  obtain ⟨ordered, selected⟩ := selectByWeight_spec random sorted
  have uncontested : contested (received records) = [] ↔ ∀ srv ∈ records, shares records srv = false := by
    unfold contested
    rw [List.filter_eq_nil_iff]
    constructor
    · intro none_ srv among
      rw [← shares_perm inserted]
      exact Bool.eq_false_iff.mpr (none_ srv (inserted.mem_iff.mpr among))
    · intro none_ srv among
      rw [shares_perm inserted, none_ srv (inserted.mem_iff.mp among)]
      exact Bool.false_ne_true
  constructor
  · rintro ⟨kept, -⟩
    split at selected
    · next none_ => exact .inl (uncontested.mp none_)
    · right
      have all := List.filter_eq_self.mp
        (List.filter_sublist.eq_of_length ((selected.symm.trans kept).trans inserted.symm).length_eq)
      intro srv among
      rw [← shares_perm inserted]
      exact all srv (inserted.mem_iff.mpr among)
  · intro condition
    refine ⟨?_, ordered⟩
    split at selected
    · exact selected.trans inserted
    · next some_ =>
        rcases condition with none_ | all
        · exact absurd (uncontested.mpr none_) some_
        · have whole : contested (received records) = received records := by
            apply List.filter_eq_self.mpr
            intro srv among
            rw [shares_perm inserted]
            exact all srv (inserted.mem_iff.mp among)
          rw [whole] at selected
          exact selected.trans inserted

/-- Two records of priority 10 and one of priority 20: the last is lost. -/
theorem singleton_priority_lost :
    selectByWeight (fun _ => 0)
        (received [⟨"a.example.org", 5060, 10, 1⟩, ⟨"b.example.org", 5060, 10, 1⟩, ⟨"c.example.org", 5060, 20, 1⟩]) =
      [⟨"b.example.org", 5060, 10, 1⟩, ⟨"a.example.org", 5060, 10, 1⟩] ∧
    ¬(selectByWeight (fun _ => 0)
        (received [⟨"a.example.org", 5060, 10, 1⟩, ⟨"b.example.org", 5060, 10, 1⟩,
            ⟨"c.example.org", 5060, 20, 1⟩])).Perm
      [⟨"a.example.org", 5060, 10, 1⟩, ⟨"b.example.org", 5060, 10, 1⟩, ⟨"c.example.org", 5060, 20, 1⟩] := by
  decide

end DnsSrv

end BelleSip
