import BelleSip.Resolver.Srv
import Mathlib.Probability.Distributions.Uniform

/-
This file proves which SRV records are elected with the probabilities that their weights ask for.
-/

namespace BelleSip

open scoped ENNReal

namespace DnsSrv

/-- The sum of the weights. -/
def totalWeight (srvList : List DnsSrv) : Nat := (srvList.map (·.weight)).sum

/-- As the random number ranges over the numbers below the sum of the weights, each record is elected as often as its
weight says. -/
def Proportional (srvList : List DnsSrv) : Prop :=
  ∀ position, (inside : position < srvList.length) →
    (List.range (totalWeight srvList)).countP (fun number => (electOne (fun _ => number) srvList).1 = position) =
      srvList[position].weight

/-- The weight at a position, which is zero after the last record. -/
def weightAt (srvList : List DnsSrv) (position : Nat) : Nat := srvList[position]?.elim 0 (·.weight)

theorem sum_weightAt (srvList : List DnsSrv) :
    ∑ position ∈ Finset.range srvList.length, weightAt srvList position = totalWeight srvList := by
  induction srvList with
  | nil => rfl
  | cons srv rest ih =>
      rw [List.length_cons, Finset.sum_range_succ', totalWeight, List.map_cons, List.sum_cons, ← totalWeight, ← ih,
        Nat.add_comm]
      rfl

theorem sum_weightAt_div {srvList : List DnsSrv} (weighted : 0 < totalWeight srvList) :
    ∑ position ∈ Finset.range srvList.length,
      (weightAt srvList position : ℝ≥0∞) / (totalWeight srvList : ℝ≥0∞) = 1 := by
  have positive : (totalWeight srvList : ℝ≥0∞) ≠ 0 := Nat.cast_ne_zero.mpr (Nat.ne_of_gt weighted)
  simp only [div_eq_mul_inv]
  rw [← Finset.sum_mul, ← Nat.cast_sum, sum_weightAt]
  exact ENNReal.mul_inv_cancel positive (ENNReal.natCast_ne_top _)

theorem weightAt_outside {srvList : List DnsSrv} {position : Nat} (outside : srvList.length ≤ position) :
    weightAt srvList position = 0 := by
  rw [weightAt, List.getElem?_eq_none outside]
  rfl

noncomputable section

/-- The random number of an election is uniform over the numbers below the sum of the weights. -/
def numberLaw (srvList : List DnsSrv) : PMF Nat :=
  if weighted : 0 < totalWeight srvList then
    PMF.uniformOfFinset (Finset.range (totalWeight srvList)) ⟨0, Finset.mem_range.mpr weighted⟩
  else PMF.pure 0

/-- The position that `srv_elect_one` elects. -/
def electOneLaw (srvList : List DnsSrv) : PMF Nat :=
  (numberLaw srvList).map fun number => (electOne (fun _ => number) srvList).1

/-- RFC 2782 chooses each record with a probability proportional to its weight, as long as there is one. -/
def weightLaw (srvList : List DnsSrv) : PMF Nat :=
  if weighted : 0 < totalWeight srvList then
    PMF.ofFinset (fun position => (weightAt srvList position : ℝ≥0∞) / (totalWeight srvList : ℝ≥0∞))
      (Finset.range srvList.length) (sum_weightAt_div weighted) fun position outside => by
        rw [weightAt_outside (Nat.le_of_not_lt fun inside => outside (Finset.mem_range.mpr inside)), Nat.cast_zero,
          ENNReal.zero_div]
  else PMF.pure 0

/-- The order in which the records of a list of the given length are chosen. -/
def orderLaw (choose : List DnsSrv → PMF Nat) : Nat → List DnsSrv → PMF (List DnsSrv)
  | 0, _ => PMF.pure []
  | length + 1, srvList =>
      (choose srvList).bind fun position =>
        (orderLaw choose length (srvList.eraseIdx position)).map fun rest => srvList[position]?.toList ++ rest

/-- The election of each record and the order of them all have the probabilities of RFC 2782. -/
def FairlyElected (srvList : List DnsSrv) : Prop :=
  Proportional srvList ∧
    orderLaw electOneLaw srvList.length srvList = orderLaw weightLaw srvList.length srvList

end

theorem le_of_mem_cumulativeWeights {sum value : Nat} {srvList : List DnsSrv}
    (among : value ∈ cumulativeWeights sum srvList) : sum ≤ value := by
  induction srvList generalizing sum with
  | nil => cases among
  | cons srv rest ih =>
      rw [cumulativeWeights, List.mem_cons] at among
      rcases among with rfl | among
      · exact Nat.le_add_right sum srv.weight
      · have later := ih among
        omega

/-- The first cumulative weight is the least one, so that the comparison elects the first record or none. -/
theorem electOne_first (random : Nat → Nat) (srvList : List DnsSrv) : (electOne random srvList).1 = 0 := by
  rw [electOne]
  dsimp only
  split
  · rfl
  · cases srvList with
    | nil => rfl
    | cons srv rest =>
        rw [cumulativeWeights, List.findIdx?_cons]
        split
        · rfl
        · next above =>
            have none : (cumulativeWeights (0 + srv.weight) rest).findIdx?
                (fun value => decide (value ≤ random 0 % ((srv :: rest).map (·.weight)).sum)) = none := by
              rw [List.findIdx?_eq_none_iff]
              intro value among
              have least := le_of_mem_cumulativeWeights among
              simp only [decide_eq_true_eq] at above
              simp only [decide_eq_false_iff_not]
              omega
            rw [none]
            rfl

theorem electOneLaw_eq (srvList : List DnsSrv) : electOneLaw srvList = PMF.pure 0 := by
  have first : (fun number : Nat => (electOne (fun _ => number) srvList).1) = Function.const Nat 0 := by
    funext number
    exact electOne_first _ _
  rw [electOneLaw, first, PMF.map_const]

theorem totalWeight_cons (srv : DnsSrv) (rest : List DnsSrv) :
    totalWeight (srv :: rest) = srv.weight + totalWeight rest := by
  simp [totalWeight]

theorem totalWeight_eq_zero_iff {srvList : List DnsSrv} :
    totalWeight srvList = 0 ↔ ∀ srv ∈ srvList, srv.weight = 0 := by
  induction srvList with
  | nil => simp [totalWeight]
  | cons srv rest ih => rw [totalWeight_cons, Nat.add_eq_zero_iff, ih, List.forall_mem_cons]

/-- Where all the weight is that of the first record, it is chosen. -/
theorem weightLaw_first {srvList : List DnsSrv} (others : ∀ srv ∈ srvList.tail, srv.weight = 0) :
    weightLaw srvList = PMF.pure 0 := by
  by_cases weighted : 0 < totalWeight srvList
  · rw [weightLaw, dif_pos weighted]
    cases srvList with
    | nil => cases weighted
    | cons srv rest =>
        rw [List.tail_cons] at others
        have whole : totalWeight (srv :: rest) = srv.weight := by
          rw [totalWeight_cons, totalWeight_eq_zero_iff.mpr others, Nat.add_zero]
        ext position
        rw [PMF.ofFinset_apply, PMF.pure_apply]
        cases position with
        | zero =>
            rw [if_pos rfl, whole]
            have positive : (srv.weight : ℝ≥0∞) ≠ 0 := by
              rw [whole] at weighted
              exact Nat.cast_ne_zero.mpr (Nat.ne_of_gt weighted)
            exact ENNReal.div_self positive (ENNReal.natCast_ne_top _)
        | succ position =>
            have light : weightAt (srv :: rest) (position + 1) = 0 := by
              rw [weightAt, List.getElem?_cons_succ]
              cases found : rest[position]? with
              | none => rfl
              | some other => exact others other (List.mem_of_getElem? found)
            rw [if_neg (Nat.succ_ne_zero position), light, Nat.cast_zero, ENNReal.zero_div]
  · rw [weightLaw, dif_neg weighted]

/-- The order of the records is that of RFC 2782 when all the weight is that of the first record. -/
theorem orderLaw_first (length : Nat) {srvList : List DnsSrv} (others : ∀ srv ∈ srvList.tail, srv.weight = 0) :
    orderLaw electOneLaw length srvList = orderLaw weightLaw length srvList := by
  induction length generalizing srvList with
  | zero => rfl
  | succ length ih =>
      have rest : ∀ srv ∈ (srvList.eraseIdx 0).tail, srv.weight = 0 := by
        intro srv among
        rw [List.eraseIdx_zero] at among
        exact others srv (List.mem_of_mem_tail among)
      rw [orderLaw, orderLaw, electOneLaw_eq, weightLaw_first others, PMF.pure_bind, PMF.pure_bind, ih rest]

/-- The elections are fair exactly when all the weight is that of the first record. -/
theorem fairlyElected_iff {srvList : List DnsSrv} (weighted : 0 < totalWeight srvList) :
    FairlyElected srvList ↔ ∀ srv ∈ srvList.tail, srv.weight = 0 := by
  cases srvList with
  | nil => cases weighted
  | cons srv rest =>
      have counted : (List.range (totalWeight (srv :: rest))).countP
          (fun number => (electOne (fun _ => number) (srv :: rest)).1 = 0) = totalWeight (srv :: rest) := by
        rw [List.countP_eq_length.mpr (fun number _ => decide_eq_true (electOne_first _ _)), List.length_range]
      rw [List.tail_cons]
      constructor
      · rintro ⟨proportional, _⟩
        have first := proportional 0 (Nat.succ_pos rest.length)
        rw [counted, totalWeight_cons, List.getElem_cons_zero] at first
        apply totalWeight_eq_zero_iff.mp
        omega
      · intro others
        refine ⟨?_, orderLaw_first _ others⟩
        intro position inside
        cases position with
        | zero =>
            rw [counted, totalWeight_cons, totalWeight_eq_zero_iff.mpr others]
            rfl
        | succ position =>
            have never : ∀ number ∈ List.range (totalWeight (srv :: rest)),
                ¬decide ((electOne (fun _ => number) (srv :: rest)).1 = position + 1) = true := by
              intro number _
              simp [electOne_first]
            rw [List.countP_eq_zero.mpr never, List.getElem_cons_succ]
            exact (others _ (List.getElem_mem (Nat.lt_of_succ_lt_succ inside))).symm

/-- A list whose first record has all the weight. -/
theorem fairlyElected_single :
    FairlyElected [⟨"a", 5060, 1, 30⟩, ⟨"b", 5060, 1, 0⟩] :=
  (fairlyElected_iff (by decide)).mpr (by decide)

/-- The record without a weight is elected every time, and the other one never. -/
theorem not_fairlyElected_zero :
    0 < totalWeight [⟨"a", 5060, 1, 0⟩, ⟨"b", 5060, 1, 5⟩] ∧
      ¬FairlyElected [⟨"a", 5060, 1, 0⟩, ⟨"b", 5060, 1, 5⟩] := by
  refine ⟨by decide, ?_⟩
  rintro ⟨proportional, _⟩
  exact absurd (proportional 0 (by decide)) (by decide)

end DnsSrv

end BelleSip
