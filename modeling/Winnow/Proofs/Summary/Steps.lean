import Mathlib.Algebra.Order.Group.Unbundled.Int
import Mathlib.Order.Bounds.Defs
import Winnow.Proofs.Summary.Range

/-!
# `Winnow.Proofs.Summary.Steps` — the step of a numeric spec

The step of a numeric spec is a difference of neighbouring distinct values. Among integers every
difference is exact, and two cells are at least as far apart as the lower one and its neighbour: the
smallest step between neighbours is the smallest one of all pairs.

## Contents
- **`IsStep`**, **`isStep_of_numericSpec`**: the step between neighbours.
- **`Integers`**, **`Exact`**, **`exact_of_numericSpec`**: specs of integers.
- **`sortedDistinct_eq_of_mem_iff`**: integers in another order and number.
-/

namespace Winnow

open Cell

namespace Summary

variable {column : String} {cells values : List Cell} {spec : NumericSpec}

/-! ## The step between neighbours -/

/-- **The step between neighbours.** The values ascend, the step is the difference of two neighbours
    and above zero, and no difference of neighbours that is above zero is below the step. -/
structure IsStep (values : List Cell) (step : Cell) : Prop where
  ascending : values.Pairwise fun v w => v.compare? w = some .lt
  gap : ∃ v w, [v, w] <:+: values ∧ w.difference? v = some step
  positive : step.compare? (.integer 0) = some .gt
  least : ∀ v w difference, [v, w] <:+: values → w.difference? v = some difference →
    difference.compare? (.integer 0) = some .gt → difference.compare? step ≠ some .lt

theorem isStep_of_numericSpec (hdistinct : IsDistinct cells values)
    (h : numericSpec column values = .ok spec) : IsStep values spec.increment := by
  obtain ⟨hnumbers, _⟩ := numericSpec_eq_ok_iff.mp h
  obtain ⟨differences, hgaps, hsmallest⟩ := smallest_of_numericSpec h
  have hmem : ∀ difference, some difference ∈ gaps values ↔ difference ∈ differences := by
    intro difference
    rw [hgaps]
    simp
  cases hsmallest with
  | some mem positive least =>
    refine ⟨?_, mem_gaps_iff.mp ((hmem _).mpr mem), compare?_eq_gt_iff.mpr positive, ?_⟩
    · refine hdistinct.ascending.imp_of_mem fun hv hw hascends => ?_
      exact hascends (isOrdered_iff.mp (hnumbers _ hv)).2 (isOrdered_iff.mp (hnumbers _ hw)).2
    · intro v w difference hbeside hdifference hpositive hbelow
      have hseen := (hmem difference).mp (mem_gaps_iff.mpr ⟨v, w, hbeside, hdifference⟩)
      exact least difference hseen (compare?_eq_gt_iff.mp hpositive) (less_iff.mpr hbelow)

/-! ## Integers -/

/-- All cells are integers. -/
def Integers (cells : List Cell) : Prop := ∀ cell ∈ cells, ∃ i, cell = .integer i

/-- The integers among cells, by value. -/
def integersOf (cells : List Cell) : Set Int := {i | ∃ word : Int64, .integer word ∈ cells ∧
  word.toInt = i}

/-- **The exact spec of integers.** The ends are the least and the greatest of them, which differ,
    and the step is the least distance above zero of any two. -/
structure Exact (cells : List Cell) (low high step : Int) : Prop where
  least : IsLeast (integersOf cells) low
  greatest : IsGreatest (integersOf cells) high
  proper : low < high
  step : IsLeast {d | 0 < d ∧ ∃ i ∈ integersOf cells, ∃ j ∈ integersOf cells, |i - j| = d} step

theorem difference?_integers {i j : Int64} {difference : Cell}
    (h : (integer i).difference? (integer j) = some difference) :
    ∃ word : Int64, difference = .integer word ∧ word.toInt = i.toInt - j.toInt := by
  obtain ⟨word, hword, rfl⟩ := Option.map_eq_some_iff.mp h
  exact ⟨word, rfl, (int64?_eq_some_iff.mp hword).symm⟩

theorem Integers.unmixed (h : Integers cells) : Unmixed cells := by
  intro x i j hx
  obtain ⟨_, hfloat⟩ := h _ hx
  cases hfloat

theorem Integers.oneDomain (h : Integers cells) : OneDomain cells := by
  intro a ha b hb
  obtain ⟨_, rfl⟩ := h a ha
  obtain ⟨_, rfl⟩ := h b hb
  rfl

/-- Integers are the same only if they are equal, so that all of them are distinct values. -/
theorem Integers.mem_iff (h : Integers cells) (hdistinct : IsDistinct cells values) {cell : Cell} :
    cell ∈ values ↔ cell ∈ cells := by
  refine ⟨hdistinct.subset cell, fun hcell => ?_⟩
  obtain ⟨i, rfl⟩ := h cell hcell
  obtain ⟨value, hvalue, hsame⟩ := hdistinct.exists_sameAs hcell rfl
  obtain ⟨j, rfl⟩ := h value (hdistinct.subset value hvalue)
  rwa [integer_inj_of_sameAs hsame]

/-- The distinct values of integers ascend strictly. -/
theorem Integers.ascending (h : Integers cells) (hdistinct : IsDistinct cells values) :
    values.Pairwise fun v w => v.less w = true := by
  refine hdistinct.ascending.imp_of_mem fun hv hw hascends => ?_
  obtain ⟨i, rfl⟩ := h _ (hdistinct.subset _ hv)
  obtain ⟨j, rfl⟩ := h _ (hdistinct.subset _ hw)
  exact less_iff.mpr (hascends rfl rfl)

/-- Next to an integer that is not the greatest stands one above it, and none is in between. -/
theorem exists_neighbour {i j : Int64}
    (hascending : values.Pairwise fun v w => v.compare? w = some .lt)
    (hi : .integer i ∈ values) (hj : .integer j ∈ values) (hlt : i.toInt < j.toInt) :
    ∃ next, [.integer i, next] <:+: values ∧ (Cell.integer i).less next = true ∧
      (next = .integer j ∨ next.less (.integer j) = true) := by
  obtain ⟨before, after, rfl⟩ := List.append_of_mem hi
  obtain ⟨_, htail, hacross⟩ := List.pairwise_append.mp hascending
  obtain ⟨habove, hafter⟩ := List.pairwise_cons.mp htail
  have hj : Cell.integer j ∈ after := by
    rcases List.mem_append.mp hj with hbefore | hj
    · have hbelow := less_integers.mp (less_iff.mpr (hacross _ hbefore _ List.mem_cons_self))
      omega
    · rcases List.mem_cons.mp hj with heq | hj
      · obtain rfl := Cell.integer.inj heq
        omega
      · exact hj
  cases after with
  | nil => cases hj
  | cons next after =>
    refine ⟨next, ⟨before, after, by simp⟩, less_iff.mpr (habove next List.mem_cons_self), ?_⟩
    rcases List.mem_cons.mp hj with rfl | hj
    · exact Or.inl rfl
    · exact Or.inr (less_iff.mpr ((List.pairwise_cons.mp hafter).1 _ hj))

/-- **Neighbours are closest.** The step is at most the distance of any two integers. -/
theorem step_le_of_lt (hints : Integers cells) (hdistinct : IsDistinct cells values)
    (h : numericSpec column values = .ok spec) {step i j : Int64}
    (hstep : spec.increment = .integer step) (hi : .integer i ∈ cells) (hj : .integer j ∈ cells)
    (hlt : i.toInt < j.toInt) : step.toInt ≤ j.toInt - i.toInt := by
  obtain ⟨differences, hgaps, _⟩ := smallest_of_numericSpec h
  have hisStep := isStep_of_numericSpec hdistinct h
  -- the neighbour above the lower one is not above the higher one, and its difference counts
  obtain ⟨next, hbeside, habove, hupto⟩ := exists_neighbour hisStep.ascending
    ((hints.mem_iff hdistinct).mpr hi) ((hints.mem_iff hdistinct).mpr hj) hlt
  obtain ⟨k, rfl⟩ := hints next (hdistinct.subset next (hbeside.subset (by simp)))
  have hk : k.toInt ≤ j.toInt := by
    rcases hupto with heq | hless
    · exact Int.le_of_eq (congrArg Int64.toInt (Cell.integer.inj heq))
    · exact Int.le_of_lt (less_integers.mp hless)
  -- a spec was found, so that this difference did not overflow
  obtain ⟨difference, _, hdifference⟩ := exists_difference hgaps hbeside
  obtain ⟨word, rfl, hword⟩ := difference?_integers hdifference
  have hwide := less_integers.mp habove
  have hpositive : (Cell.integer word).compare? (.integer 0) = some .gt := by
    refine compare?_eq_gt_iff.mpr (less_integers.mpr ?_)
    show (0 : Int) < word.toInt
    omega
  have hnot := hisStep.least _ _ _ hbeside hdifference hpositive
  rw [hstep] at hnot
  have hle : ¬ word.toInt < step.toInt := fun hbelow =>
    hnot (less_iff.mp (less_integers.mpr hbelow))
  omega

/-- **Specs of integers are exact.** -/
theorem exact_of_numericSpec (hints : Integers cells) (hdistinct : IsDistinct cells values)
    (h : numericSpec column values = .ok spec) :
    ∃ low high step : Int64, spec = ⟨.integer low, .integer high, .integer step⟩ ∧
      Exact cells low.toInt high.toInt step.toInt := by
  have hspans := NumericSpec.spans_of_numericSpec hints.unmixed hdistinct h
  have hisStep := isStep_of_numericSpec hdistinct h
  obtain ⟨v, w, hbeside, hgap⟩ := hisStep.gap
  have hv := hdistinct.subset v (hbeside.subset (by simp))
  have hw := hdistinct.subset w (hbeside.subset (by simp))
  obtain ⟨low, hlow⟩ := hints _ hspans.least
  obtain ⟨high, hhigh⟩ := hints _ hspans.greatest
  obtain ⟨i, rfl⟩ := hints v hv
  obtain ⟨j, rfl⟩ := hints w hw
  obtain ⟨step, hstep, hvalue⟩ := difference?_integers hgap
  have hpositive : 0 < step.toInt := by
    have habove := compare?_eq_gt_iff.mp hisStep.positive
    rw [hstep] at habove
    exact less_integers.mp habove
  have hbelow : ∀ a : Int64, .integer a ∈ cells → low.toInt ≤ a.toInt := by
    intro a ha
    have hle := hspans.above _ ha
    rw [hlow] at hle
    exact atMost_integers.mp hle
  have habove : ∀ a : Int64, .integer a ∈ cells → a.toInt ≤ high.toInt := by
    intro a ha
    have hle := hspans.below _ ha
    rw [hhigh] at hle
    exact atMost_integers.mp hle
  refine ⟨low, high, step, ?_, ⟨⟨low, hlow ▸ hspans.least, rfl⟩, ?_⟩,
    ⟨⟨high, hhigh ▸ hspans.greatest, rfl⟩, ?_⟩, ?_, ⟨hpositive, j.toInt, ⟨j, hw, rfl⟩, i.toInt,
      ⟨i, hv, rfl⟩, ?_⟩, ?_⟩
  · rw [← hlow, ← hhigh, ← hstep]
  · rintro _ ⟨a, ha, rfl⟩
    exact hbelow a ha
  · rintro _ ⟨a, ha, rfl⟩
    exact habove a ha
  · have hlowest := hbelow i hv
    have hhighest := habove j hw
    omega
  · rw [hvalue] at hpositive ⊢
    exact abs_of_pos hpositive
  · rintro _ ⟨hapart, _, ⟨a, ha, rfl⟩, _, ⟨b, hb, rfl⟩, rfl⟩
    rcases Int.lt_trichotomy a.toInt b.toInt with hlt | heq | hgt
    · rw [abs_sub_comm, abs_of_pos (Int.sub_pos_of_lt hlt)]
      exact step_le_of_lt hints hdistinct h hstep ha hb hlt
    · rw [heq, Int.sub_self, abs_zero] at hapart
      omega
    · rw [abs_of_pos (Int.sub_pos_of_lt hgt)]
      exact step_le_of_lt hints hdistinct h hstep hb ha hgt

/-- **Order and repetition of integers** do not change their distinct values. -/
theorem sortedDistinct_eq_of_mem_iff {others : List Cell} (hints : Integers cells)
    (hmem : ∀ cell, cell ∈ others ↔ cell ∈ cells) :
    sortedDistinct others = sortedDistinct cells := by
  have hothers : Integers others := fun cell hcell => hints cell ((hmem cell).mp hcell)
  have hnodup : ∀ {values : List Cell}, values.Pairwise (fun v w => v.less w = true) →
      values.Nodup := by
    intro values h
    refine List.Pairwise.imp ?_ h
    rintro v _ hless rfl
    exact less_irrefl v hless
  obtain ⟨values, hvalues⟩ := sortedDistinct_of_oneDomain hints.oneDomain
  obtain ⟨values', hvalues'⟩ := sortedDistinct_of_oneDomain hothers.oneDomain
  have hdistinct := isDistinct_of_sortedDistinct hints.unmixed hvalues
  have hdistinct' := isDistinct_of_sortedDistinct hothers.unmixed hvalues'
  have hsorted := hints.ascending hdistinct
  have hsorted' := hothers.ascending hdistinct'
  -- both are strictly ascending, so that having the same members they are one list
  have hperm : values'.Perm values :=
    (List.perm_ext_iff_of_nodup (hnodup hsorted') (hnodup hsorted)).mpr fun cell => by
      rw [hothers.mem_iff hdistinct', hints.mem_iff hdistinct, hmem]
  rw [hvalues, hvalues']
  refine congrArg Except.ok (hperm.eq_of_pairwise (fun a b _ _ hab hba => ?_) hsorted' hsorted)
  exact absurd (less_trans hab hba) (less_irrefl a)

end Summary

end Winnow
