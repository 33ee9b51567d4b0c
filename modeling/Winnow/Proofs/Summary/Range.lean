import Mathlib.Data.List.Pairwise
import Winnow.Proofs.Summary.Distinct
import Winnow.Proofs.Summary.Gaps

/-!
# `Winnow.Proofs.Summary.Range` — numeric specs span the cells they describe

A numeric spec is read off sorted distinct values, and specs of several tables are merged by strict
comparisons in which pairs that do not compare are passed over. On unmixed cells nothing is passed
over: cells of numbers are ordered by value, so that the ends of a spec bound every cell behind it,
each being the cell of some row, and merging keeps this.

## Contents
- **`Cell.AtMost`** with **`AtMost.trans`**, **`atMost_of_not_less`**: numbers by value.
- **`NumericSpec.Spans`**: what a spec says on cells.
- **`spans_of_numericSpec`**, **`Spans.merge`**: specs of distinct values and merged specs.
-/

namespace Winnow

open Cell Summary

/-! ## Numbers by value -/

namespace Cell

/-- A cell compares with another one and is not above it. -/
def AtMost (a b : Cell) : Prop := ∃ o, a.compare? b = some o ∧ o ≠ .gt

variable {a b c : Cell}

/-- Seen from the upper cell, the order is not below. -/
theorem AtMost.swap (h : a.AtMost b) : ∃ o, b.compare? a = some o ∧ o ≠ .lt := by
  obtain ⟨o, ho, hne⟩ := h
  exact ⟨o.swap, compare?_swapped ho, fun hlt => hne (Ordering.swap_inj.mp hlt)⟩

theorem atMost_self (h : a.isComparable = true) : a.AtMost a :=
  ⟨.eq, sameAs_iff_compare?_eq.mp (sameAs_self_iff.mpr h), nofun⟩

theorem atMost_of_sameAs (h : a.sameAs b = true) : a.AtMost b ∧ b.AtMost a := by
  have heq := sameAs_iff_compare?_eq.mp h
  exact ⟨⟨.eq, heq, nofun⟩, .eq, compare?_swapped heq, nofun⟩

theorem atMost_integers {i j : Int64} : (integer i).AtMost (integer j) ↔ i.toInt ≤ j.toInt := by
  rw [← Int.isLE_compare, Ordering.isLE_iff_ne_gt]
  constructor
  · rintro ⟨o, ho, hne⟩
    rwa [← Option.some.inj ho] at hne
  · exact fun hne => ⟨_, rfl, hne⟩

theorem atMost_of_less (h : a.less b = true) : a.AtMost b :=
  ⟨.lt, less_iff.mp h, nofun⟩

/-- **The order by value is transitive on unmixed cells.** -/
theorem AtMost.trans {cells : List Cell} (hmix : Unmixed cells) (ha : a ∈ cells) (hb : b ∈ cells)
    (hc : c ∈ cells) (hab : a.AtMost b) (hbc : b.AtMost c) : a.AtMost c := by
  obtain ⟨o, ho, hne⟩ := hab
  obtain ⟨p, hp, hne'⟩ := hbc
  -- neither step goes up, so that they are of one direction unless one of them is level
  have hchain : (o = .eq ∨ p = .eq ∨ o = p) ∧ o.then p ≠ .gt := by
    cases o <;> cases p <;> simp_all
  exact ⟨_, compare?_then hmix ha hb hc ho hp hchain.1, hchain.2⟩

/-- Of two numbers, the one that is not below is above or the same. -/
theorem atMost_of_not_less (ha : a.isOrdered = true) (hb : b.isOrdered = true)
    (h : ¬ b.less a = true) : a.AtMost b := by
  obtain ⟨hda, hca⟩ := isOrdered_iff.mp ha
  obtain ⟨hdb, hcb⟩ := isOrdered_iff.mp hb
  obtain ⟨o, ho⟩ := Option.isSome_iff_exists.mp
    (compare?_isSome_iff.mpr ⟨hdb.trans hda.symm, hcb, hca⟩)
  refine ⟨o.swap, compare?_swapped ho, fun hgt => ?_⟩
  obtain rfl : o = .lt := Ordering.swap_inj.mp hgt
  exact h (less_iff.mpr ho)

end Cell

/-! ## Specs and the cells they describe -/

namespace NumericSpec

/-- **What a spec says on cells.** They are all numbers, none is below the minimum or above the
    maximum, both ends are among them, and the step is above zero. -/
structure Spans (spec : NumericSpec) (cells : List Cell) : Prop where
  numbers : ∀ cell ∈ cells, cell.isOrdered = true
  least : spec.min ∈ cells
  greatest : spec.max ∈ cells
  above : ∀ cell ∈ cells, spec.min.AtMost cell
  below : ∀ cell ∈ cells, cell.AtMost spec.max
  step : (integer 0).less spec.increment = true

/-! ### Specs of distinct values -/

/-- A spec is read off values that are all numbers: the first, the last, and a step above zero. -/
theorem numericSpec_eq_ok {column : String} {values : List Cell} {spec : NumericSpec}
    (h : numericSpec column values = .ok spec) :
    (∀ value ∈ values, value.isOrdered = true) ∧ (integer 0).less spec.increment = true ∧
      ∃ first rest, values = first :: rest ∧ spec.min = first ∧ spec.max = rest.getLastD first := by
  obtain ⟨_, _, hsmallest⟩ := smallest_of_numericSpec h
  obtain ⟨hnumbers, first, rest, hvalues, _, hmin, hmax⟩ := numericSpec_eq_ok_iff.mp h
  cases hsmallest with
  | some _ positive _ => exact ⟨hnumbers, positive, first, rest, hvalues, hmin, hmax⟩

/-- The first of ascending numbers is at most each of them, and the last is at least each. -/
theorem ends_of_ascending {first : Cell} {rest : List Cell}
    (hnumbers : ∀ value ∈ first :: rest, value.isOrdered = true)
    (hascending : (first :: rest).Pairwise Ascends) :
    ∀ value ∈ first :: rest, first.AtMost value ∧ value.AtMost (rest.getLastD first) := by
  have hcomparable : ∀ value ∈ first :: rest, value.isComparable = true :=
    fun value hvalue => (isOrdered_iff.mp (hnumbers value hvalue)).2
  have horder : (first :: rest).Pairwise AtMost := by
    refine hascending.imp_of_mem fun hv hw hlt => ?_
    exact ⟨.lt, hlt (hcomparable _ hv) (hcomparable _ hw), fun h => by cases h⟩
  intro value hvalue
  refine ⟨?_, ?_⟩
  · exact horder.rel_head_of_rel_head_head hvalue
      (atMost_self (hcomparable first List.mem_cons_self))
  · rw [← List.getLast_eq_getLastD (List.cons_ne_nil first rest)]
    exact horder.rel_getLast_of_rel_getLast_getLast hvalue
      (atMost_self (hcomparable _ (List.getLast_mem _)))

/-- If the distinct values are numbers, all cells are. -/
theorem isOrdered_of_isDistinct {cells values : List Cell} (hdistinct : IsDistinct cells values)
    (hnumbers : ∀ value ∈ values, value.isOrdered = true) :
    ∀ cell ∈ cells, cell.isOrdered = true := by
  intro cell hcell
  obtain ⟨value, hvalue, rfl | hrepeat⟩ := hdistinct.covers cell hcell
  · exact hnumbers cell hvalue
  · have hvalue := hnumbers value hvalue
    rcases isDuplicate_iff.mp hrepeat with hsame | ⟨_, rfl⟩
    · obtain ⟨hdomain, hcomparable, _⟩ := comparable_of_sameAs hsame
      exact isOrdered_iff.mpr ⟨hdomain.trans (isOrdered_iff.mp hvalue).1, hcomparable⟩
    · cases hvalue

/-- **The spec of distinct values spans the cells that they are the values of.** -/
theorem spans_of_numericSpec {column : String} {cells values : List Cell} {spec : NumericSpec}
    (hmix : Unmixed cells) (hdistinct : IsDistinct cells values)
    (h : numericSpec column values = .ok spec) : spec.Spans cells := by
  obtain ⟨hnumbers, hstep, first, rest, rfl, hmin, hmax⟩ := numericSpec_eq_ok h
  have hends := ends_of_ascending hnumbers hdistinct.ascending
  have hfirst := hdistinct.subset first List.mem_cons_self
  have hlast := hdistinct.subset _ (List.getLastD_mem_cons (l := rest) (a := first))
  have hordered := isOrdered_of_isDistinct hdistinct hnumbers
  -- each cell has the place of a distinct value, which lies between the first and the last
  have hvalue : ∀ cell ∈ cells, ∃ value ∈ first :: rest, cell.AtMost value ∧ value.AtMost cell := by
    intro cell hcell
    obtain ⟨value, hvalue, hsame⟩ :=
      hdistinct.exists_sameAs hcell (isOrdered_iff.mp (hordered cell hcell)).2
    exact ⟨value, hvalue, atMost_of_sameAs hsame⟩
  refine ⟨hordered, hmin ▸ hfirst, hmax ▸ hlast, fun cell hcell => ?_, fun cell hcell => ?_, hstep⟩
  · obtain ⟨value, hvalue, _, hle⟩ := hvalue cell hcell
    rw [hmin]
    exact (hends value hvalue).1.trans hmix hfirst (hdistinct.subset value hvalue) hcell hle
  · obtain ⟨value, hvalue, hle, _⟩ := hvalue cell hcell
    rw [hmax]
    exact hle.trans hmix hcell (hdistinct.subset value hvalue) hlast (hends value hvalue).2

/-! ### Merged specs -/

/-- **Merged specs span all cells of both.** -/
theorem Spans.merge {a b : NumericSpec} {cells others : List Cell}
    (hmix : Unmixed (cells ++ others)) (ha : a.Spans cells) (hb : b.Spans others) :
    (a.merge b).Spans (cells ++ others) := by
  have hleft : ∀ {cell}, cell ∈ cells → cell ∈ cells ++ others :=
    fun h => List.mem_append_left others h
  have hright : ∀ {cell}, cell ∈ others → cell ∈ cells ++ others :=
    fun h => List.mem_append_right cells h
  have hnumbers : ∀ cell ∈ cells ++ others, cell.isOrdered = true :=
    List.forall_mem_append.mpr ⟨ha.numbers, hb.numbers⟩
  -- each end is that of one of the specs, and by numbers it is at most or at least the other one
  refine ⟨hnumbers, ?_, ?_, ?_, ?_, ?_⟩
  · show (if b.min.less a.min then b.min else a.min) ∈ _
    split
    · exact hright hb.least
    · exact hleft ha.least
  · show (if a.max.less b.max then b.max else a.max) ∈ _
    split
    · exact hright hb.greatest
    · exact hleft ha.greatest
  · show ∀ cell ∈ _, AtMost (if b.min.less a.min then b.min else a.min) cell
    split
    · rename_i hless
      refine List.forall_mem_append.mpr ⟨fun cell hcell => ?_, hb.above⟩
      exact (atMost_of_less hless).trans hmix (hright hb.least) (hleft ha.least) (hleft hcell)
        (ha.above cell hcell)
    · rename_i hless
      have hle := atMost_of_not_less (ha.numbers _ ha.least) (hb.numbers _ hb.least) hless
      refine List.forall_mem_append.mpr ⟨ha.above, fun cell hcell => ?_⟩
      exact hle.trans hmix (hleft ha.least) (hright hb.least) (hright hcell) (hb.above cell hcell)
  · show ∀ cell ∈ _, AtMost cell (if a.max.less b.max then b.max else a.max)
    split
    · rename_i hless
      refine List.forall_mem_append.mpr ⟨fun cell hcell => ?_, hb.below⟩
      exact (ha.below cell hcell).trans hmix (hleft hcell) (hleft ha.greatest) (hright hb.greatest)
        (atMost_of_less hless)
    · rename_i hless
      have hle := atMost_of_not_less (hb.numbers _ hb.greatest) (ha.numbers _ ha.greatest) hless
      refine List.forall_mem_append.mpr ⟨ha.below, fun cell hcell => ?_⟩
      exact (hb.below cell hcell).trans hmix (hright hcell) (hright hb.greatest)
        (hleft ha.greatest) hle
  · show (integer 0).less (if b.increment.less a.increment then b.increment else a.increment) = _
    split
    · exact hb.step
    · exact ha.step

end NumericSpec

end Winnow
