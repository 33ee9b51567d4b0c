import Mathlib.Data.Set.Subsingleton
import Winnow.Proofs.Summary.Steps

/-!
# `Winnow.Proofs.Summary.Neighbours` — which integers have a numeric spec

The pass over the differences of neighbours gives up at the first one that does not fit a word of 64
bits, also if other neighbours are close to each other. Among integers the neighbours in the list of
distinct values are those with no other integer in between, so that the cells alone tell whether
there is a spec, and which fault there is otherwise.

## Contents
- **`smallestStep_eq_error_iff`**: when the pass gives up.
- **`Neighbours`**, **`beside_iff`**: integers with none in between.
- **`numericSpec_of_subsingleton`**, **`numericSpec_of_far`**, **`numericSpec_of_close`**: too few
  integers, neighbours that are too far apart, and a spec.
-/

namespace Winnow.Summary

open Cell

variable {column : String} {cells values : List Cell}

/-! ## Differences that do not fit -/

/-- The pass fails exactly if some neighbours have no difference. -/
theorem smallestStep_eq_error_iff {rest : List Cell} {e : Error} :
    ∀ {increment : Option Cell} {before : Cell},
      smallestStep column increment before rest = .error e ↔
        none ∈ gaps (before :: rest) ∧ e = .badData column := by
  induction rest with
  | nil => exact iff_of_false (fun h => by cases h) fun h => absurd h.1 List.not_mem_nil
  | cons next rest ih =>
    intro increment before
    rw [smallestStep, gaps, List.mem_cons]
    cases next.difference? before with
    | none =>
      refine ⟨fun h => ⟨Or.inl rfl, (Except.error.inj h).symm⟩, ?_⟩
      rintro ⟨_, rfl⟩
      rfl
    | some difference =>
      refine ih.trans (and_congr_left fun _ => ⟨Or.inr, ?_⟩)
      rintro (h | h)
      · cases h
      · exact h

/-- The difference from a lower integer is only missing beyond 64 bits. -/
theorem difference?_eq_none_iff {i j : Int64} (h : i.toInt < j.toInt) :
    (integer j).difference? (integer i) = none ↔ 0x8000000000000000 ≤ j.toInt - i.toInt := by
  rw [difference?, Option.map_eq_none_iff, int64?]
  split <;> simp <;> omega

/-! ## Neighbours -/

theorem mem_integersOf {i : Int64} : i.toInt ∈ integersOf cells ↔ .integer i ∈ cells := by
  constructor
  · rintro ⟨word, hword, heq⟩
    rwa [← Int64.toInt_inj.mp heq]
  · exact fun h => ⟨i, h, rfl⟩

/-- Two integers among cells with no other one in between. -/
structure Neighbours (cells : List Cell) (i j : Int) : Prop where
  lower : i ∈ integersOf cells
  upper : j ∈ integersOf cells
  below : i < j
  beside : ∀ k ∈ integersOf cells, k ≤ i ∨ j ≤ k

/-- **Neighbours stand side by side** in the list of distinct values. -/
theorem beside_iff (hints : Integers cells) (hdistinct : IsDistinct cells values) {i j : Int64} :
    [.integer i, .integer j] <:+: values ↔ Neighbours cells i.toInt j.toInt := by
  have hascending := hints.ascending hdistinct
  constructor
  · rintro ⟨before, after, rfl⟩
    have hvalue : ∀ {k : Int64}, .integer k ∈ cells →
        .integer k ∈ before ++ [.integer i, .integer j] ++ after :=
      fun hk => (hints.mem_iff hdistinct).mpr hk
    obtain ⟨hfront, _, hbehind⟩ := List.pairwise_append.mp hascending
    obtain ⟨_, hpair, hbefore⟩ := List.pairwise_append.mp hfront
    refine ⟨?_, ?_, ?_, ?_⟩
    · exact mem_integersOf.mpr (hdistinct.subset _ (by simp))
    · exact mem_integersOf.mpr (hdistinct.subset _ (by simp))
    · exact less_integers.mp ((List.pairwise_cons.mp hpair).1 _ List.mem_cons_self)
    · -- what stands before the two is below the lower one, what stands behind above the upper one
      rintro _ ⟨k, hk, rfl⟩
      rcases List.mem_append.mp (hvalue hk) with hk | hk
      · rcases List.mem_append.mp hk with hk | hk
        · exact Or.inl (Int.le_of_lt (less_integers.mp (hbefore _ hk _ List.mem_cons_self)))
        · rcases List.mem_pair.mp hk with heq | heq
          · exact Or.inl (Int.le_of_eq (congrArg Int64.toInt (Cell.integer.inj heq)))
          · exact Or.inr (Int.le_of_eq (congrArg Int64.toInt (Cell.integer.inj heq)).symm)
      · exact Or.inr (Int.le_of_lt (less_integers.mp (hbehind (.integer j) (by simp) _ hk)))
  · rintro ⟨hi, hj, hlt, hbeside⟩
    obtain ⟨next, hnext, habove, rfl | hbelow⟩ := exists_neighbour (hascending.imp less_iff.mp)
      ((hints.mem_iff hdistinct).mpr (mem_integersOf.mp hi))
      ((hints.mem_iff hdistinct).mpr (mem_integersOf.mp hj)) hlt
    · exact hnext
    · have hcell := hdistinct.subset next (hnext.subset (by simp))
      obtain ⟨k, rfl⟩ := hints next hcell
      have hlow := less_integers.mp habove
      have hhigh := less_integers.mp hbelow
      rcases hbeside k.toInt (mem_integersOf.mpr hcell) with hle | hle <;> omega

/-- Neighbours that are too far apart are those without a difference. -/
theorem none_mem_gaps_iff (hints : Integers cells) (hdistinct : IsDistinct cells values) :
    none ∈ gaps values ↔ ∃ i j, Neighbours cells i j ∧ 0x8000000000000000 ≤ j - i := by
  rw [mem_gaps_iff]
  constructor
  · rintro ⟨v, w, hbeside, hnone⟩
    obtain ⟨i, rfl⟩ := hints v (hdistinct.subset v (hbeside.subset (by simp)))
    obtain ⟨j, rfl⟩ := hints w (hdistinct.subset w (hbeside.subset (by simp)))
    have hneighbours := (beside_iff hints hdistinct).mp hbeside
    exact ⟨_, _, hneighbours, (difference?_eq_none_iff hneighbours.below).mp hnone⟩
  · rintro ⟨_, _, hneighbours, hfar⟩
    obtain ⟨i, _, rfl⟩ := hneighbours.lower
    obtain ⟨j, _, rfl⟩ := hneighbours.upper
    exact ⟨_, _, (beside_iff hints hdistinct).mpr hneighbours,
      (difference?_eq_none_iff hneighbours.below).mpr hfar⟩

/-! ## Specs of integers -/

/-- Numbers in a list are refused as a whole only for the differences of neighbours. -/
theorem numericSpec_cons {first : Cell} {rest : List Cell}
    (h : ∀ value ∈ first :: rest, value.isOrdered = true) :
    numericSpec column (first :: rest) = do
      match ← smallestStep column none first rest with
      | none => throw (.tooFewValues column)
      | some increment => return ⟨first, rest.getLastD first, increment⟩ := by
  have hgood : (first :: rest).any isBadNumber = false := by
    refine List.any_eq_false.mpr fun value hvalue => ?_
    simp [isBadNumber_eq, h value hvalue]
  rw [numericSpec, hgood]
  rfl

theorem Integers.isOrdered (h : Integers cells) (hdistinct : IsDistinct cells values) :
    ∀ value ∈ values, value.isOrdered = true := by
  intro value hvalue
  obtain ⟨i, rfl⟩ := h value (hdistinct.subset value hvalue)
  rfl

/-- Two integers at least, that is two distinct values. -/
theorem exists_two_values (hints : Integers cells) (hdistinct : IsDistinct cells values)
    (h : (integersOf cells).Nontrivial) :
    ∃ first second rest, values = first :: second :: rest := by
  obtain ⟨_, ⟨i, hi, rfl⟩, _, ⟨j, hj, rfl⟩, hne⟩ := h
  have hi := (hints.mem_iff hdistinct).mpr hi
  have hj := (hints.mem_iff hdistinct).mpr hj
  match values with
  | [] => cases hi
  | [value] =>
    have hsame := (List.mem_singleton.mp hi).trans (List.mem_singleton.mp hj).symm
    exact absurd (congrArg Int64.toInt (Cell.integer.inj hsame)) hne
  | first :: second :: rest => exact ⟨first, second, rest, rfl⟩

theorem numericSpec_of_subsingleton (hints : Integers cells) (hdistinct : IsDistinct cells values)
    (h : (integersOf cells).Subsingleton) :
    numericSpec column values = .error (.tooFewValues column) := by
  have hordered := hints.isOrdered hdistinct
  have hascending := hints.ascending hdistinct
  match values with
  | [] => rfl
  | [value] =>
    rw [numericSpec_cons hordered]
    rfl
  | first :: second :: rest =>
    have hfirst := hdistinct.subset first List.mem_cons_self
    have hsecond := hdistinct.subset second (by simp)
    have hless := (List.pairwise_cons.mp hascending).1 second List.mem_cons_self
    obtain ⟨i, rfl⟩ := hints _ hfirst
    obtain ⟨j, rfl⟩ := hints _ hsecond
    have hsame := h (mem_integersOf.mpr hfirst) (mem_integersOf.mpr hsecond)
    exact absurd (less_integers.mp hless) (by omega)

theorem numericSpec_of_far (hints : Integers cells) (hdistinct : IsDistinct cells values)
    {i j : Int} (h : Neighbours cells i j) (hfar : 0x8000000000000000 ≤ j - i) :
    numericSpec column values = .error (.badData column) := by
  have hnone := (none_mem_gaps_iff hints hdistinct).mpr ⟨i, j, h, hfar⟩
  have hordered := hints.isOrdered hdistinct
  cases values with
  | nil => cases hnone
  | cons first rest =>
    rw [numericSpec_cons hordered, smallestStep_eq_error_iff.mpr ⟨hnone, rfl⟩]
    rfl

/-- **Integers that are close to their neighbours have a spec.** -/
theorem numericSpec_of_close (hints : Integers cells) (hdistinct : IsDistinct cells values)
    (htwo : (integersOf cells).Nontrivial)
    (hclose : ∀ i j, Neighbours cells i j → j - i < 0x8000000000000000) :
    ∃ spec, numericSpec column values = .ok spec := by
  have hevery : none ∉ gaps values := by
    intro hnone
    obtain ⟨i, j, hneighbours, hfar⟩ := (none_mem_gaps_iff hints hdistinct).mp hnone
    exact absurd (hclose i j hneighbours) (Int.not_lt.mpr hfar)
  have hordered := hints.isOrdered hdistinct
  obtain ⟨first, second, rest, rfl⟩ := exists_two_values hints hdistinct htwo
  rw [numericSpec_cons hordered]
  cases hstep : smallestStep column none first (second :: rest) with
  | error e => exact absurd (smallestStep_eq_error_iff.mp hstep).1 hevery
  | ok found =>
    cases found with
    | some increment => exact ⟨_, rfl⟩
    | none =>
      -- the second value is above the first one, so that their difference is above zero
      exfalso
      obtain ⟨differences, hgaps, hfold⟩ := smallestStep_eq_ok_iff.mp hstep
      have hsmallest := smallest_foldl differences
      rw [hfold] at hsmallest
      have hless := (List.pairwise_cons.mp (hints.ascending hdistinct)).1 second List.mem_cons_self
      obtain ⟨i, rfl⟩ := hints first (hdistinct.subset first List.mem_cons_self)
      obtain ⟨j, rfl⟩ := hints second (hdistinct.subset second (by simp))
      obtain ⟨difference, hmem, hdifference⟩ := exists_difference hgaps ⟨[], rest, rfl⟩
      obtain ⟨word, rfl, hword⟩ := difference?_integers hdifference
      have hwide := less_integers.mp hless
      cases hsmallest with
      | none hnone =>
        refine hnone _ hmem (less_integers.mpr ?_)
        show (0 : Int) < word.toInt
        omega

end Winnow.Summary
