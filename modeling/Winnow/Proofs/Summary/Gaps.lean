import Winnow.Proofs.Cell.Below
import Winnow.Proofs.Faults

/-!
# `Winnow.Proofs.Summary.Gaps` — one pass over the differences of neighbours

The step of a numeric spec is found in one pass that takes each value from the next one and holds
the smallest difference above zero. A difference is given up for one strictly below it only, and
being strictly below is transitive: so none of those given up is below the one held in the end.

## Contents
- **`gaps`**, **`mem_gaps_iff`**: the differences of neighbours.
- **`smallestStep_eq_ok_iff`**: the pass as a fold over them.
- **`Smallest`** with **`Smallest.narrow`**, **`smallest_foldl`**: what the pass holds, after one
  more difference and after all.
- **`numericSpec_eq_ok_iff`**, **`smallest_of_numericSpec`**: specs as read off values.
-/

namespace Winnow.Summary

open Cell

variable {column : String} {values : List Cell} {spec : NumericSpec}

/-! ## Differences of neighbours -/

/-- The differences of neighbours, each cell taken from the next one. -/
def gaps : List Cell → List (Option Cell)
  | v :: w :: rest => w.difference? v :: gaps (w :: rest)
  | _ => []

theorem mem_gaps_iff {difference : Option Cell} :
    difference ∈ gaps values ↔ ∃ v w, [v, w] <:+: values ∧ w.difference? v = difference := by
  induction values with
  | nil => exact iff_of_false List.not_mem_nil (by rintro ⟨v, w, hbeside, _⟩; simp at hbeside)
  | cons first rest ih =>
    cases rest with
    | nil =>
      refine iff_of_false List.not_mem_nil ?_
      rintro ⟨v, w, hbeside, _⟩
      have := hbeside.length_le
      simp at this
    | cons next rest =>
      rw [gaps, List.mem_cons, ih]
      constructor
      · rintro (rfl | ⟨v, w, hbeside, hdifference⟩)
        · exact ⟨first, next, ⟨[], rest, rfl⟩, rfl⟩
        · exact ⟨v, w, hbeside.trans (List.suffix_cons first _).isInfix, hdifference⟩
      · rintro ⟨v, w, hbeside, rfl⟩
        rcases List.infix_cons_iff.mp hbeside with hfirst | hrest
        · obtain ⟨rfl, hnext⟩ := List.cons_prefix_cons.mp hfirst
          obtain ⟨rfl, _⟩ := List.cons_prefix_cons.mp hnext
          exact Or.inl rfl
        · exact Or.inr ⟨v, w, hrest, rfl⟩

/-- Of neighbours that all have a difference, any two have one among these. -/
theorem exists_difference {differences : List Cell} {v w : Cell}
    (h : gaps values = differences.map some) (hbeside : [v, w] <:+: values) :
    ∃ difference ∈ differences, w.difference? v = some difference := by
  have hgap := mem_gaps_iff.mpr ⟨v, w, hbeside, rfl⟩
  rw [h] at hgap
  obtain ⟨difference, hmem, hdifference⟩ := List.mem_map.mp hgap
  exact ⟨difference, hmem, hdifference.symm⟩

/-- **One pass.** It succeeds if all neighbours have a difference, and narrows the increment by one
    after the other. -/
theorem smallestStep_eq_ok_iff {rest : List Cell} {found : Option Cell} :
    ∀ {increment : Option Cell} {before : Cell},
      smallestStep column increment before rest = .ok found ↔
        ∃ differences : List Cell, gaps (before :: rest) = differences.map some ∧
          differences.foldl narrow increment = found := by
  induction rest with
  | nil =>
    intro increment before
    rw [smallestStep, Except.ok.injEq]
    constructor
    · intro h
      exact ⟨[], rfl, h⟩
    · rintro ⟨differences, hgaps, h⟩
      obtain rfl : differences = [] := List.map_eq_nil_iff.mp hgaps.symm
      exact h
  | cons next rest ih =>
    intro increment before
    rw [smallestStep, gaps]
    cases next.difference? before with
    | none =>
      refine iff_of_false (fun h => by cases h) ?_
      rintro ⟨differences, hgaps, _⟩
      cases differences <;> cases hgaps
    | some difference =>
      refine ih.trans ⟨?_, ?_⟩
      · rintro ⟨differences, hgaps, h⟩
        exact ⟨difference :: differences, congrArg (some difference :: ·) hgaps, h⟩
      · rintro ⟨differences, hgaps, h⟩
        obtain ⟨first, differences, rfl, hfirst, hrest⟩ := List.map_eq_cons_iff.mp hgaps.symm
        obtain rfl := Option.some.inj hfirst
        exact ⟨differences, hrest.symm, h⟩

/-! ## What the pass keeps -/

/-- **The increment among the differences seen**: one above zero that has none of those below it, or
    nothing if none is above zero. -/
inductive Smallest (seen : List Cell) : Option Cell → Prop where
  | none (h : ∀ difference ∈ seen, ¬ (integer 0).less difference = true) : Smallest seen none
  | some {step : Cell} (mem : step ∈ seen) (positive : (integer 0).less step = true)
      (least : ∀ difference ∈ seen, (integer 0).less difference = true →
        ¬ difference.less step = true) : Smallest seen (some step)

/-- One more difference is seen. -/
theorem Smallest.narrow {seen : List Cell} {increment : Option Cell} (h : Smallest seen increment)
    (difference : Cell) : Smallest (seen ++ [difference]) (narrow increment difference) := by
  have hlast : difference ∈ seen ++ [difference] := List.mem_append_right _ List.mem_cons_self
  unfold Summary.narrow
  split
  · rename_i hpositive
    cases h with
    | none hnone =>
      refine .some hlast hpositive (List.forall_mem_append.mpr ⟨?_, ?_⟩)
      · exact fun other hother habove => absurd habove (hnone other hother)
      · exact List.forall_mem_singleton.mpr fun _ => less_irrefl difference
    | @some held mem positive least =>
      dsimp only
      split
      · rename_i hless
        -- what would be below the new difference would be below the one held before
        refine .some hlast hpositive (List.forall_mem_append.mpr ⟨?_, ?_⟩)
        · exact fun other hother habove hbelow =>
            least other hother habove (less_trans hbelow hless)
        · exact List.forall_mem_singleton.mpr fun _ => less_irrefl difference
      · rename_i hless
        refine .some (List.mem_append_left _ mem) positive (List.forall_mem_append.mpr ⟨least, ?_⟩)
        exact List.forall_mem_singleton.mpr fun _ => hless
  · rename_i hpositive
    cases h with
    | none hnone =>
      exact .none (List.forall_mem_append.mpr ⟨hnone, List.forall_mem_singleton.mpr hpositive⟩)
    | some mem positive least =>
      refine .some (List.mem_append_left _ mem) positive (List.forall_mem_append.mpr ⟨least, ?_⟩)
      exact List.forall_mem_singleton.mpr fun habove => absurd habove hpositive

/-- All differences are seen. -/
theorem Smallest.foldl (differences : List Cell) : ∀ {seen : List Cell} {increment : Option Cell},
    Smallest seen increment →
      Smallest (seen ++ differences) (differences.foldl Summary.narrow increment) := by
  induction differences with
  | nil =>
    intro seen increment h
    rwa [List.append_nil]
  | cons difference rest ih =>
    intro seen increment h
    have hrest := ih (h.narrow difference)
    rwa [List.append_assoc] at hrest

/-- The whole pass holds the smallest of the differences. -/
theorem smallest_foldl (differences : List Cell) :
    Smallest differences (differences.foldl narrow none) :=
  Smallest.foldl differences (.none fun _ hmem => absurd hmem List.not_mem_nil)

/-! ## Specs read off values -/

theorem isBadNumber_eq (cell : Cell) : isBadNumber cell = !cell.isOrdered := by
  rw [isBadNumber, isOrdered, Bool.not_and, Bool.not_not]

/-- A spec is read off values that are all numbers: the first, the last, and the step found. -/
theorem numericSpec_eq_ok_iff :
    numericSpec column values = .ok spec ↔
      (∀ value ∈ values, value.isOrdered = true) ∧ ∃ first rest, values = first :: rest ∧
        smallestStep column none first rest = .ok (some spec.increment) ∧
        spec.min = first ∧ spec.max = rest.getLastD first := by
  have hgood : values.any isBadNumber = false ↔ ∀ value ∈ values, value.isOrdered = true := by
    simp [isBadNumber_eq]
  unfold numericSpec
  rw [← hgood]
  cases values.any isBadNumber with
  | true => exact iff_of_false (fun h => by cases h) fun h => by cases h.1
  | false =>
    constructor
    · intro h
      refine ⟨rfl, ?_⟩
      cases values with
      | nil => cases h
      | cons first rest =>
        obtain ⟨found, hfound, h⟩ := bind_eq_ok_iff.mp h
        cases found with
        | none => cases h
        | some increment =>
          obtain rfl := Except.ok.inj h
          exact ⟨first, rest, rfl, hfound, rfl, rfl⟩
    · rintro ⟨_, first, rest, rfl, hfound, rfl, hmax⟩
      refine bind_eq_ok_iff.mpr ⟨_, hfound, ?_⟩
      rw [← hmax]
      rfl

/-- The increment of a spec is the smallest of the differences of neighbours, all of which exist. -/
theorem smallest_of_numericSpec (h : numericSpec column values = .ok spec) :
    ∃ differences : List Cell, gaps values = differences.map some ∧
      Smallest differences (some spec.increment) := by
  obtain ⟨_, first, rest, rfl, hstep, _⟩ := numericSpec_eq_ok_iff.mp h
  obtain ⟨differences, hgaps, hfold⟩ := smallestStep_eq_ok_iff.mp hstep
  exact ⟨differences, hgaps, hfold ▸ smallest_foldl differences⟩

end Winnow.Summary
