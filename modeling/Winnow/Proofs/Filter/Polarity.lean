import Mathlib.Algebra.Ring.Parity
import Winnow.Proofs.Filter.Context

/-!
# `Winnow.Proofs.Filter.Polarity` — a larger selection at a place

A filter at a place may be replaced by one that selects more rows. Whether the whole then selects
more or fewer is decided by the negations around the place: each of them turns the inclusion over,
whatever arguments stand beside it, so that it is kept by an even number of them and reversed by an
odd one.

## Contents
- **`subset_iff_holds`**: inclusion of selections, row by row.
- **`holds_argument_mono`**, **`holds_argument_anti`**: one combinator.
- **`Context.negations`**, **`Context.holds_fill_polarity`**: a place below any number of them.
- **`index_fill_polarity`**: selections of the whole, with longer lists of values as a case;
  **`index_fill_polarity_sizes`**: below one negation and below two.
-/

namespace Winnow

/-- Inclusion of sets: every position of the first is in the second. -/
instance : HasSubset RowSet := ⟨fun s t => ∀ i, s.contains i = true → t.contains i = true⟩

namespace Filter

/-! ## Inclusion of selections -/

/-- One selection is within another exactly if, on each row, the second filter holds where the first
    one does. -/
theorem subset_iff_holds {f g : Filter} {rows : List Row} {s t : RowSet}
    (hf : f.index rows = .ok s) (hg : g.index rows = .ok t) :
    s ⊆ t ↔ ∀ row ∈ rows, f.Holds row → g.Holds row := by
  constructor
  · intro hsub row hrow hholds
    obtain ⟨i, hi, hget⟩ := List.getElem_of_mem hrow
    have hsome : rows[i]? = some row := List.getElem?_eq_some_iff.mpr ⟨hi, hget⟩
    obtain ⟨other, hother, hholds'⟩ :=
      (selects_index hg i).mp (hsub i ((selects_index hf i).mpr ⟨row, hsome, hholds⟩))
    obtain rfl : row = other := Option.some.inj (hsome.symm.trans hother)
    exact hholds'
  · intro hholds i hi
    obtain ⟨row, hrow, hf⟩ := (selects_index hf i).mp hi
    exact (selects_index hg i).mpr ⟨row, hrow, hholds row (List.mem_of_getElem? hrow) hf⟩

/-! ## One combinator -/

section Argument

variable {f g : Filter} {row : Row} (h : f.Holds row → g.Holds row) (before after : List Filter)
include h

/-- A conjunction or an alternative still holds if one of its arguments is replaced by one that
    holds wherever the old one does. -/
theorem holds_argument_mono {combinator : Combinator} (hne : combinator ≠ .none) :
    (combine combinator (before ++ f :: after)).Holds row →
      (combine combinator (before ++ g :: after)).Holds row := by
  cases combinator with
  | all =>
    rw [combine_all_holds, combine_all_holds, List.forall_mem_append, List.forall_mem_append,
      List.forall_mem_cons, List.forall_mem_cons]
    exact fun ⟨hbefore, hf, hafter⟩ => ⟨hbefore, h hf, hafter⟩
  | any =>
    rw [combine_any_holds, combine_any_holds]
    rintro ⟨argument, hmem, hholds⟩
    rcases List.mem_append.mp hmem with hmem | hmem
    · exact ⟨argument, List.mem_append_left _ hmem, hholds⟩
    rcases List.mem_cons.mp hmem with rfl | hmem
    · exact ⟨g, List.mem_append_right _ List.mem_cons_self, h hholds⟩
    · exact ⟨argument, List.mem_append_right _ (List.mem_cons_of_mem _ hmem), hholds⟩
  | none => exact absurd rfl hne

/-- A negation holds before such a replacement if it holds after it. -/
theorem holds_argument_anti :
    (combine .none (before ++ g :: after)).Holds row →
      (combine .none (before ++ f :: after)).Holds row := by
  rw [combine_none_holds, combine_none_holds, List.forall_mem_append, List.forall_mem_append,
    List.forall_mem_cons, List.forall_mem_cons]
  exact fun ⟨hbefore, hg, hafter⟩ => ⟨hbefore, fun hf => hg (h hf), hafter⟩

end Argument

/-! ## Places -/

namespace Context

/-- The number of negations around a place. -/
def negations : Context → Nat
  | whole => 0
  | argument .none _ place _ => place.negations + 1
  | argument .all _ place _ | argument .any _ place _ => place.negations

/-- **Every negation turns the implication over.** Both directions are carried along, since each of
    them below a negation is needed for the other one above it. -/
theorem holds_fill_polarity {f g : Filter} {row : Row} (h : f.Holds row → g.Holds row)
    (context : Context) :
    (Even context.negations → (context.fill f).Holds row → (context.fill g).Holds row) ∧
    (Odd context.negations → (context.fill g).Holds row → (context.fill f).Holds row) := by
  induction context with
  | whole => exact ⟨fun _ => h, fun hodd => absurd hodd (by decide)⟩
  | argument combinator before place after ih =>
    obtain ⟨heven, hodd⟩ := ih
    cases combinator with
    | all =>
      refine ⟨fun hparity => ?_, fun hparity => ?_⟩
      · exact holds_argument_mono (heven hparity) before after nofun
      · exact holds_argument_mono (hodd hparity) before after nofun
    | any =>
      refine ⟨fun hparity => ?_, fun hparity => ?_⟩
      · exact holds_argument_mono (heven hparity) before after nofun
      · exact holds_argument_mono (hodd hparity) before after nofun
    | none =>
      rw [negations, Nat.even_add_one, Nat.odd_add_one, Nat.not_even_iff_odd, Nat.not_odd_iff_even]
      refine ⟨fun hparity => ?_, fun hparity => ?_⟩
      · exact holds_argument_anti (hodd hparity) before after
      · exact holds_argument_anti (heven hparity) before after

/-- Filters with the same leaves have a result at a place on the same rows. -/
theorem exists_index_fill_iff {f g : Filter} (h : f.leaves = g.leaves) (context : Context)
    (rows : List Row) :
    (∃ s, (context.fill f).index rows = .ok s) ↔ ∃ s, (context.fill g).index rows = .ok s := by
  obtain ⟨before, after, hleaves⟩ := context.leaves_fill
  rw [exists_index_iff, exists_index_iff, hleaves, hleaves, h]

end Context

/-! ## Selections of the whole -/

/-- More values are listed wherever fewer are. -/
theorem holds_inList_mono {column : Nat} {values more : List Cell} (h : values ⊆ more) {row : Row} :
    (inList column values).Holds row → (inList column more).Holds row := by
  unfold Holds
  rintro ⟨cell, hcell, value, hvalue, hsame⟩
  exact ⟨cell, hcell, value, h hvalue, hsame⟩

/-- **Polarity of a place.** If one filter selects no more rows than another, then so does every
    filter around it, wherever there is an even number of negations between them; an odd number
    reverses the inclusion. So more values in a list lose no row below an even number of negations
    and gain none below an odd one, and they never make the whole fail. -/
theorem index_fill_polarity (context : Context) (rows : List Row) :
    (∀ (f g : Filter) (s t before after : RowSet),
      f.index rows = .ok s → g.index rows = .ok t → s ⊆ t →
      (context.fill f).index rows = .ok before → (context.fill g).index rows = .ok after →
      (Even context.negations → before ⊆ after) ∧ (Odd context.negations → after ⊆ before)) ∧
    ∀ (column : Nat) (values more : List Cell) (before : RowSet), values ⊆ more →
      (context.fill (.inList column values)).index rows = .ok before →
      ∃ after, (context.fill (.inList column more)).index rows = .ok after ∧
        (Even context.negations → before ⊆ after) ∧ (Odd context.negations → after ⊆ before) := by
  -- both parts come down to an implication on each row at the place
  have hwhole : ∀ {f g : Filter} {before after : RowSet},
      (∀ row ∈ rows, f.Holds row → g.Holds row) →
      (context.fill f).index rows = .ok before → (context.fill g).index rows = .ok after →
      (Even context.negations → before ⊆ after) ∧ (Odd context.negations → after ⊆ before) := by
    intro f g before after hrows hbefore hafter
    refine ⟨fun hparity => ?_, fun hparity => ?_⟩
    · refine (subset_iff_holds hbefore hafter).mpr fun row hrow => ?_
      exact (context.holds_fill_polarity (hrows row hrow)).1 hparity
    · refine (subset_iff_holds hafter hbefore).mpr fun row hrow => ?_
      exact (context.holds_fill_polarity (hrows row hrow)).2 hparity
  constructor
  · intro f g s t before after hf hg hsub hbefore hafter
    exact hwhole ((subset_iff_holds hf hg).mp hsub) hbefore hafter
  · intro column values more before hmore hbefore
    have hleaves : (inList column values).leaves = (inList column more).leaves := rfl
    obtain ⟨after, hafter⟩ := (context.exists_index_fill_iff hleaves rows).mp ⟨before, hbefore⟩
    exact ⟨after, hafter, hwhole (fun row _ => holds_inList_mono hmore) hbefore hafter⟩

/-- A place in a negation, with a list beside it. -/
def besideLarge : Context := .argument .none [.inList 0 [.integer 4]] .whole []

/-- A place in a negation within a negation, which is one argument of a conjunction. -/
def withinBoth : Context :=
  .argument .all [.inRange 0 (.integer 1) (.integer 3)]
    (.argument .none [] (.argument .none [.inList 0 [.integer 2]] .whole []) []) []

/-- The only one of four sizes that is a one. -/
def one : Filter := .inList 0 [.integer 1]

/-- The sizes up to two. -/
def upToTwo : Filter := .inRange 0 (.integer 1) (.integer 2)

/-- Four rows of one size each. -/
def fourSizes : List Row := [[.integer 1], [.integer 2], [.integer 3], [.integer 4]]

/-- Below one negation the larger selection leaves fewer rows; below two of them one more value in
    the list loses none. -/
theorem index_fill_polarity_sizes :
    (∃ s t before after, one.index fourSizes = .ok s ∧ upToTwo.index fourSizes = .ok t ∧ s ⊆ t ∧
      (besideLarge.fill one).index fourSizes = .ok before ∧
      (besideLarge.fill upToTwo).index fourSizes = .ok after ∧ after ⊆ before) ∧
    ∃ before after, (withinBoth.fill one).index fourSizes = .ok before ∧
      (withinBoth.fill (.inList 0 [.integer 3, .integer 1])).index fourSizes = .ok after ∧
      before ⊆ after := by
  have hruns : ∀ filter ∈ [one, upToTwo, besideLarge.fill one, besideLarge.fill upToTwo,
      withinBoth.fill one], ∃ set, filter.index fourSizes = .ok set := by
    intro filter hfilter
    have hclear : ∀ filter ∈ [one, upToTwo, besideLarge.fill one, besideLarge.fill upToTwo,
      withinBoth.fill one], (fault? (filter.index fourSizes)).isNone = true := by decide +kernel
    exact fault?_eq_none_iff.mp (Option.isNone_iff_eq_none.mp (hclear filter hfilter))
  simp only [List.forall_mem_cons] at hruns
  obtain ⟨⟨s, hs⟩, ⟨t, ht⟩, ⟨before, hbefore⟩, ⟨after, hafter⟩, ⟨inner, hinner⟩, -⟩ := hruns
  have hsub : s ⊆ t := (subset_iff_holds hs ht).mpr (by decide)
  refine ⟨⟨s, t, before, after, hs, ht, hsub, hbefore, hafter, ?_⟩, ?_⟩
  · exact ((index_fill_polarity besideLarge fourSizes).1 one upToTwo s t before after hs ht hsub
      hbefore hafter).2 (by decide)
  · obtain ⟨outer, houter, hkept, -⟩ := (index_fill_polarity withinBoth fourSizes).2 0 [.integer 1]
      [.integer 3, .integer 1] inner (by decide) hinner
    exact ⟨inner, outer, hinner, houter, hkept (by decide)⟩

end Filter

end Winnow
