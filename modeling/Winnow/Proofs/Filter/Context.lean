import Winnow.Proofs.Filter.Selection

/-!
# `Winnow.Proofs.Filter.Context` — places in a filter

What a filter makes of rows is a matter of two readings: on which rows it holds, and which fault its
leaves meet first. A place in a filter sees no more than these of the filter that is put there. So
two filters with the same readings may stand for each other at every place.

## Contents
- **`combine_all_holds`**, **`combine_any_holds`**, **`combine_none_holds`**,
  **`leavesAll_append`**: both readings of a combinator.
- **`index_congr`**, **`toOption_index_congr`**: the readings determine the result.
- **`Context`** with **`fill`**, **`holds_fill_congr`** and **`leaves_fill`**: what a place keeps.
- **`Interchangeable`**, **`SameReading`** with **`SameReading.interchangeable`**.
-/

namespace Winnow.Filter

open RowSet

/-! ## The readings of a combinator -/

theorem combine_all_holds {arguments : List Filter} {row : Row} :
    (combine .all arguments).Holds row ↔ ∀ argument ∈ arguments, argument.Holds row := by
  rw [Holds, allHold_iff]

theorem combine_any_holds {arguments : List Filter} {row : Row} :
    (combine .any arguments).Holds row ↔ ∃ argument ∈ arguments, argument.Holds row := by
  rw [Holds, someHolds_iff]

theorem combine_none_holds {arguments : List Filter} {row : Row} :
    (combine .none arguments).Holds row ↔ ∀ argument ∈ arguments, ¬ argument.Holds row := by
  rw [Holds, someHolds_iff]
  simp only [not_exists, not_and]

theorem leavesAll_append (before after : List Filter) :
    leavesAll (before ++ after) = leavesAll before ++ leavesAll after := by
  induction before with
  | nil => rfl
  | cons first rest ih => rw [List.cons_append, leavesAll, leavesAll, ih, List.append_assoc]

/-- Combinators of either kind read the leaves of their arguments. -/
theorem leavesAll_cons_combine (combinator : Combinator) (inner after : List Filter) :
    leavesAll (combine combinator inner :: after) = leavesAll (inner ++ after) := by
  rw [leavesAll, leaves, leavesAll_append]

/-- The first fault that the leaves of a filter meet on rows. -/
def firstFault? (filter : Filter) (rows : List Row) : Option Error :=
  filter.leaves.findSome? fun leaf => leaf.firstFault? 0 rows

/-! ## The readings determine the result -/

/-- Filters that hold on the same rows select the same set. -/
theorem set_eq_of_holds {f g : Filter} {rows : List Row} {s t : RowSet}
    (hf : f.index rows = .ok s) (hg : g.index rows = .ok t)
    (hholds : ∀ row, f.Holds row ↔ g.Holds row) : s = t := by
  refine ext_contains fun i => ?_
  rw [Bool.eq_iff_iff, selects_index hf i, selects_index hg i]
  simp only [hholds]

/-- **Both readings together determine the result**, the failure included. -/
theorem index_congr {f g : Filter} {rows : List Row}
    (hfault : f.firstFault? rows = g.firstFault? rows)
    (hholds : ∀ row, f.Holds row ↔ g.Holds row) : f.index rows = g.index rows := by
  by_cases hle : rows.length ≤ maxRowId
  · have hfaults : fault? (f.index rows) = fault? (g.index rows) :=
      (fault?_index hle f).trans (hfault.trans (fault?_index hle g).symm)
    cases hf : f.index rows with
    | error e =>
      rw [hf] at hfaults
      exact (fault?_eq_some_iff.mp hfaults.symm).symm
    | ok s =>
      rw [hf] at hfaults
      obtain ⟨t, hg⟩ := fault?_eq_none_iff.mp hfaults.symm
      rw [hg, set_eq_of_holds hf hg hholds]
  · have hlt := Nat.lt_of_not_le hle
    rw [index_of_lt hlt, index_of_lt hlt]

/-- Filters with the same leaves, in any order and number, have a result on the same rows. -/
theorem toOption_index_congr {f g : Filter} {rows : List Row}
    (hleaves : ∀ leaf, leaf ∈ f.leaves ↔ leaf ∈ g.leaves)
    (hholds : ∀ row, f.Holds row ↔ g.Holds row) :
    (f.index rows).toOption = (g.index rows).toOption := by
  have hboth : (∃ s, f.index rows = .ok s) ↔ ∃ t, g.index rows = .ok t := by
    rw [exists_index_iff, exists_index_iff]
    simp only [hleaves]
  cases hf : f.index rows with
  | ok s =>
    obtain ⟨t, hg⟩ := hboth.mp ⟨s, hf⟩
    rw [hg, set_eq_of_holds hf hg hholds]
  | error e =>
    cases hg : g.index rows with
    | error e' => rfl
    | ok t =>
      obtain ⟨s, hs⟩ := hboth.mpr ⟨t, hg⟩
      cases hf.symm.trans hs

/-! ## Places -/

/-- A place in a filter: the whole of it, or a place in an argument of a combinator, with the
    arguments on either side. -/
inductive Context where
  | whole
  | argument (combinator : Combinator) (before : List Filter) (place : Context)
      (after : List Filter)

namespace Context

/-- The filter with another one put at a place. -/
def fill : Context → Filter → Filter
  | whole, filter => filter
  | argument combinator before place after, filter =>
    combine combinator (before ++ place.fill filter :: after)

/-- What holds at a place decides what holds of the whole. -/
theorem holds_fill_congr {f g : Filter} {row : Row} (h : f.Holds row ↔ g.Holds row)
    (context : Context) : (context.fill f).Holds row ↔ (context.fill g).Holds row := by
  induction context with
  | whole => exact h
  | argument combinator before place after ih =>
    cases combinator with
    | all =>
      rw [fill, fill, combine_all_holds, combine_all_holds, List.forall_mem_append,
        List.forall_mem_append, List.forall_mem_cons, List.forall_mem_cons, ih]
    | any =>
      rw [fill, fill, combine_any_holds, combine_any_holds]
      simp only [List.mem_append, List.mem_cons, or_and_right, exists_or, exists_eq_left, ih]
    | none =>
      rw [fill, fill, combine_none_holds, combine_none_holds, List.forall_mem_append,
        List.forall_mem_append, List.forall_mem_cons, List.forall_mem_cons, ih]

/-- The leaves at a place stand between leaves that do not depend on them. -/
theorem leaves_fill (context : Context) :
    ∃ before after, ∀ filter : Filter,
      (context.fill filter).leaves = before ++ filter.leaves ++ after := by
  induction context with
  | whole =>
    refine ⟨[], [], fun filter => ?_⟩
    rw [List.nil_append, List.append_nil]
    rfl
  | argument combinator left place right ih =>
    obtain ⟨before, after, ih⟩ := ih
    refine ⟨leavesAll left ++ before, after ++ leavesAll right, fun filter => ?_⟩
    rw [fill, leaves, leavesAll_append, leavesAll, ih filter]
    simp only [List.append_assoc]

end Context

/-! ## Filters that stand for each other -/

/-- Two filters are interchangeable if, at every place in any filter and on all rows, one gives the
    result of the other: the same set or the same failure. -/
def Interchangeable (f g : Filter) : Prop :=
  ∀ (context : Context) (rows : List Row), (context.fill f).index rows = (context.fill g).index rows

/-- Two filters read alike if they hold on the same rows and meet the same first fault. -/
structure SameReading (f g : Filter) : Prop where
  holds : ∀ row, f.Holds row ↔ g.Holds row
  faults : ∀ rows, f.firstFault? rows = g.firstFault? rows

namespace SameReading

variable {f g h : Filter}

theorem refl (f : Filter) : SameReading f f := ⟨fun _ => Iff.rfl, fun _ => rfl⟩

theorem trans (hfg : SameReading f g) (hgh : SameReading g h) : SameReading f h :=
  ⟨fun row => (hfg.holds row).trans (hgh.holds row),
    fun rows => (hfg.faults rows).trans (hgh.faults rows)⟩

theorem of_leaves (hleaves : f.leaves = g.leaves) (hholds : ∀ row, f.Holds row ↔ g.Holds row) :
    SameReading f g := by
  refine ⟨hholds, fun rows => ?_⟩
  rw [firstFault?, firstFault?, hleaves]

/-- **Filters that read alike are interchangeable.** -/
theorem interchangeable (hfg : SameReading f g) : Interchangeable f g := by
  intro context rows
  refine index_congr ?_ fun row => Context.holds_fill_congr (hfg.holds row) context
  -- the faults before the place come first for both, and those behind it last
  obtain ⟨before, after, hleaves⟩ := context.leaves_fill
  have hsame := hfg.faults rows
  unfold firstFault? at hsame ⊢
  rw [hleaves f, hleaves g, List.findSome?_append, List.findSome?_append, List.findSome?_append,
    List.findSome?_append, hsame]

end SameReading

end Winnow.Filter
