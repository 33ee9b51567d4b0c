import Winnow.Proofs.Source.Steady
import Winnow.Proofs.Spec.Grammar
import Winnow.Proofs.Spec.Rejection
import Winnow.Proofs.Table.Conforming

/-!
# `Winnow.Proofs.Source.Checked` — filters on rows that fit their schema

A source of fixed rows is only made when every row has a cell for each column. A specification that
was read from a tree and bound to these columns then finds a cell at every leaf, and its bounds are
numbers. What is left to go wrong is a range over a column that holds something else.

## Contents
- **`length_of_checkRows`**, **`Source.ofRows_eq_ok`**: sources of fixed rows.
- **`Spec.ranges`**: the ranges that a specification asks for.
- **`Mirrors.bounds`**: ranges that were read from a tree have numbers as bounds.
- **`Binds.leaf_cases`**, **`Binds.exists_leaf`**: the leaves of a bound filter and these ranges.
- **`Binds.exists_retain_iff`**, **`Binds.onlyRejects_retain`**: when a bound filter runs, and how
  it fails.
-/

namespace Winnow

open Winnow.Filter

/-! ## Rows that fit -/

/-- Rows that fit a schema have one cell for each of its columns. -/
theorem length_of_checkRows {schema : Schema} {rows : List Row}
    (h : checkRows schema rows = .ok ()) : ∀ row ∈ rows, row.length = schema.length :=
  fun row hrow => (checkRows_eq_ok_iff.mp h row hrow).length_eq

theorem Source.ofRows_eq_ok {id : Nat} {schema : Schema} {rows : List Row} {source : Source}
    (h : Source.ofRows id schema rows = .ok source) :
    checkRows schema rows = .ok () ∧ source = ⟨id, schema, .memory rows⟩ := by
  obtain ⟨_, hcheck, h⟩ := bind_eq_ok_iff.mp h
  exact ⟨hcheck, (Except.ok.inj h).symm⟩

/-! ## Ranges of specifications -/

namespace Spec

/-- A range that a leaf asks for in a column. -/
structure Range where
  column : ColumnRef
  min : Cell
  max : Cell

mutual

/-- The ranges of the leaves, depth first and from left to right. -/
def ranges : Spec → List Range
  | combine _ arguments => rangesAll arguments
  | inList _ _ => []
  | inRange ref min max => [⟨ref, min, max⟩]

/-- The ranges in specifications, one after the other. -/
def rangesAll : List Spec → List Range
  | [] => []
  | spec :: rest => ranges spec ++ rangesAll rest

end

theorem mem_rangesAll {range : Range} {specs : List Spec} :
    range ∈ rangesAll specs ↔ ∃ spec ∈ specs, range ∈ spec.ranges := by
  induction specs with
  | nil => simp [rangesAll]
  | cons first rest ih => simp [rangesAll, ih]

end Spec

namespace Spec

/-- What a written number is read as is no NaN. -/
theorem NumberForm.isOrdered {number : Json.Number} {cell : Cell} (h : NumberForm number cell) :
    cell.isOrdered = true := by
  cases h with
  | integer i inRange => rfl
  | above i inRange large => simp [Cell.isOrdered, Cell.isNumber, Cell.domain, Cell.isNaN,
      Double.isNaN_ofInt]
  | real x finite =>
    have hnan : x.isNaN = false := by
      simp only [Double.isFinite, Double.isNaN, decide_eq_true_eq, decide_eq_false_iff_not] at *
      omega
    simp [Cell.isOrdered, Cell.isNumber, Cell.domain, Cell.isNaN, hnan]

/-- Ranges that a tree stands for have numbers as bounds. -/
theorem Mirrors.bounds {tree : Json} {spec : Spec} (h : Mirrors tree spec) :
    ∀ range ∈ spec.ranges, range.min.isOrdered = true ∧ range.max.isOrdered = true := by
  induction tree using nodeInduction generalizing spec with
  | other tree hother =>
    obtain ⟨fields, hfields⟩ := h.exists_fields
    exact absurd hfields (hother fields)
  | node fields ih =>
    intro range hrange
    cases h with
    | combine operator argumentsField each =>
      -- the range is one of an argument, which stands for an item
      obtain ⟨argument, hargument, hrange⟩ := mem_rangesAll.mp hrange
      obtain ⟨item, hitem, hmirrors⟩ := exists_left_of_forall₂ each argument hargument
      exact ih _ argumentsField item hitem hmirrors range hrange
    | leaf form =>
      cases form with
      | inList operator columnField valuesField column_form values_form => cases hrange
      | inRange operator columnField minField maxField column_form min_form max_form =>
        obtain rfl := List.mem_singleton.mp hrange
        exact ⟨min_form.isOrdered, max_form.isOrdered⟩

end Spec

/-! ## Bound filters -/

namespace Filter

variable {columns : List String} {filter : Filter}

/-- A leaf of a bound filter has no bounds, or those of a range that the specification asks for in
    the first column of its name. -/
theorem Binds.leaf_cases : ∀ {spec : Spec}, Binds columns spec filter →
    ∀ leaf ∈ filter.leaves, leaf.bounds = [] ∨ ∃ name min max, leaf.bounds = [min, max] ∧
      FirstNamed columns name leaf.column ∧ ⟨.name name, min, max⟩ ∈ spec.ranges := by
  induction filter with
  | combine combinator filters ih =>
    intro spec h leaf hleaf
    cases h with
    | combine each =>
      obtain ⟨filter, hfilter, hleaf⟩ := mem_leavesAll.mp hleaf
      obtain ⟨argument, hargument, hbinds⟩ := exists_left_of_forall₂ each filter hfilter
      rcases ih filter hfilter hbinds leaf hleaf with hnone | ⟨name, min, max, hbounds, hfirst, h⟩
      · exact Or.inl hnone
      · exact Or.inr ⟨name, min, max, hbounds, hfirst, Spec.mem_rangesAll.mpr ⟨_, hargument, h⟩⟩
  | inList column values =>
    intro spec h leaf hleaf
    obtain rfl := List.mem_singleton.mp hleaf
    exact Or.inl rfl
  | inRange column min max =>
    intro spec h leaf hleaf
    obtain rfl := List.mem_singleton.mp hleaf
    cases h with
    | inRange first => exact Or.inr ⟨_, min, max, rfl, first, List.mem_singleton_self _⟩

/-- Every range that a specification asks for becomes a leaf. -/
theorem Binds.exists_leaf : ∀ {spec : Spec}, Binds columns spec filter →
    ∀ range ∈ spec.ranges, ∃ name column, range.column = .name name ∧
      FirstNamed columns name column ∧ ⟨column, [range.min, range.max]⟩ ∈ filter.leaves := by
  induction filter with
  | combine combinator filters ih =>
    intro spec h range hrange
    cases h with
    | combine each =>
      obtain ⟨argument, hargument, hrange⟩ := Spec.mem_rangesAll.mp hrange
      obtain ⟨filter, hfilter, hbinds⟩ := exists_left_of_forall₂ each.flip argument hargument
      obtain ⟨name, column, hname, hfirst, hleaf⟩ := ih filter hfilter hbinds range hrange
      exact ⟨name, column, hname, hfirst, mem_leavesAll.mpr ⟨filter, hfilter, hleaf⟩⟩
  | inList column values =>
    intro spec h range hrange
    cases h with
    | inList first => cases hrange
  | inRange column min max =>
    intro spec h range hrange
    cases h with
    | inRange first =>
      obtain rfl := List.mem_singleton.mp hrange
      exact ⟨_, column, rfl, first, List.mem_singleton_self _⟩

variable {schema : Schema} {spec : Spec} {rows : List Row}

/-- On rows of the full width, no leaf of a bound filter fails exactly if every row has a number
    wherever a range is asked for. -/
theorem Binds.clear_iff (h : Binds schema.names spec filter)
    (hwidth : ∀ row ∈ rows, row.length = schema.length)
    (hbounds : ∀ range ∈ spec.ranges, range.min.isOrdered = true ∧ range.max.isOrdered = true) :
    (∀ leaf ∈ filter.leaves, ∀ row ∈ rows, ¬ leaf.Fails row) ↔
      ∀ range ∈ spec.ranges, ∀ name, range.column = .name name → ∀ row ∈ rows,
        ∃ cell, schema.cell? name row = some cell ∧ cell.isOrdered = true := by
  have hcell : ∀ row ∈ rows, ∀ column < schema.names.length, ∃ cell, row[column]? = some cell := by
    intro row hrow column hlt
    rw [Schema.names, List.length_map, ← hwidth row hrow] at hlt
    exact ⟨_, List.getElem?_eq_getElem hlt⟩
  constructor
  · intro hclear range hrange name hname row hrow
    obtain ⟨name', column, hname', hfirst, hleaf⟩ := h.exists_leaf range hrange
    obtain rfl := ColumnRef.name.inj (hname.symm.trans hname')
    obtain ⟨cell, hfound⟩ := hcell row hrow column hfirst.lt_length
    refine ⟨cell, (Schema.cell?_of_firstNamed hfirst row).trans hfound, ?_⟩
    refine (Cell.compare?_ne_none_iff (hbounds range hrange).1).mp fun hnone => ?_
    exact hclear _ hleaf row hrow (Or.inr ⟨cell, hfound, _, List.mem_cons_self, hnone⟩)
  · intro hnumbers leaf hleaf row hrow hfails
    rcases hfails with hnone | ⟨cell, hfound, bound, hbound, hnone⟩
    · obtain ⟨_, hfound⟩ := hcell row hrow leaf.column (h.column_lt leaf hleaf)
      cases hfound.symm.trans hnone
    · rcases h.leaf_cases leaf hleaf with hempty | ⟨name, min, max, hpair, hfirst, hrange⟩
      · rw [hempty] at hbound
        cases hbound
      · obtain ⟨number, hnumber, hordered⟩ := hnumbers _ hrange name rfl row hrow
        rw [Schema.cell?_of_firstNamed hfirst, hfound] at hnumber
        obtain rfl := Option.some.inj hnumber
        obtain ⟨hmin, hmax⟩ := hbounds _ hrange
        rw [hpair] at hbound
        rcases List.mem_pair.mp hbound with rfl | rfl
        · exact (Cell.compare?_ne_none_iff hmin).mpr hordered hnone
        · exact (Cell.compare?_ne_none_iff hmax).mpr hordered hnone

/-- **When a bound filter runs** on rows that fit: wherever a range is asked for, every row has a
    number other than NaN. -/
theorem Binds.exists_retain_iff (h : Binds schema.names spec filter) (hfew : rows.length ≤ maxRowId)
    (hwidth : ∀ row ∈ rows, row.length = schema.length)
    (hbounds : ∀ range ∈ spec.ranges, range.min.isOrdered = true ∧ range.max.isOrdered = true) :
    (∃ kept, filter.retain rows = .ok kept) ↔
      ∀ range ∈ spec.ranges, ∀ name, range.column = .name name → ∀ row ∈ rows,
        ∃ cell, schema.cell? name row = some cell ∧ cell.isOrdered = true := by
  rw [← h.clear_iff hwidth hbounds, ← fault?_eq_none_iff, retain_eq_map, fault?_map,
    fault?_eq_none_iff, exists_index_iff]
  simp only [hfew, true_and]

/-- **How a bound filter fails** on rows that fit: by the fault of the request. -/
theorem Binds.onlyRejects_retain (h : Binds schema.names spec filter)
    (hwidth : ∀ row ∈ rows, row.length = schema.length) : OnlyRejects (filter.retain rows) := by
  have hwide : ∀ row ∈ rows, schema.names.length ≤ row.length := by
    intro row hrow
    rw [hwidth row hrow, Schema.names, List.length_map]
  intro e he
  rw [← fault?_eq_some_iff, retain_eq_map, fault?_map, fault?_eq_some_iff] at he
  by_cases hle : rows.length ≤ maxRowId
  · rcases ((index_eq_error_iff hle).mp he).cases with ⟨_, _, _, _, _, _, rfl⟩ | ⟨_, _, _, rfl⟩
    · exact absurd he (h.index_ne_rowShape hwide _ _ _)
    · exact ⟨rfl, fun _ _ _ h => by cases h⟩
  · rw [index_of_lt (Nat.lt_of_not_le hle)] at he
    cases he
    exact ⟨rfl, fun _ _ _ h => by cases h⟩

/-- Binding names fails by the fault of the request. -/
theorem onlyRejects_compile (columns : List String) (spec : Spec) :
    OnlyRejects (compile columns spec) := by
  intro e he
  obtain ⟨_, _, _, _, _, _, rfl⟩ := compile_eq_error_iff.mp he
  exact ⟨rfl, nofun⟩

end Filter

end Winnow
