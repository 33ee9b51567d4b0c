import Winnow.Proofs.Source.Steady

/-!
# `Winnow.Proofs.Source.Facets` — the distinct values of a column divide its rows

The distinct values of a column are offered for selection, and a selection is then answered by a
filter on a list of values. One side sorts the cells and drops repeats, the other asks for each cell
whether it is listed. They fit together: each value that compares selects some rows, no row is
selected by two values, and all values together select every row whose cell compares.

## Contents
- **`listedRows`**, **`gives_listed`**: the rows that a list of values selects.
- **`listed_distinct`**: all distinct values together.
- **`filteredRows_facets`**: how the distinct values divide the rows.
-/

namespace Winnow.Source

open Winnow.Action Cell Winnow.Filter Summary

variable {source : Source} {files : Files} {rows : List Row} {column : String}

/-! ## Rows selected by values -/

/-- The rows whose cell in a column is listed. -/
def listedRows (source : Source) (column : String) (values : List Cell) (rows : List Row) :
    List Row :=
  rows.filter fun row => (source.schema.cell? column row).any (listed values)

theorem mem_listedRows {values : List Cell} {row : Row} :
    row ∈ source.listedRows column values rows ↔
      row ∈ rows ∧ ∃ cell, source.schema.cell? column row = some cell ∧
        ∃ value ∈ values, cell.sameAs value = true := by
  rw [listedRows, List.mem_filter, Option.any_eq_true]
  simp only [listed, List.any_eq_true]

/-- On rows that all have a cell in the column, a list of values selects the rows whose cell is
    listed. -/
theorem gives_listed (h : source.Steady files rows) (hfew : rows.length ≤ maxRowId)
    {position : Nat} {declared : Column}
    (hfind : source.schema.find? column = some (position, declared))
    (hcells : ∀ row ∈ rows, ∃ cell, row[position]? = some cell) (values : List Cell) :
    (source.filteredRows (.inList (.name column) values)).Gives files
      (.ok (source.listedRows column values rows)) := by
  have hfirst := (Schema.find?_eq_some_iff.mp hfind).2
  have hclear : ∀ leaf ∈ (inList position values).leaves, ∀ row ∈ rows, ¬ leaf.Fails row :=
    fun leaf hleaf row hrow => not_fails_inList (hcells row hrow) leaf hleaf
  have hgives := gives_filteredRows_of_clear h hfew (compile_inList hfirst values) hclear
  convert hgives using 2
  refine List.filter_congr fun row _ => ?_
  rw [Schema.cell?_eq hfind, Bool.eq_iff_iff, Option.any_eq_true, decide_eq_true_iff, Holds]
  simp only [listed, List.any_eq_true]

/-! ## Distinct values -/

/-- The distinct values together list the cells that compare. -/
theorem listed_distinct {cells values : List Cell} (h : IsDistinct cells values) {cell : Cell}
    (hcell : cell ∈ cells) : listed values cell = cell.isComparable := by
  rw [Bool.eq_iff_iff, listed, List.any_eq_true]
  constructor
  · rintro ⟨value, _, hsame⟩
    exact (comparable_of_sameAs hsame).2.1
  · exact h.exists_sameAs hcell

/-- **Facets.** Where no float blurs two integers of the column, its distinct values divide the rows
    of a steady source: together they select every row whose cell is neither a null nor NaN, each
    value that is neither selects a row, and no row is selected by values at two positions. A name
    that several columns have means the first of them throughout. -/
theorem filteredRows_facets {source : Source} {column : String} {rows : List Row}
    {values : List Cell} {session : Session} (h : source.Steady session.files rows)
    (hfew : rows.length ≤ maxRowId)
    (hmix : Unmixed (rows.filterMap (source.schema.cell? column)))
    (hvalues : ((source.allValues column).runOn session).1 = .ok values) :
    (source.filteredRows (.inList (.name column) values)).Gives session.files
        (.ok (rows.filter fun row => (source.schema.cell? column row).any isComparable)) ∧
      (∀ value ∈ values, value.isComparable = true → ∃ row rest,
        (source.filteredRows (.inList (.name column) [value])).Gives session.files
          (.ok (row :: rest))) ∧
      values.Pairwise fun v w => ∃ kept other,
        (source.filteredRows (.inList (.name column) [v])).Gives session.files (.ok kept) ∧
        (source.filteredRows (.inList (.name column) [w])).Gives session.files (.ok other) ∧
        kept.Disjoint other := by
  cases hfind : source.schema.find? column with
  | none =>
    rw [allValues_eq_noColumn hfind] at hvalues
    cases hvalues
  | some found =>
    obtain ⟨position, declared⟩ := found
    have hresult := (gives_allValues h hfind session rfl).1
    obtain ⟨hall, hsorted⟩ := distinctValues_eq_ok hfind (hresult.symm.trans hvalues)
    have hdistinct := isDistinct_of_sortedDistinct hmix hsorted
    have hgives := gives_listed h hfew hfind hall
    have hmem : ∀ {row cell}, row ∈ rows → source.schema.cell? column row = some cell →
        cell ∈ rows.filterMap (source.schema.cell? column) :=
      fun hrow hcell => List.mem_filterMap.mpr ⟨_, hrow, hcell⟩
    refine ⟨?_, fun value hvalue hcomparable => ?_, ?_⟩
    · have htogether : source.listedRows column values rows =
          rows.filter fun row => (source.schema.cell? column row).any isComparable := by
        refine List.filter_congr fun row hrow => ?_
        cases hcell : source.schema.cell? column row with
        | none => rfl
        | some cell => exact listed_distinct hdistinct (hmem hrow hcell)
      exact htogether ▸ hgives values
    · -- the value is the cell of some row, and as it compares it is the same as itself
      obtain ⟨row, hrow, hcell⟩ := List.mem_filterMap.mp (hdistinct.subset value hvalue)
      have hkept : row ∈ source.listedRows column [value] rows :=
        mem_listedRows.mpr ⟨hrow, value, hcell, value, List.mem_singleton_self value,
          sameAs_self_iff.mpr hcomparable⟩
      obtain ⟨first, rest, hrows⟩ := List.exists_cons_of_ne_nil (List.ne_nil_of_mem hkept)
      exact ⟨first, rest, hrows ▸ hgives [value]⟩
    · refine (hdistinct.not_sameAs_both hmix).imp fun {v w} hnever => ?_
      refine ⟨_, _, hgives [v], hgives [w], fun row hv hw => ?_⟩
      obtain ⟨hrow, cell, hcell, _, hlisted, hsamev⟩ := mem_listedRows.mp hv
      obtain rfl := List.mem_singleton.mp hlisted
      obtain ⟨_, other, hother, _, hlisted, hsamew⟩ := mem_listedRows.mp hw
      obtain rfl := List.mem_singleton.mp hlisted
      obtain rfl := Option.some.inj (hcell.symm.trans hother)
      exact hnever cell (hmem hrow hcell) ⟨hsamev, hsamew⟩

/-- Zero and one, each in two forms, and NaN, as the first cells of rows. -/
def sizedRows : List Row :=
  [[.float Double.zero.neg, .string "a"], [.integer 0, .null], [.integer 1, .string "b"],
    [.float (Double.ofInt 1), .string "a"], [.float .nan, .null]]

/-- A source of these rows in which the second column has the name of the first. -/
def sizedSource : Source := ⟨0, [⟨"size", .number⟩, ⟨"size", .string⟩], .memory sizedRows⟩

/-- The first forms of zero and one stand for both, and NaN for itself. -/
theorem distinctValues_sizedRows :
    distinctValues sizedRows 0 = .ok [.float Double.zero.neg, .integer 1, .float .nan] := by
  show sortedDistinct (sizedRows.map (·.headD .null)) = _
  rw [sortedDistinct_of_sorted (by unfold OneDomain; decide +kernel) (by decide +kernel)]
  exact congrArg Except.ok (by decide +kernel)

theorem filteredRows_facets_sizedRows :
    (sizedSource.filteredRows
        (.inList (.name "size") [.float Double.zero.neg, .integer 1, .float .nan])).Gives
      Session.fresh.files (.ok (sizedRows.take 4)) ∧
    ∃ kept other,
      (sizedSource.filteredRows (.inList (.name "size") [.float Double.zero.neg])).Gives
        Session.fresh.files (.ok kept) ∧
      (sizedSource.filteredRows (.inList (.name "size") [.integer 1])).Gives
        Session.fresh.files (.ok other) ∧
      kept.Disjoint other := by
  have hsteady : sizedSource.Steady Session.fresh.files sizedRows := fun _ => rfl
  have hfind : sizedSource.schema.find? "size" = some (0, ⟨"size", .number⟩) := rfl
  have hvalues := (gives_allValues hsteady hfind Session.fresh rfl).1
  rw [distinctValues_sizedRows] at hvalues
  obtain ⟨htogether, _, hapart⟩ :=
    filteredRows_facets hsteady (by decide) (by decide +kernel) hvalues
  have hfour : (sizedRows.filter fun row =>
      (sizedSource.schema.cell? "size" row).any isComparable) = sizedRows.take 4 := by
    decide +kernel
  exact ⟨hfour ▸ htogether, (List.pairwise_cons.mp hapart).1 _ List.mem_cons_self⟩

end Winnow.Source
