import Winnow.Proofs.Filter.Binding
import Winnow.Proofs.Filter.Selection
import Winnow.Proofs.Session.Runs
import Winnow.Proofs.Summary.Distinct
import Winnow.Source

/-!
# `Winnow.Proofs.Source.Steady` — requests on a source that does not change

A source is steady when every pull gives the same rows. A request on it is then a function of these
rows: the distinct values are those of the cells in a column, and a specification is bound to the
columns and run on the rows.

## Contents
- **`Schema.cell?`** with **`find?_eq_some_iff`**, **`cell?_of_firstNamed`**: the cell of a row in
  the first column of a name.
- **`Source.Steady`**, **`gives_rows`**: sources that do not change.
- **`gives_allValues`** with **`distinctValues_eq_ok`**, **`gives_numericSpec`**,
  **`gives_filteredRows`**, **`gives_filteredRows_of_clear`**: what requests on them give.
- **`compile_inList`**, **`compile_inRange`**: specifications of one leaf.
-/

namespace Winnow

open Winnow.Filter

/-! ## Columns by name -/

namespace Schema

/-- The cell of a row in the first column of a name. -/
def cell? (schema : Schema) (name : String) (row : Row) : Option Cell :=
  (schema.find? name).bind fun found => row[found.1]?

theorem go_eq_some_iff {name : String} {schema : Schema} {column : Column} :
    ∀ {position found : Nat}, find?.go name position schema = some (found, column) ↔
      ∃ i, found = position + i ∧ schema[i]? = some column ∧ FirstNamed schema.names name i := by
  induction schema with
  | nil =>
    intro position found
    simp [find?.go]
  | cons first rest ih =>
    intro position found
    rw [find?.go]
    have hnames : names (first :: rest) = first.name :: names rest := rfl
    rw [hnames]
    split
    · rename_i hname
      constructor
      · intro h
        cases h
        exact ⟨0, rfl, rfl, firstNamed_cons_iff.mpr (Or.inl ⟨hname, rfl⟩)⟩
      · rintro ⟨i, rfl, hcolumn, hfirst⟩
        rcases firstNamed_cons_iff.mp hfirst with ⟨_, rfl⟩ | ⟨hother, _⟩
        · simpa using hcolumn
        · exact absurd hname hother
    · rename_i hname
      rw [ih]
      constructor
      · rintro ⟨i, rfl, hcolumn, hfirst⟩
        exact ⟨i + 1, by omega, hcolumn, firstNamed_cons_iff.mpr (Or.inr ⟨hname, i, rfl, hfirst⟩)⟩
      · rintro ⟨i, rfl, hcolumn, hfirst⟩
        rcases firstNamed_cons_iff.mp hfirst with ⟨hsame, _⟩ | ⟨_, behind, rfl, hbehind⟩
        · exact absurd hsame hname
        · exact ⟨behind, by omega, hcolumn, hbehind⟩

/-- Looking up a name finds the first column that has it. -/
theorem find?_eq_some_iff {name : String} {schema : Schema} {position : Nat} {column : Column} :
    schema.find? name = some (position, column) ↔
      schema[position]? = some column ∧ FirstNamed schema.names name position := by
  rw [find?, go_eq_some_iff]
  simp only [Nat.zero_add, exists_eq_left']

theorem cell?_eq {name : String} {schema : Schema} {position : Nat} {column : Column}
    (h : schema.find? name = some (position, column)) (row : Row) :
    schema.cell? name row = row[position]? := by
  rw [cell?, h]
  rfl

/-- The first column of a name is where its cells are looked up. -/
theorem cell?_of_firstNamed {name : String} {schema : Schema} {position : Nat}
    (h : FirstNamed schema.names name position) (row : Row) :
    schema.cell? name row = row[position]? := by
  have hnamed := h.named
  rw [Schema.names, List.getElem?_map] at hnamed
  obtain ⟨column, hcolumn, _⟩ := Option.map_eq_some_iff.mp hnamed
  exact cell?_eq (find?_eq_some_iff.mpr ⟨hcolumn, h⟩) row

end Schema

/-! ## Steady sources -/

namespace Source

open Winnow.Action

/-- On some files a source supplies the same rows at every pull. -/
def Steady (source : Source) (files : Files) (rows : List Row) : Prop :=
  ∀ pull, source.supply.read source.schema files pull = .ok rows

theorem runOn_rows (source : Source) (session : Session) :
    source.rows.runOn session =
      (source.supply.read source.schema session.files (session.pulls.count source.id),
        { session with pulls := source.id :: session.pulls }) := by
  unfold rows
  exact runOn_ofExcept _ _

variable {source : Source} {files : Files} {rows : List Row}

theorem gives_rows (h : source.Steady files rows) : source.rows.Gives files (.ok rows) := by
  intro session hfiles
  rw [runOn_rows, hfiles]
  exact ⟨h _, rfl⟩

theorem gives_allValues (h : source.Steady files rows) {name : String} {position : Nat}
    {column : Column} (hfind : source.schema.find? name = some (position, column)) :
    (source.allValues name).Gives files (Summary.distinctValues rows position) := by
  rw [allValues_eq, hfind]
  exact (gives_rows h).bind fun pulled _ => gives_ofExcept _

/-- The distinct values of a column, if there are any, are those of the cells that the rows have in
    the first column of its name. -/
theorem distinctValues_eq_ok {name : String} {position : Nat} {column : Column}
    {values : List Cell} (hfind : source.schema.find? name = some (position, column))
    (h : Summary.distinctValues rows position = .ok values) :
    (∀ row ∈ rows, ∃ cell, row[position]? = some cell) ∧
      Summary.sortedDistinct (rows.filterMap (source.schema.cell? name)) = .ok values := by
  obtain ⟨cells, hcells, hdistinct⟩ := Summary.distinctValues_eq_ok_iff.mp h
  have hall : ∀ row ∈ rows, ∃ cell, row[position]? = some cell :=
    exists_forall₂_iff.mp ⟨cells, hcells⟩
  have hsame : rows.filterMap (source.schema.cell? name) = cells := by
    clear h hdistinct hall
    induction hcells with
    | nil => rfl
    | @cons row cell _ _ hrow _ ih =>
      rw [List.filterMap_cons_some ((Schema.cell?_eq hfind row).trans hrow), ih]
  exact ⟨hall, hsame ▸ hdistinct⟩

/-- A column that is not there has no distinct values. -/
theorem allValues_eq_noColumn {name : String} (hfind : source.schema.find? name = none) :
    source.allValues name = throw (noColumn name) := by
  rw [allValues_eq, hfind]

/-- The numeric spec of a column of numbers is that of its distinct values. -/
theorem gives_numericSpec (h : source.Steady files rows) {name : String} {position : Nat}
    {column : Column} (hfind : source.schema.find? name = some (position, column))
    (hnumber : column.type = .number) :
    (source.numericSpec name).Gives files
      ((Summary.distinctValues rows position).mapError (asBadData name) >>=
        Summary.numericSpec name) := by
  have htype : source.schema.typeOf? name = some .number := by
    rw [Schema.typeOf?, hfind, Option.map_some, hnumber]
  rw [numericSpec_eq, htype]
  exact ((gives_allValues h hfind).adapt (asBadData name)).bind fun values _ => gives_ofExcept _

/-- What is logged of the result does not change it. -/
theorem gives_retained (h : source.Steady files rows) (filter : Filter) :
    (source.retained filter).Gives files (filter.retain rows) := by
  have hkept : (source.retained filter).Gives files
      (Except.ok rows >>= fun pulled => filter.retain pulled >>= fun kept =>
        Except.ok () >>= fun _ => Except.ok kept) :=
    (gives_rows h).bind fun _ _ => (gives_ofExcept _).bind fun _ _ =>
      (gives_report _).bind fun _ _ => gives_pure _
  have hsame : (Except.ok rows >>= fun pulled => filter.retain pulled >>= fun kept =>
      Except.ok () >>= fun _ => Except.ok kept) = filter.retain rows := by
    show (filter.retain rows >>= fun kept => Except.ok kept) = filter.retain rows
    cases filter.retain rows <;> rfl
  rwa [hsame] at hkept

/-- A specification is bound to the columns and run on the rows. -/
theorem gives_filteredRows (h : source.Steady files rows) (spec : Spec) :
    (source.filteredRows spec).Gives files
      (compile source.schema.names spec >>= fun filter => filter.retain rows) :=
  (gives_ofExcept _).bind fun filter _ => gives_retained h filter

/-- If no leaf of the filter of a specification fails on a row, the rows that satisfy the filter are
    given. -/
theorem gives_filteredRows_of_clear (h : source.Steady files rows) (hfew : rows.length ≤ maxRowId)
    {spec : Spec} {filter : Filter} (hcompile : compile source.schema.names spec = .ok filter)
    (hclear : ∀ leaf ∈ filter.leaves, ∀ row ∈ rows, ¬ leaf.Fails row) :
    (source.filteredRows spec).Gives files (.ok (rows.filter fun row => filter.Holds row)) := by
  obtain ⟨set, hset⟩ := exists_index_iff.mpr ⟨hfew, hclear⟩
  have hgives := gives_filteredRows h spec
  rw [hcompile] at hgives
  have hretain : filter.retain rows = .ok (rows.filter fun row => filter.Holds row) := by
    rw [retain_eq_map, hset]
    rfl
  rwa [← hretain]

end Source

/-! ## Filters of one leaf -/

namespace Filter

theorem compile_inList {columns : List String} {name : String} {column : Nat}
    (h : FirstNamed columns name column) (values : List Cell) :
    compile columns (.inList (.name name) values) = .ok (inList column values) :=
  compile_eq_ok_iff.mpr (.inList h)

theorem compile_inRange {columns : List String} {name : String} {column : Nat}
    (h : FirstNamed columns name column) (min max : Cell) :
    compile columns (.inRange (.name name) min max) = .ok (inRange column min max) :=
  compile_eq_ok_iff.mpr (.inRange h)

end Filter

end Winnow
