import Winnow.Proofs.Filter.Binding

/-!
# `Winnow.Proofs.Filter.Locality` — a specification reads the columns that it names

A specification is bound to the columns of a table, so that two tables with the same cells under the
names that it uses may have them at different positions and among different other columns. The two
filters that binding gives then read the same cells side by side, leaf by leaf and row by row, and
so they end alike: in the same set or with the same failure.

## Contents
- **`SameCells`**, **`Parallel`**: filters that read the same cells, each in rows of its own.
- **`testFrom_eq_of_sameCells`**, **`Parallel.indexWithin_eq`**: a leaf and a whole filter.
- **`NamedRows`** with **`select`**: a specification on a table; **`cellUnder`**, **`keep`**: cells
  by name, and some of the columns.
- **`Shares`** with **`Shares.fault?_compile_eq`**, **`Shares.parallel`**: tables that share the
  columns that a specification names, and binding to them.
- **`select_named_cells`**: what is selected depends on the cells that the specification names;
  **`select_named_cells_shadowed`**: a table with a column of the same name behind.
-/

namespace Winnow

namespace Filter

/-! ## Filters side by side -/

/-- Two columns, each in rows of its own, have the same cells. -/
def SameCells (rows rows' : List Row) (column column' : Nat) : Prop :=
  List.Forall₂ (fun row row' => ∃ cell, row[column]? = some cell ∧ row'[column']? = some cell)
    rows rows'

/-- Two filters run in parallel, each on rows of its own, if they are the same tree with the same
    values and bounds, and the columns that a leaf reads have the same cells. -/
inductive Parallel (rows rows' : List Row) : Filter → Filter → Prop where
  | combine {combinator : Combinator} {filters filters' : List Filter}
      (each : List.Forall₂ (Parallel rows rows') filters filters') :
      Parallel rows rows' (.combine combinator filters) (.combine combinator filters')
  | inList {column column' : Nat} {values : List Cell}
      (cells : SameCells rows rows' column column') :
      Parallel rows rows' (.inList column values) (.inList column' values)
  | inRange {column column' : Nat} {min max : Cell}
      (cells : SameCells rows rows' column column') :
      Parallel rows rows' (.inRange column min max) (.inRange column' min max)

variable {rows rows' : List Row} {column column' : Nat}

/-- The test of a leaf sees no more of a row than the cell in its column. -/
theorem testRow_eq_of_cell {row row' : Row} {cell : Cell} (h : row[column]? = some cell)
    (h' : row'[column']? = some cell) (test : Cell → Except Error Bool) (position : Nat) :
    testRow column test position row = testRow column' test position row' := by
  rw [testRow, testRow, cellAt_eq_ok_iff.mpr h, cellAt_eq_ok_iff.mpr h']

theorem testFrom_eq_of_sameCells (h : SameCells rows rows' column column')
    (test : Cell → Except Error Bool) :
    ∀ position found, testFrom column test position found rows =
      testFrom column' test position found rows' := by
  induction h with
  | nil => exact fun position found => rfl
  | @cons row row' _ _ hrow _ ih =>
    intro position found
    obtain ⟨cell, hcell, hcell'⟩ := hrow
    rw [testFrom_cons, testFrom_cons, testRow_eq_of_cell hcell hcell' test position]
    exact congrArg _ (funext fun flag => ih (position + 1) (flag :: found))

theorem leafSet_eq_of_sameCells (h : SameCells rows rows' column column')
    (test : Cell → Except Error Bool) : leafSet column test rows = leafSet column' test rows' := by
  rw [leafSet, leafSet, testFrom_eq_of_sameCells h test 0 []]

/-- **Parallel filters end alike**, in the same set or with the same failure. -/
theorem Parallel.indexWithin_eq {filter : Filter} (everyRow : RowSet) :
    ∀ {filter' : Filter}, Parallel rows rows' filter filter' →
      filter.indexWithin rows everyRow = filter'.indexWithin rows' everyRow := by
  induction filter with
  | combine combinator filters ih =>
    intro filter' h
    cases h with
    | @combine _ _ filters' each =>
      -- argument by argument, both runs give the same
      have hboth := (List.forall₂_and_left _ _).mpr ⟨ih, each⟩
      have hsame : filters.mapM (indexWithin rows everyRow) =
          filters'.mapM (indexWithin rows' everyRow) :=
        mapM_eq_of_forall₂ (hboth.imp fun _ _ h => h.1 h.2)
      rw [indexWithin, indexWithin, indexAll_eq_mapM, indexAll_eq_mapM, hsame]
  | inList column values =>
    intro filter' h
    cases h with
    | inList cells => exact leafSet_eq_of_sameCells cells _
  | inRange column min max =>
    intro filter' h
    cases h with
    | inRange cells => exact leafSet_eq_of_sameCells cells _

theorem Parallel.index_eq {filter filter' : Filter} (h : Parallel rows rows' filter filter')
    (hlength : rows.length = rows'.length) : filter.index rows = filter'.index rows' := by
  rw [index, index, hlength]
  exact congrArg _ (funext fun everyRow => h.indexWithin_eq everyRow)

end Filter

/-! ## Tables -/

/-- Whether some leaf of a specification names a column. -/
def Spec.mentions (spec : Spec) (name : String) : Bool := ColumnRef.name name ∈ spec.columnRefs

/-- Rows under named columns; every row has a cell for each column at least. -/
structure NamedRows where
  columns : List String
  rows : List Row
  wide : ∀ row ∈ rows, columns.length ≤ row.length

namespace NamedRows

open Winnow.Filter

/-- The positions of the rows that a specification selects. -/
def select (table : NamedRows) (spec : Spec) : Except Error RowSet := do
  let filter ← compile table.columns spec
  filter.index table.rows

/-! ## Cells under names -/

/-- The cell of a row in the first column of a name. -/
def cellUnder (columns : List String) (name : String) (row : Row) : Option Cell :=
  ((columns.zip row).find? fun cell => cell.1 = name).map (·.2)

/-- The cells of a row in the columns whose names pass a test. -/
def keepCells (columns : List String) (kept : String → Bool) (row : Row) : Row :=
  ((columns.zip row).filter fun cell => kept cell.1).map (·.2)

theorem cellUnder_of_firstNamed {columns : List String} {name : String} :
    ∀ {row : Row} {column : Nat}, FirstNamed columns name column →
      cellUnder columns name row = row[column]? := by
  induction columns with
  | nil =>
    intro row column h
    exact absurd h.lt_length (Nat.not_lt_zero column)
  | cons first rest ih =>
    intro row column h
    cases row with
    | nil => rfl
    | cons cell row =>
      unfold cellUnder at ih ⊢
      rw [List.zip_cons_cons]
      rcases firstNamed_cons_iff.mp h with ⟨rfl, rfl⟩ | ⟨hname, behind, rfl, hbehind⟩
      · rw [List.find?_cons_of_pos (by simp)]
        rfl
      · rw [List.find?_cons_of_neg (by simp [hname]), ih hbehind]
        rfl

section KeepCells

variable {columns : List String} {row : Row}

theorem map_fst_kept (h : columns.length ≤ row.length) (kept : String → Bool) :
    ((columns.zip row).filter fun cell => kept cell.1).map Prod.fst = columns.filter kept := by
  conv_rhs => rw [← List.map_fst_zip h, List.filter_map]
  rfl

theorem length_keepCells (h : columns.length ≤ row.length) (kept : String → Bool) :
    (keepCells columns kept row).length = (columns.filter kept).length := by
  rw [← map_fst_kept h kept, keepCells, List.length_map, List.length_map]

/-- A name that is kept has the same cell as before, wherever it stands now. -/
theorem cellUnder_keepCells (h : columns.length ≤ row.length) {kept : String → Bool} {name : String}
    (hkept : kept name = true) :
    cellUnder (columns.filter kept) name (keepCells columns kept row) =
      cellUnder columns name row := by
  -- names and cells that are kept stand side by side as before
  have hpairs : (columns.filter kept).zip (keepCells columns kept row) =
      (columns.zip row).filter fun cell => kept cell.1 :=
    (List.zip_of_prod (map_fst_kept h kept) rfl).symm
  have hsame : (fun cell : String × Cell =>
      decide (kept cell.1 = true ∧ decide (cell.1 = name) = true)) =
        fun cell => decide (cell.1 = name) := by
    funext cell
    by_cases hname : cell.1 = name
    · simp [hname, hkept]
    · simp [hname]
  rw [cellUnder, cellUnder, hpairs, List.find?_filter, hsame]

end KeepCells

/-- A table without the columns whose names do not pass a test. -/
def keep (table : NamedRows) (kept : String → Bool) : NamedRows where
  columns := table.columns.filter kept
  rows := table.rows.map (keepCells table.columns kept)
  wide := by
    refine List.forall_mem_map.mpr fun row hrow => ?_
    exact Nat.le_of_eq (length_keepCells (table.wide row hrow) kept).symm

/-! ## Tables that share columns -/

/-- Two tables share the columns that a specification names, if they have rows in the same number,
    each name that it uses is a column of both or of neither, and row by row the cells in the first
    column of that name are the same. -/
structure Shares (spec : Spec) (table other : NamedRows) : Prop where
  length : table.rows.length = other.rows.length
  known : ∀ name, .name name ∈ spec.columnRefs → (name ∈ table.columns ↔ name ∈ other.columns)
  cells : ∀ name, .name name ∈ spec.columnRefs →
    List.Forall₂
      (fun row row' => cellUnder table.columns name row = cellUnder other.columns name row')
      table.rows other.rows

variable {spec : Spec} {table other : NamedRows}

theorem Shares.fault?_compile_eq (h : Shares spec table other) :
    fault? (compile table.columns spec) = fault? (compile other.columns spec) := by
  rw [fault?_compile, fault?_compile]
  refine findSome?_congr fun ref href => Option.ext fun e => ?_
  have hknown : Known table.columns ref ↔ Known other.columns ref := by
    refine exists_congr fun name => and_congr_left fun hname => ?_
    exact h.known name (hname ▸ href)
  rw [fault?_resolve_eq_some_iff, fault?_resolve_eq_some_iff, hknown]

/-- The cells under a name are there, as rows are wide enough. -/
theorem Shares.sameCells (h : Shares spec table other) {name : String}
    (hname : .name name ∈ spec.columnRefs) {column column' : Nat}
    (hfirst : FirstNamed table.columns name column)
    (hfirst' : FirstNamed other.columns name column') :
    SameCells table.rows other.rows column column' := by
  have hboth := (List.forall₂_and_left _ _).mpr ⟨table.wide, h.cells name hname⟩
  refine hboth.imp fun row row' hrow => ?_
  obtain ⟨hwide, hsame⟩ := hrow
  rw [cellUnder_of_firstNamed hfirst, cellUnder_of_firstNamed hfirst'] at hsame
  have hlt : column < row.length := Nat.lt_of_lt_of_le hfirst.lt_length hwide
  have hcell : row[column]? = some row[column] := List.getElem?_eq_getElem hlt
  exact ⟨_, hcell, hsame.symm.trans hcell⟩

/-- Binding to tables that share the named columns gives parallel filters. -/
theorem Shares.parallel {part : Spec} (h : Shares spec table other)
    (hpart : ∀ ref ∈ part.columnRefs, ref ∈ spec.columnRefs) :
    ∀ {filter filter' : Filter}, Binds table.columns part filter →
      Binds other.columns part filter' → Parallel table.rows other.rows filter filter' := by
  induction part with
  | combine combinator arguments ih =>
    intro filter filter' hbinds hbinds'
    cases hbinds with
    | combine each =>
      cases hbinds' with
      | combine each' =>
        -- an argument, bound twice, uses no other names than the whole
        refine .combine (forall₂_of_common each each' fun argument hargument _ _ hone htwo => ?_)
        refine ih argument hargument (fun ref href => hpart ref ?_) hone htwo
        exact Spec.mem_columnRefsAll.mpr ⟨argument, hargument, href⟩
  | inList ref values =>
    intro filter filter' hbinds hbinds'
    cases hbinds with
    | inList first =>
      cases hbinds' with
      | inList first' =>
        exact .inList (h.sameCells (hpart _ (List.mem_singleton_self _)) first first')
  | inRange ref min max =>
    intro filter filter' hbinds hbinds'
    cases hbinds with
    | inRange first =>
      cases hbinds' with
      | inRange first' =>
        exact .inRange (h.sameCells (hpart _ (List.mem_singleton_self _)) first first')

theorem Shares.select_eq (h : Shares spec table other) : table.select spec = other.select spec := by
  have hfault := h.fault?_compile_eq
  cases hfilter : compile table.columns spec with
  | error e =>
    rw [hfilter] at hfault
    rw [select, select, hfilter, fault?_eq_some_iff.mp hfault.symm]
    rfl
  | ok filter =>
    rw [hfilter] at hfault
    obtain ⟨filter', hfilter'⟩ := fault?_eq_none_iff.mp hfault.symm
    have hparallel := Shares.parallel h (fun _ => id) (compile_eq_ok_iff.mp hfilter)
      (compile_eq_ok_iff.mp hfilter')
    rw [select, select, hfilter, hfilter']
    exact hparallel.index_eq h.length

/-- A table shares the columns that a specification names with what is kept of it for them. -/
theorem shares_keep (table : NamedRows) (spec : Spec) :
    Shares spec table (table.keep spec.mentions) where
  length := (List.length_map _).symm
  known := by
    intro name hname
    rw [keep, List.mem_filter]
    exact (and_iff_left (decide_eq_true hname)).symm
  cells := by
    intro name hname
    refine List.forall₂_map_right_iff.mpr (List.forall₂_same.mpr fun row hrow => ?_)
    exact (cellUnder_keepCells (table.wide row hrow) (decide_eq_true hname)).symm

/-- **Only the named cells count.** A specification selects the same rows in two tables that share
    the columns that it names, or fails with the same failure. So columns that it does not name may
    be moved, added, dropped or renamed: if the columns that it names are the same in both tables,
    in the same order, so is the result. -/
theorem select_named_cells (spec : Spec) (table other : NamedRows) :
    (Shares spec table other → table.select spec = other.select spec) ∧
    (table.keep spec.mentions = other.keep spec.mentions →
      table.select spec = other.select spec) := by
  refine ⟨Shares.select_eq, fun hkept => ?_⟩
  rw [(shares_keep table spec).select_eq, hkept, ← (shares_keep other spec).select_eq]

/-- A list of kinds, or a range of sizes. -/
def kindOrSize : Spec :=
  .combine .any
    [.inList (.name "kind") [.string "a"], .inRange (.name "size") (.integer 3) (.integer 5)]

/-- Two rows, the first of which is selected. -/
def parcels : NamedRows where
  columns := ["id", "kind", "size"]
  rows := [[.integer 1, .string "a", .integer 4], [.integer 2, .string "b", .integer 9]]
  wide := by decide

/-- The same sizes and kinds in another order. Behind them is a column that is called like the
    first one and never read. -/
def labels : NamedRows where
  columns := ["size", "kind", "size"]
  rows := [[.integer 4, .string "a", .null], [.integer 9, .string "b", .string "x"]]
  wide := by decide

/-- The same kinds and sizes, with a column of another name between them. -/
def notes : NamedRows where
  columns := ["kind", "note", "size"]
  rows := [[.string "a", .null, .integer 4], [.string "b", .string "x", .integer 9]]
  wide := by decide

theorem select_named_cells_shadowed :
    Shares kindOrSize parcels labels ∧
      parcels.keep kindOrSize.mentions = notes.keep kindOrSize.mentions ∧
      parcels.select kindOrSize = labels.select kindOrSize ∧
      parcels.select kindOrSize = notes.select kindOrSize := by
  have hnames : ∀ name, .name name ∈ kindOrSize.columnRefs → name = "kind" ∨ name = "size" := by
    simp [kindOrSize, Spec.columnRefs, Spec.columnRefsAll]
  have hshares : Shares kindOrSize parcels labels := by
    refine ⟨rfl, fun name hname => ?_, fun name hname => ?_⟩
    · rcases hnames name hname with rfl | rfl <;> decide
    · rcases hnames name hname with rfl | rfl <;> exact .cons rfl (.cons rfl .nil)
  have hkept : parcels.keep kindOrSize.mentions = notes.keep kindOrSize.mentions := rfl
  exact ⟨hshares, hkept, (select_named_cells kindOrSize parcels labels).1 hshares,
    (select_named_cells kindOrSize parcels notes).2 hkept⟩

end NamedRows

end Winnow
