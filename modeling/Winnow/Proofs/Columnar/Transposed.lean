import Winnow.Proofs.Columnar.Columns
import Winnow.Proofs.Faults
import Winnow.Proofs.Table.Conforming

/-!
# `Winnow.Proofs.Columnar.Transposed` — the rows of a columnar file

The rows of a file are read batch by batch, and each batch is regrouped from columns to rows. All
batches together are one transposition: row `i` holds the `i`-th cell of every column, and nothing
is lost, repeated or shifted where one batch ends and the next begins. So rows fit a schema exactly
if the columns do, one beside the other.

## Contents
- **`rowAt`**, **`regroup_eq`**: rows from columns.
- **`readBatches_eq`**, **`ColumnFile.rows_eq`**, **`ColumnFile.rows_cases`**: all rows of a file.
- **`forall₂_rowAt_iff`**: a relation on rows as one on columns.
- **`ColumnFile.Even`**, **`ColumnFile.FitsInto`**, **`ColumnFile.conform_iff`**: rows that fit a
  schema.
-/

namespace Winnow.Columnar

/-! ## Regrouping -/

/-- The row at a position: the cell that each column has there. -/
def rowAt (columns : List (List Cell)) (i : Nat) : Row := columns.filterMap (·[i]?)

theorem firstCells_eq (columns : List (List Cell)) :
    firstCells columns = (rowAt columns 0, columns.map List.tail) := by
  induction columns with
  | nil => rfl
  | cons column rest ih =>
    rw [firstCells, ih]
    cases column with
    | nil => rfl
    | cons cell cells => rfl

theorem rowAt_tails (columns : List (List Cell)) (i : Nat) :
    rowAt (columns.map List.tail) i = rowAt columns (i + 1) := by
  unfold rowAt
  rw [List.filterMap_map]
  refine List.filterMap_congr fun column _ => ?_
  show column.tail[i]? = column[i + 1]?
  rw [List.getElem?_tail]

/-- Rows are taken off the columns one after the other. -/
theorem regroup_eq (count : Nat) :
    ∀ rows columns, regroup rows count columns =
      ((List.range count).map (rowAt columns)).reverse ++ rows := by
  induction count with
  | zero =>
    intro rows columns
    rfl
  | succ count ih =>
    intro rows columns
    have hlater : (List.range count).map (rowAt (columns.map List.tail)) =
        (List.range count).map (rowAt columns ∘ Nat.succ) :=
      List.map_congr_left fun i _ => rowAt_tails columns i
    rw [regroup, firstCells_eq]
    dsimp only
    rw [ih, hlater, List.range_succ_eq_map, List.map_cons, List.map_map, List.reverse_cons,
      List.append_assoc, List.singleton_append]

/-! ## Batches -/

namespace ColumnFile

/-- The cells of columns. -/
def columnCells (columns : List (String × Data)) : Except Error (List (List Cell)) :=
  columns.mapM fun column => column.2.cells

/-- The columns of a batch are parts of the columns. -/
theorem batchCells_eq (first : Nat) (columns : List (String × Data)) :
    batchCells first columns =
      (columnCells columns).map (List.map (window first batchSize)) := by
  unfold columnCells
  induction columns with
  | nil => rfl
  | cons column rest ih =>
    rw [batchCells, Data.cells_slice, ih, List.mapM_cons]
    cases column.2.cells with
    | error e => rfl
    | ok cells =>
      cases List.mapM (fun (column : String × Data) => column.2.cells) rest with
      | error e => rfl
      | ok others => rfl

/-- A row within a batch is the row behind those of the batches before. -/
theorem rowAt_window {cells : List (List Cell)} {first count i : Nat} (h : i < count) :
    rowAt (cells.map (window first count)) i = rowAt cells (first + i) := by
  unfold rowAt
  rw [List.filterMap_map]
  exact List.filterMap_congr fun column _ => getElem?_window column h

/-- The rows of a batch. -/
theorem regroup_window (cells : List (List Cell)) (rows : List Row) {first count : Nat}
    (h : count ≤ batchSize) :
    regroup rows count (cells.map (window first batchSize)) =
      ((List.range' first count).map (rowAt cells)).reverse ++ rows := by
  have hrows : (List.range count).map (rowAt (cells.map (window first batchSize))) =
      (List.range' first count).map (rowAt cells) := by
    rw [List.range'_eq_map_range, List.map_map]
    refine List.map_congr_left fun i hi => ?_
    have hlt : i < count := List.mem_range.mp hi
    show rowAt _ i = rowAt cells (first + i)
    exact rowAt_window (by omega)
  rw [regroup_eq, hrows]

/-- The batches from a row on give the rows from there on, up to the last one. -/
theorem readBatches_eq {file : ColumnFile} {cells : List (List Cell)}
    (h : columnCells file.columns = .ok cells) (batches : Nat) :
    ∀ rows first, readBatches file rows first batches =
      .ok (rows.reverse ++
        (List.range' first (min (batches * batchSize) (file.rowCount - first))).map
          (rowAt cells)) := by
  induction batches with
  | zero =>
    intro rows first
    simp [readBatches]
  | succ batches ih =>
    intro rows first
    have hbatch : batchCells first file.columns = .ok (cells.map (window first batchSize)) := by
      rw [batchCells_eq, h]
      rfl
    -- this batch and those behind it are one stretch of rows
    have hstretch : List.range' first (min batchSize (file.rowCount - first)) ++
        List.range' (first + batchSize)
          (min (batches * batchSize) (file.rowCount - (first + batchSize))) =
        List.range' first (min ((batches + 1) * batchSize) (file.rowCount - first)) := by
      by_cases hfull : batchSize ≤ file.rowCount - first
      · rw [Nat.min_eq_left hfull, List.range'_append_1, Nat.succ_mul]
        congr 1
        omega
      · have hlast : file.rowCount - (first + batchSize) = 0 := by omega
        have hshort : file.rowCount - first ≤ (batches + 1) * batchSize := by
          rw [Nat.succ_mul]
          omega
        rw [hlast, Nat.min_zero, Nat.min_eq_right hshort, Nat.min_eq_right (by omega),
          List.range'_zero, List.append_nil]
    rw [readBatches, hbatch]
    show readBatches file (regroup rows (min batchSize (file.rowCount - first)) _)
      (first + batchSize) batches = _
    rw [regroup_window cells rows (Nat.min_le_left _ _), ih, ← hstretch, List.reverse_append,
      List.reverse_reverse, List.map_append, List.append_assoc]

/-- **All rows of a file**: one for each position, with the cell of every column. -/
theorem rows_eq {file : ColumnFile} {cells : List (List Cell)}
    (h : columnCells file.columns = .ok cells) :
    file.rows = .ok ((List.range file.rowCount).map (rowAt cells)) := by
  have henough : file.rowCount ≤ (file.rowCount + batchSize - 1) / batchSize * batchSize := by
    unfold batchSize
    omega
  rw [rows, readBatches_eq h, List.reverse_nil, List.nil_append, Nat.sub_zero,
    Nat.min_eq_right henough, List.range_eq_range']

/-- A file whose columns have no cells is only read if there is no row to read. -/
theorem rows_eq_error {file : ColumnFile} {e : Error} (h : columnCells file.columns = .error e) :
    file.rows = if file.rowCount = 0 then .ok [] else .error e := by
  have hbatch : batchCells 0 file.columns = .error e := by
    rw [batchCells_eq, h]
    rfl
  unfold rows
  by_cases hnone : file.rowCount = 0
  · rw [if_pos hnone, hnone]
    rfl
  · obtain ⟨batches, hbatches⟩ :
        ∃ batches, (file.rowCount + batchSize - 1) / batchSize = batches + 1 := by
      refine Nat.exists_eq_succ_of_ne_zero ?_
      unfold batchSize
      omega
    rw [if_neg hnone, hbatches, readBatches, hbatch]
    rfl

/-- What rows a file can give: none, or those at all positions. -/
theorem rows_cases {file : ColumnFile} {rows : List Row} (h : file.rows = .ok rows) :
    (file.rowCount = 0 ∧ rows = []) ∨ ∃ cells, columnCells file.columns = .ok cells ∧ 0 < file.rowCount ∧
      rows = (List.range file.rowCount).map (rowAt cells) := by
  cases hcells : columnCells file.columns with
  | error e =>
    rw [rows_eq_error hcells] at h
    by_cases hnone : file.rowCount = 0
    · rw [if_pos hnone] at h
      exact Or.inl ⟨hnone, (Except.ok.inj h).symm⟩
    · rw [if_neg hnone] at h
      cases h
  | ok cells =>
    rw [rows_eq hcells] at h
    have hrows := (Except.ok.inj h).symm
    by_cases hnone : file.rowCount = 0
    · rw [hnone] at hrows
      exact Or.inl ⟨hnone, hrows⟩
    · exact Or.inr ⟨cells, rfl, Nat.pos_of_ne_zero hnone, hrows⟩

end ColumnFile

/-! ## Rows that fit -/

/-- A relation that holds along every row holds along the columns, cell by cell. -/
theorem forall₂_rowAt_iff {α : Type} {R : α → Cell → Prop} {count : Nat} (hsome : 0 < count)
    {columns : List (List Cell)} :
    ∀ {xs : List α}, (∀ column ∈ columns, column.length = count) →
      ((∀ i < count, List.Forall₂ R xs (rowAt columns i)) ↔
        List.Forall₂ (fun x column => ∀ cell ∈ column, R x cell) xs columns) := by
  induction columns with
  | nil =>
    intro xs _
    constructor
    · intro h
      cases h 0 hsome
      exact .nil
    · intro h i _
      cases h
      exact .nil
  | cons column rest ih =>
    intro xs hlength
    obtain ⟨hfirst, hrest⟩ := List.forall_mem_cons.mp hlength
    have hcons : ∀ i, (hi : i < count) →
        rowAt (column :: rest) i = column[i] :: rowAt rest i := by
      intro i hi
      have hcell : column[i]? = some column[i] := List.getElem?_eq_getElem (by omega)
      exact List.filterMap_cons_some hcell
    cases xs with
    | nil =>
      constructor
      · intro h
        have hnil := h 0 hsome
        rw [hcons 0 hsome] at hnil
        cases hnil
      · intro h
        cases h
    | cons x others =>
      rw [List.forall₂_cons, ← ih hrest]
      constructor
      · intro h
        have hsplit : ∀ i, (hi : i < count) →
            R x column[i] ∧ List.Forall₂ R others (rowAt rest i) := by
          intro i hi
          have hrow := h i hi
          rw [hcons i hi, List.forall₂_cons] at hrow
          exact hrow
        refine ⟨fun cell hcell => ?_, fun i hi => (hsplit i hi).2⟩
        obtain ⟨i, hi, rfl⟩ := List.getElem_of_mem hcell
        exact (hsplit i (hfirst ▸ hi)).1
      · rintro ⟨hcolumn, hothers⟩ i hi
        rw [hcons i hi, List.forall₂_cons]
        exact ⟨hcolumn _ (List.getElem_mem _), hothers i hi⟩

namespace ColumnFile

/-- All columns of a file are equally long, and so are the fields of its records. -/
def Even (file : ColumnFile) : Prop := ∀ column ∈ file.columns, column.2.Even file.rowCount

/-- A file fits into a schema: it has as many columns, and every cell of a column is of the type at
    its place. -/
def FitsInto (file : ColumnFile) (schema : Schema) : Prop :=
  List.Forall₂ (fun (column : Column) (held : String × Data) =>
    ∀ cells, held.2.cells = .ok cells → ∀ cell ∈ cells, column.type.accepts cell = true)
    schema file.columns

/-- A file fits into every schema of the types under which its columns are served. -/
theorem fitsInto_of_types {file : ColumnFile} {schema : Schema}
    (h : file.schema.types = schema.types) : file.FitsInto schema := by
  have hsame : List.Forall₂ (fun (column : Column) (held : String × Data) =>
      column.type = held.2.columnType) schema file.columns := by
    unfold Schema.types ColumnFile.schema at h
    rw [List.map_map, ← List.forall₂_eq_eq_eq, List.forall₂_map_left_iff,
      List.forall₂_map_right_iff] at h
    exact (h.imp fun _ _ heq => heq.symm).flip
  refine hsame.imp fun column held htype cells hcells cell hcell => ?_
  rw [htype]
  exact Data.accepts_of_mem_cells hcells cell hcell

/-- **When the rows of a file fit a schema**: there are none, or the file fits into it. -/
theorem conform_iff {file : ColumnFile} {schema : Schema} {rows : List Row} (heven : file.Even)
    (h : file.rows = .ok rows) : Conform schema rows ↔ rows = [] ∨ file.FitsInto schema := by
  rcases rows_cases h with ⟨_, rfl⟩ | ⟨cells, hcells, hsome, rfl⟩
  · exact iff_of_true (fun row hrow => absurd hrow List.not_mem_nil) (Or.inl rfl)
  · have hconverted := mapM_eq_ok_iff.mp hcells
    have hlength : ∀ column ∈ cells, column.length = file.rowCount := by
      intro column hcolumn
      obtain ⟨held, hheld, hcells⟩ := exists_left_of_forall₂ hconverted column hcolumn
      exact Data.length_cells (heven held hheld) hcells
    have hne : (List.range file.rowCount).map (rowAt cells) ≠ [] := by
      simp only [ne_eq, List.map_eq_nil_iff, List.range_eq_nil]
      omega
    have hrows : Conform schema ((List.range file.rowCount).map (rowAt cells)) ↔
        ∀ i < file.rowCount, Fits schema (rowAt cells i) := by
      unfold Conform
      simp only [List.forall_mem_map, List.mem_range]
    rw [hrows, or_iff_right hne]
    refine (forall₂_rowAt_iff hsome hlength).trans ⟨fun hfits => ?_, fun hfits => ?_⟩
    · -- the cells of a column are those that it is converted to
      refine forall₂_of_common hfits.flip hconverted.flip ?_
      intro converted _ column held haccepts hheld others hothers
      rw [hheld] at hothers
      obtain rfl := Except.ok.inj hothers
      exact haccepts
    · refine forall₂_of_common hfits.flip hconverted ?_
      intro held _ column converted haccepts hheld
      exact haccepts converted hheld

end ColumnFile

end Winnow.Columnar
