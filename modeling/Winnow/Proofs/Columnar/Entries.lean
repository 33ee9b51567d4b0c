import Winnow.Proofs.Cell.Order
import Winnow.Proofs.Columnar.Transposed

/-!
# `Winnow.Proofs.Columnar.Entries` — the cell of an entry

Columns are converted as a whole, batch by batch, and columns of records by way of the texts of all
their fields. Here the cell of a single entry is told by that entry alone, and the columns are shown
to hold just these cells. So the row at a position is made of the entries that the columns have
there, and a cell is null where the entry is.

## Contents
- **`entryAt`**, **`cell_of_entry`**, **`Data.textAt`**, **`Data.cellAt`**, **`Data.isNullAt`**:
  single entries.
- **`getElem?_displays`**, **`getElem?_cells`**: the texts and cells of a column, one by one.
- **`cellAt_eq_null_iff`**, **`integerCell_of_fits`**, **`integerCell_of_le`**,
  **`compare?_integerCell`**: which cells they are.
- **`exists_cells_iff`**: the columns that have cells.
- **`ColumnFile.rowOf`**, **`ColumnFile.rows_eq_map`**, **`ColumnFile.exists_rows_iff`**: all rows of
  a file.
-/

namespace Winnow.Columnar

/-! ## Single entries -/

/-- The entry at a position, unless it is missing. -/
def entryAt {α : Type} (entries : List (Option α)) (i : Nat) : Option α := entries[i]?.join

theorem getElem?_map_entries {α β : Type} (f : Option α → β) {entries : List (Option α)} {i : Nat}
    (h : i < entries.length) : (entries.map f)[i]? = some (f (entryAt entries i)) := by
  unfold entryAt
  rw [List.getElem?_map, List.getElem?_eq_getElem h]
  rfl

/-- The cell of an entry that is there. -/
theorem cell_of_entry {α : Type} (cell : α → Cell) {entries : List (Option α)} {i : Nat} {x : α}
    (h : entries[i]? = some (some x)) : ((entryAt entries i).map cell).getD .null = cell x := by
  unfold entryAt
  rw [h]
  rfl

namespace Data

mutual

/-- The text of the entry at a position; a missing entry has none. The entry of a column of records
    is made of those that its fields have at the position. -/
def textAt (i : Nat) : Data → Option Displayed
  | integers entries => (entryAt entries i).map fun n => .whole (toString n)
  | floats width entries => (entryAt entries i).map fun x => .whole (floatText width x)
  | booleans entries => (entryAt entries i).map fun b => .whole (if b then "true" else "false")
  | texts entries => (entryAt entries i).map .whole
  | dates32 entries => (entryAt entries i).map date32
  | dates64 entries => (entryAt entries i).map date64
  | timestamps unit zone entries => (entryAt entries i).map (timestamp unit zone)
  | times32 unit entries => (entryAt entries i).map (timeOfDay "Time32" unit)
  | times64 unit entries => (entryAt entries i).map (timeOfDay "Time64" unit)
  | decimals precision scale entries =>
    (entryAt entries i).map fun n => .whole (decimalText precision scale n)
  | binaries entries =>
    (entryAt entries i).map fun bytes => .whole (String.ofList (bytes.flatMap byteText))
  | lists entries => (entryAt entries i).map fun items => .whole (listText items)
  | records fields =>
    some (((Displayed.whole "\x7b").append (fieldTextsAt i "" fields)).append (.whole "\x7d"))
  | nulls _ => some (.whole "")
  | others entries => entryAt entries i

/-- The texts that fields have at a position, each behind a separator and its name. -/
def fieldTextsAt (i : Nat) (separator : String) : List (String × Data) → Displayed
  | [] => .whole ""
  | (name, data) :: rest =>
    (labelled separator name (textAt i data)).append (fieldTextsAt i ", " rest)

end

/-- The cell of the entry at a position. Numbers, booleans and texts have cells of their own, all
    other elements are served as text; a missing entry is null. -/
def cellAt (i : Nat) : Data → Cell
  | integers entries => ((entryAt entries i).map integerCell).getD .null
  | floats .single entries => ((entryAt entries i).map (floatCell .single)).getD .null
  | floats .double entries => ((entryAt entries i).map (floatCell .double)).getD .null
  | booleans entries => ((entryAt entries i).map .boolean).getD .null
  | texts entries => ((entryAt entries i).map .string).getD .null
  | other => ((other.textAt i).map fun d => .string d.served).getD .null

/-- Whether the entry at a position is null: it is missing, or the column holds nothing but the null
    value. -/
def isNullAt (i : Nat) : Data → Bool
  | integers entries => (entryAt entries i).isNone
  | floats _ entries => (entryAt entries i).isNone
  | booleans entries => (entryAt entries i).isNone
  | texts entries => (entryAt entries i).isNone
  | dates32 entries => (entryAt entries i).isNone
  | dates64 entries => (entryAt entries i).isNone
  | timestamps _ _ entries => (entryAt entries i).isNone
  | times32 _ entries => (entryAt entries i).isNone
  | times64 _ entries => (entryAt entries i).isNone
  | decimals _ _ entries => (entryAt entries i).isNone
  | binaries entries => (entryAt entries i).isNone
  | lists entries => (entryAt entries i).isNone
  | records _ => false
  | nulls _ => true
  | others entries => (entryAt entries i).isNone

/-! ## Texts, one by one -/

theorem append_empty (d : Displayed) : d.append (.whole "") = d := by
  obtain ⟨text, fault⟩ := d
  cases fault with
  | none =>
    show (⟨text ++ "", none⟩ : Displayed) = ⟨text, none⟩
    rw [String.append_empty]
  | some fault => rfl

theorem getElem?_fieldDisplays {i : Nat} {fields : List (String × Data)}
    (h : ∀ field ∈ fields, field.2.displays[i]? = some (field.2.textAt i)) :
    ∀ separator, fields ≠ [] →
      (fieldDisplays separator fields)[i]? = some (fieldTextsAt i separator fields) := by
  induction fields with
  | nil =>
    intro separator hne
    exact absurd rfl hne
  | cons field rest ih =>
    obtain ⟨name, data⟩ := field
    obtain ⟨hfirst, hrest⟩ := List.forall_mem_cons.mp h
    intro separator _
    have hlabel : ((displays data).map (labelled separator name))[i]? =
        some (labelled separator name (data.textAt i)) := by
      rw [List.getElem?_map, hfirst]
      rfl
    cases rest with
    | nil =>
      rw [fieldDisplays, fieldTextsAt, fieldTextsAt, append_empty]
      exact hlabel
    | cons next others =>
      have hothers := ih hrest ", " (List.cons_ne_nil next others)
      rw [fieldDisplays, List.getElem?_zipWith, hlabel, hothers]
      rfl

/-- **The text at a position** is that of the entry there. -/
theorem getElem?_displays {count i : Nat} {data : Data} (h : Even count data) (hi : i < count) :
    data.displays[i]? = some (data.textAt i) := by
  induction data using Data.induction with
  | records fields ih =>
    cases h with
    | column length_eq each =>
      have hne : fields ≠ [] := by
        rintro rfl
        rw [← length_eq] at hi
        exact absurd hi (Nat.not_lt_zero i)
      have hfields := getElem?_fieldDisplays
        (fun field hfield => ih field hfield (each _ rfl field hfield)) "" hne
      rw [displays, List.getElem?_map, hfields, textAt]
      rfl
  | flat data hflat =>
    cases h with
    | column length_eq each =>
      rw [← length_eq] at hi
      cases data with
      | records fields => exact absurd rfl (hflat fields)
      | nulls total =>
        show (List.replicate total _)[i]? = _
        rw [List.getElem?_replicate]
        exact if_pos hi
      | others entries =>
        show entries[i]? = some (entryAt entries i)
        unfold entryAt
        rw [List.getElem?_eq_getElem hi]
        rfl
      | _ => exact getElem?_map_entries _ hi

/-! ## Cells, one by one -/

theorem getElem?_cellsBy {α : Type} (cell : α → Cell) {entries : List (Option α)} {i : Nat}
    (h : i < entries.length) :
    (cellsBy cell entries)[i]? = some (((entryAt entries i).map cell).getD .null) :=
  getElem?_map_entries _ h

/-- **The cell at a position** is that of the entry there. -/
theorem getElem?_cells {count i : Nat} {data : Data} {cells : List Cell} (h : Even count data)
    (hi : i < count) (hcells : data.cells = .ok cells) : cells[i]? = some (data.cellAt i) := by
  have hlength : i < data.length := by
    cases h with
    | column length_eq each => exact length_eq ▸ hi
  have hdisplayed := getElem?_displays h hi
  have hserved : (cellsBy (fun d : Displayed => .string d.served) data.displays)[i]? =
      some (((data.textAt i).map fun d => .string d.served).getD .null) := by
    unfold cellsBy
    rw [List.getElem?_map, hdisplayed]
    rfl
  unfold Data.cells at hcells
  split at hcells
  · cases hcells
    exact getElem?_cellsBy _ hlength
  · cases hcells
    exact getElem?_cellsBy _ hlength
  · cases hcells
    exact getElem?_cellsBy _ hlength
  · cases hcells
    exact getElem?_cellsBy _ hlength
  · cases hcells
    exact getElem?_cellsBy _ hlength
  · -- what has no cells of its own has the cells of its texts
    rename_i hintegers hsingle hdouble hbooleans htexts
    split at hcells
    · cases hcells
      rw [hserved]
      cases data with
      | integers entries => exact absurd rfl (hintegers entries)
      | booleans entries => exact absurd rfl (hbooleans entries)
      | texts entries => exact absurd rfl (htexts entries)
      | floats width entries =>
        cases width with
        | half => rfl
        | single => exact absurd rfl (hsingle entries)
        | double => exact absurd rfl (hdouble entries)
      | _ => rfl
    · cases hcells

/-- A column has cells if every time zone in its type is understood. -/
theorem exists_cells_iff {data : Data} :
    (∃ cells, data.cells = .ok cells) ↔ data.zonesKnown = true := by
  unfold Data.cells
  split
  any_goals exact iff_of_true ⟨_, rfl⟩ rfl
  split
  · rename_i hzones
    exact iff_of_true ⟨_, rfl⟩ hzones
  · rename_i hzones
    refine iff_of_false ?_ hzones
    rintro ⟨cells, h⟩
    cases h

/-! ## Which cells they are -/

theorem getD_eq_null_iff {α : Type} (cell : α → Cell) (h : ∀ x, cell x ≠ .null)
    (entry : Option α) : (entry.map cell).getD .null = .null ↔ entry.isNone = true := by
  cases entry with
  | none => exact iff_of_true rfl rfl
  | some x => exact iff_of_false (h x) Bool.false_ne_true

theorem integerCell_ne_null (n : Int) : integerCell n ≠ .null := by
  unfold integerCell
  split
  · exact nofun
  · exact nofun

/-- **A cell is null exactly where the entry is**, except in columns of nothing but the null value,
    of which every cell is the empty text. -/
theorem cellAt_eq_null_iff {data : Data} (h : ∀ count, data ≠ .nulls count) (i : Nat) :
    data.cellAt i = .null ↔ data.isNullAt i = true := by
  have hserved : ∀ {α : Type} (text : α → Displayed) (entry : Option α),
      ((entry.map text).map fun d => Cell.string d.served).getD .null = .null ↔
        entry.isNone = true := by
    intro α text entry
    rw [Option.map_map]
    exact getD_eq_null_iff (fun x => Cell.string (text x).served) (fun _ => nofun) entry
  cases data with
  | integers entries => exact getD_eq_null_iff integerCell integerCell_ne_null _
  | floats width entries =>
    cases width with
    | half => exact hserved _ _
    | single => exact getD_eq_null_iff (floatCell .single) (fun _ => nofun) _
    | double => exact getD_eq_null_iff (floatCell .double) (fun _ => nofun) _
  | booleans entries => exact getD_eq_null_iff Cell.boolean (fun _ => nofun) _
  | texts entries => exact getD_eq_null_iff Cell.string (fun _ => nofun) _
  | records fields => exact iff_of_false nofun Bool.false_ne_true
  | nulls count => exact absurd rfl (h count)
  | others entries =>
    exact getD_eq_null_iff (fun d : Displayed => Cell.string d.served) (fun _ => nofun) _
  | _ => exact hserved _ _

/-- An integer of 64 bits keeps its value. -/
theorem integerCell_of_fits {n : Int} (h : -0x8000000000000000 ≤ n ∧ n < 0x8000000000000000) :
    ∃ word : Int64, integerCell n = .integer word ∧ word.toInt = n := by
  refine ⟨Int64.ofInt n, ?_, Int64.toInt_ofInt_of_le h.1 h.2⟩
  unfold integerCell int64?
  rw [if_pos h]

/-- A greater one becomes the nearest double. -/
theorem integerCell_of_le {n : Int} (h : 0x8000000000000000 ≤ n) :
    integerCell n = .float (Double.ofInt n) := by
  unfold integerCell int64?
  rw [if_neg fun hfits => absurd hfits.2 (Int.not_lt.mpr h)]

/-- The double of an integer's cell is that of the integer. -/
theorem toDouble?_integerCell (n : Int) : (integerCell n).toDouble? = some (Double.ofInt n) := by
  unfold integerCell
  split
  · rename_i word hword
    rw [int64?_eq_some_iff.mp hword]
    rfl
  · rfl

/-- **The cells of integers keep their order**, those that become doubles included. -/
theorem compare?_integerCell {m n : Int} (h : m ≤ n) :
    (integerCell m).compare? (integerCell n) ≠ some .gt := by
  have hdoubles : (Double.ofInt m).compare? (Double.ofInt n) ≠ some .gt := by
    rw [Cell.doubleCompare?_eq (Double.isNaN_ofInt m) (Double.isNaN_ofInt n)]
    intro hgt
    have hlt := Int.compare_eq_gt.mp (Option.some.inj hgt)
    exact absurd (Double.ordinal_ofInt_mono h) (Int.not_le.mpr hlt)
  have hm := toDouble?_integerCell m
  have hn := toDouble?_integerCell n
  unfold integerCell at hm hn ⊢
  split at hm
  · rename_i i hi
    split at hn
    · rename_i j hj
      -- two integers of 64 bits are compared as such
      rw [int64?_eq_some_iff.mp hi, int64?_eq_some_iff.mp hj] at h
      intro hgt
      exact absurd h (Int.not_le.mpr (Int.compare_eq_gt.mp (Option.some.inj hgt)))
    · rw [Cell.compare?_integer_float, Option.some.inj hm]
      exact hdoubles
  · split at hn
    · rw [Cell.compare?_float_integer, Option.some.inj hn]
      exact hdoubles
    · rw [Cell.compare?_floats]
      exact hdoubles

end Data

/-! ## The rows of a file -/

/-- The rows of columns, by the entries at each position. -/
theorem rowAt_eq_map {columns : List (String × Data)} {cells : List (List Cell)} {count i : Nat}
    (hi : i < count)
    (h : List.Forall₂ (fun (column : String × Data) cells => column.2.cells = .ok cells)
      columns cells) :
    (∀ column ∈ columns, column.2.Even count) →
      rowAt cells i = columns.map fun column => column.2.cellAt i := by
  induction h with
  | nil =>
    intro _
    rfl
  | cons hcells _ ih =>
    intro heven
    obtain ⟨hfirst, hrest⟩ := List.forall_mem_cons.mp heven
    rw [List.map_cons, ← ih hrest]
    exact List.filterMap_cons_some (Data.getElem?_cells hfirst hi hcells)

namespace ColumnFile

/-- The row at a position: the cells of the entries that the columns have there. -/
def rowOf (file : ColumnFile) (i : Nat) : Row := file.columns.map fun column => column.2.cellAt i

theorem exists_columnCells_iff {columns : List (String × Data)} :
    (∃ cells, columnCells columns = .ok cells) ↔
      ∀ column ∈ columns, column.2.zonesKnown = true := by
  simp only [columnCells, mapM_eq_ok_iff, exists_forall₂_iff, Data.exists_cells_iff]

/-- **The rows of a file** are those of its entries, one for each position. -/
theorem rows_eq_map {file : ColumnFile} {rows : List Row} (heven : file.Even)
    (h : file.rows = .ok rows) : rows = (List.range file.rowCount).map file.rowOf := by
  rcases rows_cases h with ⟨hnone, rfl⟩ | ⟨cells, hcells, _, rfl⟩
  · rw [hnone]
    rfl
  · refine List.map_congr_left fun i hi => ?_
    exact rowAt_eq_map (List.mem_range.mp hi) (mapM_eq_ok_iff.mp hcells) heven

/-- A file has rows if there is none to read, or all its columns have cells. -/
theorem exists_rows_iff {file : ColumnFile} :
    (∃ rows, file.rows = .ok rows) ↔
      file.rowCount = 0 ∨ ∀ column ∈ file.columns, column.2.zonesKnown = true := by
  rw [← exists_columnCells_iff]
  cases hcells : columnCells file.columns with
  | error e =>
    rw [rows_eq_error hcells]
    by_cases hnone : file.rowCount = 0
    · rw [if_pos hnone]
      exact iff_of_true ⟨[], rfl⟩ (Or.inl hnone)
    · rw [if_neg hnone]
      refine iff_of_false ?_ ?_
      · rintro ⟨rows, h⟩
        cases h
      · rintro (hzero | ⟨cells, h⟩)
        · exact hnone hzero
        · cases h
  | ok cells =>
    rw [rows_eq hcells]
    exact iff_of_true ⟨_, rfl⟩ (Or.inr ⟨cells, rfl⟩)

end ColumnFile

end Winnow.Columnar
