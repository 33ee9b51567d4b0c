import Winnow.Proofs.Spec.Nodes
import Winnow.Proofs.Table.Documents

/-!
# `Winnow.Proofs.Table.ReadBack` — tables that are written and read again

The document of a table holds its cells without their types. Reading tries the types one after the
other, and each written cell is taken by the type it was written from: whole numbers are integers,
and a float is written with a fraction or an exponent even where its value is whole. Only a float
that is not finite has no written form; it is stored as a null. So what is read is the table as it is
stored, if its rows pass the check there.

## Contents
- **`Cell.stored`**, **`TableDocument.stored`**: what a document keeps.
- **`Decode.list_map`**: lists that are read item by item.
- **`Decode.cell_eq_ok_iff`**: the type by which a tree is read as a cell.
- **`Decode.cell_toJson`**, **`Decode.column_toJson`**: cells and columns are read back.
- **`TableDocument.ofJson_toJson`**: what is read from the document of any table.
- **`TableDocument.read_back`**: which tables are read back as they were.
-/

namespace Winnow

/-! ## What a document keeps -/

/-- What a document keeps of a cell: a float that is not finite becomes a null. -/
def Cell.stored : Cell → Cell
  | .float x => if x.isFinite then .float x else .null
  | cell => cell

/-- A cell is kept unless it is a float that is not finite. -/
theorem Cell.stored_eq_self_iff {cell : Cell} :
    cell.stored = cell ↔ ∀ x, cell = .float x → x.isFinite = true := by
  cases cell with
  | float x =>
    unfold Cell.stored
    by_cases hfinite : x.isFinite = true
    · simp [hfinite]
    · simp [hfinite]
  | null | boolean _ | integer _ | string _ => simp [Cell.stored]

theorem map_eq_self_iff {α : Type} {f : α → α} {xs : List α} :
    xs.map f = xs ↔ ∀ x ∈ xs, f x = x := by
  conv_lhs => rw [← List.map_id xs, List.map_map, List.map_inj_left]
  simp

/-- What a document keeps of a table. -/
def TableDocument.stored (table : TableDocument) : TableDocument :=
  { table with rows := table.rows.map (·.map Cell.stored) }

/-- A table is kept if all its floats are finite. -/
theorem TableDocument.stored_eq_self_iff {table : TableDocument} :
    table.stored = table ↔ ∀ row ∈ table.rows, ∀ x, Cell.float x ∈ row → x.isFinite = true := by
  have hrows : table.stored = table ↔ table.rows.map (·.map Cell.stored) = table.rows := by
    cases table
    simp [TableDocument.stored]
  have hcells : ∀ row : Row, row.map Cell.stored = row ↔
      ∀ x, Cell.float x ∈ row → x.isFinite = true := by
    intro row
    rw [map_eq_self_iff]
    simp only [Cell.stored_eq_self_iff]
    constructor
    · intro h x hx
      exact h _ hx x rfl
    · rintro h _ hcell x rfl
      exact h x hcell
  rw [hrows, map_eq_self_iff]
  simp only [hcells]

/-! ## Reading it -/

namespace Decode

/-- If every item is read back as what is kept of it, so is the list. -/
theorem items_map {α : Type} {read : Json → Read α} {write : α → Json} {keep : α → α} {xs : List α}
    (h : ∀ x ∈ xs, read (write x) = .ok (keep x)) :
    ∀ found, items read found (xs.map write) = .ok (found.reverse ++ xs.map keep) := by
  induction xs with
  | nil =>
    intro found
    simp [items]
  | cons x rest ih =>
    intro found
    obtain ⟨hfirst, hrest⟩ := List.forall_mem_cons.mp h
    rw [List.map_cons, items, hfirst]
    show items read (keep x :: found) (rest.map write) = _
    rw [ih hrest, List.reverse_cons, List.append_assoc, List.map_cons, List.singleton_append]

theorem list_map {α : Type} {read : Json → Read α} {write : α → Json} {keep : α → α} {xs : List α}
    (h : ∀ x ∈ xs, read (write x) = .ok (keep x)) :
    list read (.array (xs.map write)) = .ok (xs.map keep) :=
  items_map h []

/-- The first type that takes a tree is the one that its form tells. -/
theorem cell_eq_ok_iff {tree : Json} {c : Cell} : cell tree = .ok c ↔ Cell.ofJson? tree = some c := by
  have htried : [asNull, asBoolean, asInteger, asFloat, asString].findSome? (· tree) =
      Cell.ofJson? tree := by
    cases tree with
    | number number =>
      cases number with
      | real x finite => rfl
      | whole i inRange =>
        -- a whole number is taken as a float only if no signed word holds it
        rw [findSome?_cons_or, findSome?_cons_or, findSome?_cons_or]
        show ((int64? i).map Cell.integer).or (some (.float (Double.ofInt i))) =
          some (Cell.ofNumber (.whole i inRange))
        rw [Cell.ofNumber]
        cases int64? i <;> rfl
    | null | bool _ | string _ | array _ | object _ => rfl
  unfold cell
  rw [htried]
  cases Cell.ofJson? tree <;> simp

/-- **A written cell is read as what is kept of it.** -/
theorem cell_toJson (c : Cell) : cell c.toJson = .ok c.stored := by
  rw [cell_eq_ok_iff]
  cases c with
  | null | boolean _ | string _ => rfl
  | integer i =>
    show some (Cell.ofNumber (.whole i.toInt _)) = some (.integer i)
    rw [Cell.ofNumber, int64?_toInt]
  | float x =>
    show Cell.ofJson? (Json.ofDouble x) = some (if x.isFinite then .float x else .null)
    unfold Json.ofDouble
    by_cases hfinite : x.isFinite = true
    · rw [dif_pos hfinite, if_pos hfinite]
      rfl
    · rw [dif_neg hfinite, if_neg hfinite]
      rfl

theorem rows_rowsJson (rows : List Row) :
    Decode.rows (rowsJson rows) = .ok (rows.map (·.map Cell.stored)) :=
  list_map fun _ _ => list_map fun cell _ => cell_toJson cell

theorem typeNamed_name (type : ColumnType) : typeNamed type.name = .ok type := by
  cases type <;> rfl

theorem column_toJson (c : Column) : column c.toJson = .ok c := by
  have hfields : column c.toJson = (typeNamed c.type.name).map (Column.mk c.name) := by
    cases htype : typeNamed c.type.name <;>
      simp [column, Column.toJson, field, Json.lookup?, text, columnType, present, htype] <;> rfl
  rw [hfields, typeNamed_name]
  rfl

theorem columns_toJson (schema : Schema) : columns schema.toJson = .ok schema := by
  have h : columns schema.toJson = .ok (schema.map id) :=
    list_map fun column _ => column_toJson column
  rw [h, List.map_id]

end Decode

namespace TableDocument

/-- **What is read from the document of a table** is the table as it is stored, once its rows have
    passed the check. -/
theorem ofJson_toJson (table : TableDocument) :
    ofJson table.toJson =
      (checkRows table.schema table.stored.rows).map fun _ => table.stored := by
  have hread : ofJson table.toJson = (do
      let schema ← Decode.lift (Decode.columns table.schema.toJson)
      let rows ← Decode.lift (Decode.rows (rowsJson table.rows))
      checkRows schema rows
      return ⟨table.name, schema, rows⟩) := rfl
  rw [hread, Decode.columns_toJson, Decode.rows_rowsJson]
  show (checkRows table.schema table.stored.rows >>= fun _ => .ok table.stored) = _
  cases checkRows table.schema table.stored.rows <;> rfl

/-- **Tables are read back.** The document of a table is read as just this table, with the same name,
    columns and rows, each cell in the type that it had, if and only if the rows pass the check
    against the columns and hold no float that is not finite; and so is every text that the document
    is the tree of. -/
theorem read_back (table : TableDocument) :
    (ofJson table.toJson = .ok table ↔ checkRows table.schema table.rows = .ok () ∧
      ∀ row ∈ table.rows, ∀ x, Cell.float x ∈ row → x.isFinite = true) ∧
    ∀ text, Json.parse text = .ok table.toJson →
      (parse text = .ok table ↔ checkRows table.schema table.rows = .ok () ∧
        ∀ row ∈ table.rows, ∀ x, Cell.float x ∈ row → x.isFinite = true) := by
  have hback : ofJson table.toJson = .ok table ↔ checkRows table.schema table.rows = .ok () ∧
      ∀ row ∈ table.rows, ∀ x, Cell.float x ∈ row → x.isFinite = true := by
    rw [← stored_eq_self_iff, ofJson_toJson]
    constructor
    · intro h
      cases hcheck : checkRows table.schema table.stored.rows with
      | error e =>
        rw [hcheck] at h
        cases h
      | ok _ =>
        rw [hcheck] at h
        have hstored : table.stored = table := Except.ok.inj h
        rw [hstored] at hcheck
        exact ⟨hcheck, hstored⟩
    · rintro ⟨hcheck, hstored⟩
      rw [hstored, hcheck]
      rfl
  refine ⟨hback, fun text htext => ?_⟩
  have hparse : parse text = ofJson table.toJson := by
    unfold parse Json.decode
    rw [htext]
    rfl
  rw [hparse, hback]

/-- A table with two columns of the empty name, an integer and a float of one value, a text that
    needs an escape, and a null. -/
def mixedTable : TableDocument where
  name := "mixed"
  schema := [⟨"", .number⟩, ⟨"", .string⟩]
  rows := [[.integer 3, .string "3\n"], [.float (Double.ofInt 3), .null]]

set_option maxRecDepth 20000 in
theorem parse_compact_mixedTable :
    Json.parse (Json.compact mixedTable.toJson) = .ok mixedTable.toJson := by
  with_unfolding_all rfl

theorem read_back_mixedTable :
    checkRows mixedTable.schema mixedTable.rows = .ok () ∧
    (∀ row ∈ mixedTable.rows, ∀ x, Cell.float x ∈ row → x.isFinite = true) ∧
    Json.parse (Json.compact mixedTable.toJson) = .ok mixedTable.toJson ∧
    parse (Json.compact mixedTable.toJson) = .ok mixedTable := by
  have hcheck : checkRows mixedTable.schema mixedTable.rows = .ok () := rfl
  have hfinite := stored_eq_self_iff.mp (show mixedTable.stored = mixedTable by decide +kernel)
  refine ⟨hcheck, hfinite, parse_compact_mixedTable, ?_⟩
  exact ((read_back mixedTable).2 _ parse_compact_mixedTable).mpr ⟨hcheck, hfinite⟩

end TableDocument

end Winnow
