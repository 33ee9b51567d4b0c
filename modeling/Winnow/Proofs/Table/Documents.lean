import Winnow.Proofs.Faults
import Winnow.Proofs.Table.Conforming

/-!
# `Winnow.Proofs.Table.Documents` — trees that are documents of tables

A tree is read as a table in stages: the outer object and its fields, the name, the object of the
table and its fields, the columns, the rows, and last the check of the rows. All stages succeed
exactly for the documents of a table, in which other fields may stand beside those that count.

## Contents
- **`require_eq_ok_iff`**, **`lift_eq_ok_iff`**: stages that succeed.
- **`Documents`**, **`ofJson_eq_ok_iff`**: the trees that are read as a table.
- **`conform_of_parse`**: the rows of a table that was read.
-/

namespace Winnow

theorem Decode.lift_eq_ok_iff {α : Type} {read : Decode.Read α} {x : α} :
    Decode.lift read = .ok x ↔ read = .ok x := by
  cases read with
  | error e => simp [Decode.lift]
  | ok y => simp [Decode.lift]

namespace TableDocument

/-- The fields that are asked for are there. -/
theorem require_eq_ok_iff {context : String} {names : List String} {fields : List (String × Json)} :
    require context names fields = .ok () ↔
      ∀ name ∈ names, ∃ value, Json.lookup? name fields = some value := by
  have hmissing : (names.filter fun name => (Json.lookup? name fields).isNone) = [] ↔
      ∀ name ∈ names, ∃ value, Json.lookup? name fields = some value := by
    rw [List.filter_eq_nil_iff]
    simp only [Option.isNone_iff_eq_none, ← ne_eq, Option.ne_none_iff_exists']
  rw [← hmissing]
  unfold require
  split
  · rename_i h
    exact iff_of_true rfl h
  · rename_i h
    exact iff_of_false (by rintro ⟨⟩) h

theorem field_eq {name : String} {fields : List (String × Json)} {value : Json}
    (h : Json.lookup? name fields = some value) : field name fields = value := by
  rw [field, h, Option.getD_some]

theorem fieldsOf_eq_ok_iff {context : String} {tree : Json} {fields : List (String × Json)} :
    fieldsOf context tree = .ok fields ↔ tree = .object fields := by
  cases tree <;> simp [fieldsOf]

/-- A tree is the document of a table: an object with the name and, in an object of its own, the
    columns and rows, which fit each other. -/
inductive Documents : Json → TableDocument → Prop where
  | document {outer inner : List (String × Json)} {columns rows : Json} {table : TableDocument}
      (nameField : Json.lookup? "name" outer = some (.string table.name))
      (tableField : Json.lookup? "table" outer = some (.object inner))
      (columnsField : Json.lookup? "columns" inner = some columns)
      (rowsField : Json.lookup? "rows" inner = some rows)
      (columns_read : Decode.columns columns = .ok table.schema)
      (rows_read : Decode.rows rows = .ok table.rows)
      (conform : Conform table.schema table.rows) : Documents (.object outer) table

/-- **A tree is read as a table exactly if it is a document of it.** -/
theorem ofJson_eq_ok_iff {tree : Json} {table : TableDocument} :
    ofJson tree = .ok table ↔ Documents tree table := by
  constructor
  · intro h
    unfold ofJson at h
    obtain ⟨outer, houter, h⟩ := bind_eq_ok_iff.mp h
    obtain ⟨_, hfields, h⟩ := bind_eq_ok_iff.mp h
    rw [fieldsOf_eq_ok_iff.mp houter]
    rw [require_eq_ok_iff] at hfields
    obtain ⟨name, hname⟩ := hfields "name" (by simp)
    obtain ⟨held, hheld⟩ := hfields "table" (by simp)
    rw [field_eq hname, field_eq hheld] at h
    dsimp only at h
    split at h
    · obtain ⟨_, hstring, h⟩ := bind_eq_ok_iff.mp h
      cases hstring
      obtain ⟨inner, hinner, h⟩ := bind_eq_ok_iff.mp h
      obtain ⟨_, hfields, h⟩ := bind_eq_ok_iff.mp h
      rw [fieldsOf_eq_ok_iff] at hinner
      rw [hinner] at hheld
      rw [require_eq_ok_iff] at hfields
      obtain ⟨columns, hcolumns⟩ := hfields "columns" (by simp)
      obtain ⟨rows, hrows⟩ := hfields "rows" (by simp)
      rw [field_eq hcolumns, field_eq hrows] at h
      obtain ⟨schema, hschema, h⟩ := bind_eq_ok_iff.mp h
      obtain ⟨read, hread, h⟩ := bind_eq_ok_iff.mp h
      obtain ⟨_, hcheck, h⟩ := bind_eq_ok_iff.mp h
      cases h
      exact .document hname hheld hcolumns hrows (Decode.lift_eq_ok_iff.mp hschema)
        (Decode.lift_eq_ok_iff.mp hread) (checkRows_eq_ok_iff.mp hcheck)
    · obtain ⟨_, hthrow, _⟩ := bind_eq_ok_iff.mp h
      cases hthrow
  · intro h
    cases h with
    | @document outer inner columns rows _ nameField tableField columnsField rowsField columns_read
        rows_read conform =>
      have houter : require "JSON form of table" ["name", "table"] outer = .ok () := by
        rw [require_eq_ok_iff]
        simp [nameField, tableField]
      have hinner : require "table" ["columns", "rows"] inner = .ok () := by
        rw [require_eq_ok_iff]
        simp [columnsField, rowsField]
      unfold ofJson
      rw [fieldsOf_eq_ok_iff.mpr rfl]
      show (require "JSON form of table" ["name", "table"] outer >>= _) = _
      rw [houter, field_eq nameField, field_eq tableField]
      show (require "table" ["columns", "rows"] inner >>= _) = _
      rw [hinner, field_eq columnsField, field_eq rowsField, columns_read, rows_read]
      show (checkRows table.schema table.rows >>= _) = _
      rw [checkRows_eq_ok_iff.mpr conform]
      rfl

/-- The rows of a table that was read fit the columns that were read with them. -/
theorem conform_of_parse {text : String} {table : TableDocument} (h : parse text = .ok table) :
    Conform table.schema table.rows := by
  unfold parse at h
  obtain ⟨tree, _, hread⟩ := bind_eq_ok_iff.mp h
  cases ofJson_eq_ok_iff.mp hread with
  | document _ _ _ _ _ _ conform => exact conform

end TableDocument

end Winnow
