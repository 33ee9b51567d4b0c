import Winnow.Table.Decode

/-!
# `Winnow.Table.Document` — tables as JSON documents

A document `{"name", "table": {"columns", "rows"}}` holds a named table. Its rows must fit its
columns: one cell for each column, and each cell of the column's type.

## Contents
- **`checkRows`**: rows that fit a schema.
- **`TableDocument`**, **`TableDocument.ofJson`**, **`TableDocument.parse`**.
-/

namespace Winnow

/-! ## Rows that fit a schema -/

/-- Every cell of a row must fit its column; the first that does not is reported. -/
def checkCells (position : Nat) : Schema → Row → Except Error Unit
  | column :: columns, cell :: cells =>
    if column.type.accepts cell then checkCells position columns cells
    else .error (.typeMismatch (.cellType position column cell))
  | _, _ => .ok ()

/-- Every row must have one cell for each column, each fitting its column. -/
def checkRowsFrom (schema : Schema) (position : Nat) : List Row → Except Error Unit
  | [] => .ok ()
  | row :: rest =>
    if row.length = schema.length then
      match checkCells position schema row with
      | .ok () => checkRowsFrom schema (position + 1) rest
      | .error e => .error e
    else .error (.typeMismatch (.rowLength position row.length schema.length))

/-- Checks rows against a schema. -/
def checkRows (schema : Schema) (rows : List Row) : Except Error Unit :=
  checkRowsFrom schema 0 rows

/-! ## Documents -/

/-- A named table with its columns and rows. -/
structure TableDocument where
  name : String
  schema : Schema
  rows : List Row
  deriving DecidableEq, Repr

namespace TableDocument

/-- The fields of an object. -/
def fieldsOf (context : String) : Json → Except Error (List (String × Json))
  | .object fields => .ok fields
  | _ => .error (.typeMismatch (.notObject context))

/-- All the named fields must be there. -/
def require (context : String) (names : List String) (fields : List (String × Json)) :
    Except Error Unit :=
  match names.filter fun name => (Json.lookup? name fields).isNone with
  | [] => .ok ()
  | missing => .error (.missingFields context missing)

/-- The value of a field that is known to be there. -/
def field (name : String) (fields : List (String × Json)) : Json :=
  (Json.lookup? name fields).getD .null

/-- Reads a table from a JSON tree: the outer object, the name, the table object, its columns, its
    rows, and last the check of the rows. -/
def ofJson (tree : Json) : Except Error TableDocument := do
  let outer ← fieldsOf "JSON form of table" tree
  require "JSON form of table" ["name", "table"] outer
  let name ← match field "name" outer with
    | .string name => pure name
    | _ => throw (.typeMismatch .tableNameNotString)
  let table ← fieldsOf "table" (field "table" outer)
  require "table" ["columns", "rows"] table
  let schema ← Decode.lift (Decode.columns (field "columns" table))
  let rows ← Decode.lift (Decode.rows (field "rows" table))
  checkRows schema rows
  return ⟨name, schema, rows⟩

/-- Reads a table from a JSON text. -/
def parse (text : String) : Except Error TableDocument := do
  ofJson (← Json.decode text)

/-- The JSON form of a table. -/
def toJson (t : TableDocument) : Json :=
  .object [("name", .string t.name),
    ("table", .object [("columns", t.schema.toJson), ("rows", rowsJson t.rows)])]

end TableDocument

end Winnow
