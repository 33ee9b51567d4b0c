import Winnow.Summary

/-!
# `Winnow.Table.Decode` — typed reading of JSON trees

The types of a table document are read from a decoded tree. A record may be written as an object, in
which unknown fields are ignored, or as an array of its fields in their declared order.

## Contents
- **`Json.decode`**: the tree of a text.
- **`cell`**, **`row`**, **`rows`**: cells are read by the first type that takes the tree.
- **`columnType`**, **`column`**, **`columns`**, **`numericSpec`**.
- **`Column.toJson`**, **`Schema.toJson`**, **`rowsJson`**: the written forms.
-/

namespace Winnow

/-- Decodes a JSON text; its faults are errors of the library. -/
def Json.decode (text : String) : Except Error Json :=
  match Json.parse text with
  | .ok tree => .ok tree
  | .error e => .error (.json (.malformed e))

namespace Decode

/-- What a typed reader of a tree yields. -/
abbrev Read (α : Type) := Except Json.ShapeError α

/-! ## Cells -/

/-- Reads a null. -/
def asNull : Json → Option Cell
  | .null => some .null
  | _ => none

/-- Reads a boolean. -/
def asBoolean : Json → Option Cell
  | .bool b => some (.boolean b)
  | _ => none

/-- Reads a whole number of the signed range. -/
def asInteger : Json → Option Cell
  | .number (.whole i _) => (int64? i).map .integer
  | _ => none

/-- Reads any number as a double. -/
def asFloat : Json → Option Cell
  | .number (.whole i _) => some (.float (Double.ofInt i))
  | .number (.real x _) => some (.float x)
  | _ => none

/-- Reads a string. -/
def asString : Json → Option Cell
  | .string s => some (.string s)
  | _ => none

/-- Reads a cell by the first type that takes the tree. -/
def cell (tree : Json) : Read Cell :=
  match [asNull, asBoolean, asInteger, asFloat, asString].findSome? (· tree) with
  | some c => .ok c
  | none => .error .noCell

/-- Reads the items of an array one after the other. -/
def items {α : Type} (read : Json → Read α) (found : List α) : List Json → Read (List α)
  | [] => .ok found.reverse
  | tree :: rest =>
    match read tree with
    | .ok x => items read (x :: found) rest
    | .error e => .error e

/-- Reads an array. -/
def list {α : Type} (read : Json → Read α) : Json → Read (List α)
  | .array trees => items read [] trees
  | other => .error (.invalidType other .sequence)

/-- Reads a row. -/
def row : Json → Read Row := list cell

/-- Reads rows. -/
def rows : Json → Read (List Row) := list row

/-! ## Columns -/

/-- Reads a string. -/
def text : Json → Read String
  | .string s => .ok s
  | other => .error (.invalidType other .string)

/-- The column type with a name. -/
def typeNamed (name : String) : Read ColumnType :=
  match ColumnType.ofName? name with
  | some type => .ok type
  | none => .error (.unknownVariant name (ColumnType.all.map (·.name)))

/-- Reads a column type: its name, or an object with the name as only key and no content. -/
def columnType : Json → Read ColumnType
  | .string name => typeNamed name
  | .object [(name, content)] => do
    let type ← typeNamed name
    match content with
    | .null => return type
    | other => throw (.invalidType other .unit)
  | .object fields => .error (.invalidValue (.object fields) .singleKey)
  | other => .error (.invalidType other .nameOrMap)

/-- Reads a field of an object if it is there. -/
def field {α : Type} (name : String) (read : Json → Read α) (fields : List (String × Json)) :
    Read (Option α) :=
  match Json.lookup? name fields with
  | some tree => (read tree).map some
  | none => .ok none

/-- A field that must be there. -/
def present {α : Type} (name : String) : Option α → Read α
  | some x => .ok x
  | none => .error (.missingField name)

/-- Reads a column. As an array it has exactly a name and a type. -/
def column : Json → Read Column
  | .object fields => do
    let name ← field "name" text fields
    let type ← field "type" columnType fields
    return ⟨← present "name" name, ← present "type" type⟩
  | .array trees =>
    match trees with
    | [] => .error (.invalidLength 0 (.elements "Column" 2))
    | [first] => do
      let _ ← text first
      throw (.invalidLength 1 (.elements "Column" 2))
    | first :: second :: rest => do
      let name ← text first
      let type ← columnType second
      if rest.isEmpty then return ⟨name, type⟩
      else throw (.invalidLength trees.length .fewerElements)
  | other => .error (.invalidType other (.record "Column"))

/-- Reads columns. -/
def columns : Json → Read Schema := list column

/-! ## Numeric specs -/

/-- Reads a numeric spec. As an array it has exactly a minimum, a maximum and an increment. -/
def numericSpec : Json → Read NumericSpec
  | .object fields => do
    let increment ← field "increment" cell fields
    let max ← field "max_val" cell fields
    let min ← field "min_val" cell fields
    return ⟨← present "min_val" min, ← present "max_val" max, ← present "increment" increment⟩
  | .array trees =>
    match trees with
    | first :: second :: third :: rest => do
      let min ← cell first
      let max ← cell second
      let increment ← cell third
      if rest.isEmpty then return ⟨min, max, increment⟩
      else throw (.invalidLength trees.length .fewerElements)
    | short => do
      let _ ← items cell [] short
      throw (.invalidLength short.length (.elements "NumericSpec" 3))
  | other => .error (.invalidType other (.record "NumericSpec"))

/-- A shape error as an error of the library. -/
def lift {α : Type} : Read α → Except Error α
  | .ok x => .ok x
  | .error e => .error (.json (.shape e))

end Decode

/-- The JSON form of a column. -/
def Column.toJson (c : Column) : Json :=
  .object [("name", .string c.name), ("type", .string c.type.name)]

/-- The JSON form of a schema. -/
def Schema.toJson (schema : Schema) : Json := .array (schema.map Column.toJson)

/-- The JSON form of a list of cells. -/
def cellsJson (cells : List Cell) : Json := .array (cells.map Cell.toJson)

/-- The JSON form of rows. -/
def rowsJson (rows : List Row) : Json := .array (rows.map cellsJson)

end Winnow
