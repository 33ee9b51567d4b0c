import Winnow.Cell

/-!
# `Winnow.Column` — declared columns

A schema is a list of named, typed columns. Names may repeat; a name then means the first column
that has it. A type says which cells may stand in a column, and a null may stand anywhere.

## Contents
- **`ColumnType`** with its wire name, **`Column`**, **`Schema`**.
- **`ColumnType.accepts`**: the cells that fit a type.
- **`Schema.find?`**: the first column of a name, with its position.
-/

namespace Winnow

/-- The declared type of a column. -/
inductive ColumnType where
  | string
  | number
  | boolean
  | date
  | datetime
  | timeOfDay
  deriving DecidableEq, Repr

namespace ColumnType

/-- All types, in the order in which messages list them. -/
def all : List ColumnType := [string, number, boolean, date, datetime, timeOfDay]

/-- The name of a type in documents and messages. -/
def name : ColumnType → String
  | string => "string"
  | number => "number"
  | boolean => "boolean"
  | date => "date"
  | datetime => "datetime"
  | timeOfDay => "timeofday"

/-- The type with a name. -/
def ofName? (s : String) : Option ColumnType := all.find? (·.name = s)

/-- Whether a cell may stand in a column of a type. Dates and times stand as strings. -/
def accepts : ColumnType → Cell → Bool
  | _, .null => true
  | number, c => c.isNumber
  | boolean, .boolean _ => true
  | string, .string _ => true
  | date, .string _ => true
  | datetime, .string _ => true
  | timeOfDay, .string _ => true
  | _, _ => false

end ColumnType

/-- A named and typed column. -/
structure Column where
  name : String
  type : ColumnType
  deriving DecidableEq, Repr

/-- The columns of a table. -/
abbrev Schema := List Column

namespace Schema

/-- The names of the columns. -/
def names (schema : Schema) : List String := schema.map (·.name)

/-- The types of the columns. -/
def types (schema : Schema) : List ColumnType := schema.map (·.type)

/-- The first column of a name, with its position. -/
def find? (schema : Schema) (name : String) : Option (Nat × Column) :=
  go 0 schema
where
  go (position : Nat) : Schema → Option (Nat × Column)
    | [] => none
    | column :: rest =>
      if column.name = name then some (position, column) else go (position + 1) rest

/-- The type of the first column of a name. -/
def typeOf? (schema : Schema) (name : String) : Option ColumnType :=
  (schema.find? name).map (·.2.type)

end Schema

end Winnow
