import Winnow.Column

/-!
# `Winnow.Columnar.Data` — columns of a columnar file

A columnar file holds named columns of equal length. A column has one element type and a list of
entries, of which any may be missing.

## Contents
- **`Displayed`**: a text that may have been cut short by a fault.
- **`TimeUnit`**, **`FloatWidth`**, **`Data`**: element types with their entries.
- **`Data.length`**, **`Data.slice`**: the entries of a column.
- **`Data.columnType`**: the declared type under which a column is served.
- **`ColumnFile`**: the content of a file.
-/

namespace Winnow.Columnar

/-- A text, and the fault at which it ends if it could not be completed. -/
structure Displayed where
  text : String
  fault : Option String := none
  deriving DecidableEq, Repr

/-- The unit of a count of time. -/
inductive TimeUnit where
  | second
  | millisecond
  | microsecond
  | nanosecond
  deriving DecidableEq, Repr

/-- The width of a floating point element. -/
inductive FloatWidth where
  | half
  | single
  | double
  deriving DecidableEq, Repr

/-- The entries of a column by their element type. A missing entry is `none`. -/
inductive Data where
  | integers (entries : List (Option Int))
  | floats (width : FloatWidth) (entries : List (Option Double))
  | booleans (entries : List (Option Bool))
  | texts (entries : List (Option String))
  /-- Days from the first of January 1970. -/
  | dates32 (entries : List (Option Int))
  /-- Milliseconds from the first of January 1970, kept in whole days. -/
  | dates64 (entries : List (Option Int))
  | timestamps (unit : TimeUnit) (zone : Option String) (entries : List (Option Int))
  | times32 (unit : TimeUnit) (entries : List (Option Int))
  | times64 (unit : TimeUnit) (entries : List (Option Int))
  /-- Unscaled integers with a number of decimals. -/
  | decimals (precision : Nat) (scale : Int) (entries : List (Option Int))
  | binaries (entries : List (Option (List UInt8)))
  | lists (entries : List (Option (List (Option Int))))
  | records (fields : List (String × Data))
  /-- A column whose every entry is the null value, which is not a missing entry. -/
  | nulls (count : Nat)
  /-- Elements of any other type, such as durations, maps or records of which some are missing. All
      that is served of them is the text of each. -/
  | others (entries : List (Option Displayed))
  deriving Repr

namespace Data

/-- The number of entries. A record column is as long as its first field. -/
def length : Data → Nat
  | integers entries => entries.length
  | floats _ entries => entries.length
  | booleans entries => entries.length
  | texts entries => entries.length
  | dates32 entries => entries.length
  | dates64 entries => entries.length
  | timestamps _ _ entries => entries.length
  | times32 _ entries => entries.length
  | times64 _ entries => entries.length
  | decimals _ _ entries => entries.length
  | binaries entries => entries.length
  | lists entries => entries.length
  | records fields => lengthOf fields
  | nulls count => count
  | others entries => entries.length
where
  /-- The length of the first field. -/
  lengthOf : List (String × Data) → Nat
    | [] => 0
    | (_, data) :: _ => length data

/-- The declared type of a column of this element type. Types without a table type of their own are
    served as strings. -/
def columnType : Data → ColumnType
  | integers _ => .number
  | floats .half _ => .string
  | floats _ _ => .number
  | booleans _ => .boolean
  | dates32 _ | dates64 _ => .date
  | timestamps .. => .datetime
  | times32 .. | times64 .. => .timeOfDay
  | texts _ | decimals .. | binaries _ | lists _ | records _ | nulls _ | others _ => .string

mutual

/-- The entries from `first` on, at most `count` of them. -/
def slice (first count : Nat) : Data → Data
  | integers entries => integers ((entries.drop first).take count)
  | floats width entries => floats width ((entries.drop first).take count)
  | booleans entries => booleans ((entries.drop first).take count)
  | texts entries => texts ((entries.drop first).take count)
  | dates32 entries => dates32 ((entries.drop first).take count)
  | dates64 entries => dates64 ((entries.drop first).take count)
  | timestamps unit zone entries => timestamps unit zone ((entries.drop first).take count)
  | times32 unit entries => times32 unit ((entries.drop first).take count)
  | times64 unit entries => times64 unit ((entries.drop first).take count)
  | decimals precision scale entries =>
    decimals precision scale ((entries.drop first).take count)
  | binaries entries => binaries ((entries.drop first).take count)
  | lists entries => lists ((entries.drop first).take count)
  | records fields => records (sliceFields first count fields)
  | nulls total => nulls (min count (total - first))
  | others entries => others ((entries.drop first).take count)

/-- The entries of the fields of a record column. -/
def sliceFields (first count : Nat) : List (String × Data) → List (String × Data)
  | [] => []
  | (name, data) :: rest => (name, slice first count data) :: sliceFields first count rest

end

end Data

/-- The named columns of a columnar file, all of one length. -/
structure ColumnFile where
  columns : List (String × Data)
  deriving Repr

namespace ColumnFile

/-- The number of rows. -/
def rowCount (file : ColumnFile) : Nat :=
  match file.columns with
  | [] => 0
  | (_, data) :: _ => data.length

/-- The schema under which a file is served. -/
def schema (file : ColumnFile) : Schema :=
  file.columns.map fun (name, data) => ⟨name, data.columnType⟩

end ColumnFile

end Winnow.Columnar
