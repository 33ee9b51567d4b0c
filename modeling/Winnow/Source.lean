import Winnow.Columnar.Rows
import Winnow.Filter
import Winnow.Session
import Winnow.Summary
import Winnow.Table.Document

/-!
# `Winnow.Source` — sources of table rows

A source has a fixed schema and supplies rows afresh for every request: rows held in memory, a live
supply whose batches differ from pull to pull, or a file that is read again each time.

## Contents
- **`Sorting.lift`**, **`Sorting.give`**, **`Sorting.logged`**: steps of requests that sort.
- **`Supply`**, **`Source`**, and how sources are made or opened.
- **`Source.rows`**: one pull of the rows.
- **`Source.allValues`**, **`Source.numericSpec`**, **`Source.filteredRows`**; the first two also
  with any sort.
- **`Source.describe`**: the text that describes a live source.
-/

namespace Winnow

/-! ## Steps of requests that sort -/

namespace Sorting

variable {ε α : Type} (sorting : Sorting ε)

/-- An action of the library as a step. -/
def lift (action : Action α) : Steps ε α := action.adapt sorting.ofError

/-- A result as a step. -/
def give : Except ε α → Steps ε α
  | .ok x => pure x
  | .error failure => throw failure

/-- What a change of the errors of the library makes of a failure. -/
def onError (change : Error → Error) (failure : ε) : ε :=
  match sorting.error? failure with
  | some e => sorting.ofError (change e)
  | none => failure

/-- Runs steps; an error of the library is logged under the name of the request. -/
def logged (request : Request) (steps : Steps ε α) : Steps ε α :=
  tryCatch steps fun failure =>
    match sorting.error? failure with
    | some e => do
      sorting.lift (Action.report (.requestFailed request e))
      throw failure
    | none => throw failure

theorem lift_stable (action : Action α) : Sorting.stable.lift action = action := by
  funext session
  show ((action session).1.mapError id, (action session).2) = action session
  rcases action session with ⟨_ | _, _⟩ <;> rfl

theorem give_eq_ofExcept (result : Except Error α) : give result = Action.ofExcept result := by
  cases result <;> rfl

theorem logged_stable (request : Request) (action : Action α) :
    Sorting.stable.logged request action = Action.logged request action := rfl

end Sorting

/-! ## Sources -/

/-- Where the rows of a source come from. -/
inductive Supply where
  | memory (rows : List Row)
  /-- The batch of each pull, counted from zero. -/
  | live (batch : Nat → Except Error (List Row))
  | documentFile (path name : String)
  | columnFile (path : String)

/-- A source of rows. Sources are told apart by their number, so that one source may serve several
    tables. -/
structure Source where
  id : Nat
  schema : Schema
  supply : Supply

/-- The table in a document file. -/
def readDocument (files : Files) (path : String) : Except Error TableDocument :=
  match files.readText path with
  | .ok text => TableDocument.parse text
  | .error fault => .error (.io fault)

/-- The content of a columnar file. A file without columns is none. -/
def readColumns (files : Files) (path : String) : Except Error Columnar.ColumnFile :=
  match files.readContent path with
  | .ok (.columnar file) => if file.columns.isEmpty then .error .badColumnFile else .ok file
  | .ok _ => .error .badColumnFile
  | .error fault => .error (.io fault)

namespace Supply

/-- The rows that a supply gives at a pull. The rows of a document must have the schema that it had
    when it was opened; the rows of a columnar file are taken as they are. -/
def read (supply : Supply) (schema : Schema) (files : Files) (pull : Nat) :
    Except Error (List Row) :=
  match supply with
  | memory rows => .ok rows
  | live batch => batch pull
  | documentFile path _ => do
    let table ← readDocument files path
    if table.schema = schema then return table.rows
    else throw (.typeMismatch (.schemaChanged path))
  | columnFile path =>
    match readColumns files path with
    | .ok file => file.rows
    | .error (.io .noDevice) => .error .badColumnFile
    | .error e => .error e

end Supply

namespace Source

/-! ## Making sources -/

/-- A source of fixed rows, which must fit the schema. -/
def ofRows (id : Nat) (schema : Schema) (rows : List Row) : Except Error Source := do
  checkRows schema rows
  return ⟨id, schema, .memory rows⟩

/-- A live source. -/
def ofBatches (id : Nat) (schema : Schema) (batch : Nat → Except Error (List Row)) : Source :=
  ⟨id, schema, .live batch⟩

/-- The batches of a finite list, of which the last one is repeated for ever. -/
def lastForEver (batches : List (Except Error (List Row))) (pull : Nat) : Except Error (List Row) :=
  (batches[pull]?).getD (batches.getLastD (.ok []))

/-- Opens a document file. -/
def openDocument (id : Nat) (files : Files) (path : String) : Except Error Source := do
  let table ← readDocument files path
  return ⟨id, table.schema, .documentFile path table.name⟩

/-- Opens a columnar file. -/
def openColumns (id : Nat) (files : Files) (path : String) : Except Error Source := do
  let file ← readColumns files path
  return ⟨id, file.schema, .columnFile path⟩

/-! ## Requests -/

/-- Pulls the rows of a source. -/
def rows (source : Source) : Action (List Row) := do
  let session ← get
  set { session with pulls := source.id :: session.pulls }
  Action.ofExcept
    (source.supply.read source.schema session.files (session.pulls.count source.id))

/-- A column that a source does not have. -/
def noColumn (name : String) : Error := .unknownColumn (name ++ " is not a column of this table")

/-- The distinct values of a column, sorted. -/
def allValuesBy {ε : Type} (sorting : Sorting ε) (source : Source) (name : String) :
    Steps ε (List Cell) :=
  match source.schema.find? name with
  | none => throw (sorting.ofError (noColumn name))
  | some (position, _) => do
    let rows ← sorting.lift source.rows
    Sorting.give (Summary.distinctValuesBy sorting rows position)

/-- The distinct values of a column, ascending. -/
def allValues (source : Source) (name : String) : Action (List Cell) :=
  source.allValuesBy .stable name

theorem allValues_eq (source : Source) (name : String) :
    source.allValues name =
      match source.schema.find? name with
      | none => throw (noColumn name)
      | some (position, _) =>
        source.rows >>= fun rows => Action.ofExcept (Summary.distinctValues rows position) := by
  unfold allValues allValuesBy
  simp only [Sorting.lift_stable, Sorting.give_eq_ofExcept]
  rfl

/-- In a column of numbers, values that do not compare are bad data. -/
def asBadData (name : String) : Error → Error
  | .incomparable .. => .badData name
  | e => e

/-- The range and step of a column of numbers, from its distinct values as they are sorted. -/
def numericSpecBy {ε : Type} (sorting : Sorting ε) (source : Source) (name : String) :
    Steps ε NumericSpec :=
  match source.schema.typeOf? name with
  | none => throw (sorting.ofError (noColumn name))
  | some .number => do
    let values ← (source.allValuesBy sorting name).adapt (sorting.onError (asBadData name))
    sorting.lift (Action.ofExcept (Summary.numericSpec name values))
  | some other => throw (sorting.ofError (.typeMismatch (.columnNotNumber name other)))

/-- The range and step of a column of numbers. -/
def numericSpec (source : Source) (name : String) : Action NumericSpec :=
  source.numericSpecBy .stable name

theorem numericSpec_eq (source : Source) (name : String) :
    source.numericSpec name =
      match source.schema.typeOf? name with
      | none => throw (noColumn name)
      | some .number => do
        let values ← (source.allValues name).adapt (asBadData name)
        Action.ofExcept (Summary.numericSpec name values)
      | some other => throw (.typeMismatch (.columnNotNumber name other)) := by
  unfold numericSpec numericSpecBy
  simp only [Sorting.lift_stable]
  rfl

/-- Pulls the rows and keeps those that pass a filter. -/
def retained (source : Source) (filter : Filter) : Action (List Row) := do
  let rows ← source.rows
  let kept ← Action.ofExcept (filter.retain rows)
  Action.report (.filterApplied rows.length kept.length)
  return kept

/-- The rows that a specification selects. Rows are only pulled if all its columns are there. -/
def filteredRows (source : Source) (spec : Spec) : Action (List Row) := do
  let filter ← Action.ofExcept (Filter.compile source.schema.names spec)
  source.retained filter

/-! ## Description -/

/-- The name of a column type in the description of a source. -/
def typeLabel : ColumnType → String
  | .string => "String"
  | .number => "Number"
  | .boolean => "Boolean"
  | .date => "Date"
  | .datetime => "Datetime"
  | .timeOfDay => "TimeOfDay"

/-- The description of a column. -/
def describeColumn (c : Column) : String :=
  "Column \x7b name: " ++ Text.quoted c.name ++ ", column_type: " ++ typeLabel c.type ++ " \x7d"

/-- The text that describes a live source: its schema, but not its supply. -/
def describe (source : Source) : String :=
  "TableServer \x7b schema: [" ++ ", ".intercalate (source.schema.map describeColumn) ++
    "], .. \x7d"

end Source

end Winnow
