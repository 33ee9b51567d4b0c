import Winnow.RowSet
import Winnow.Spec.Reader

/-!
# `Winnow.Filter` — compiled filters

A filter is a specification bound to a list of columns: every leaf knows the position of its column,
and evaluation never looks at names again. A filter is evaluated leaf by leaf over all rows; the
sets of its leaves are combined within the universe of all positions.

## Contents
- **`Filter`**, **`Filter.compile`**: binding names to positions, the first match winning;
  **`Filter.ofJson`**: the same for a JSON tree.
- **`Filter.index`**: the positions of the rows that pass.
- **`Filter.apply`**, **`Filter.retain`**: the rows that pass, by look-up and in one pass.
- **`Filter.Holds`**: the plain reading of a filter on a single row.
-/

namespace Winnow

/-- A filter with resolved columns. -/
inductive Filter where
  | combine (combinator : Combinator) (arguments : List Filter)
  | inList (column : Nat) (values : List Cell)
  | inRange (column : Nat) (min max : Cell)
  deriving Repr

namespace Filter

/-! ## Binding -/

/-- The position of the first column that a reference names. -/
def resolve (ref : ColumnRef) (columns : List String) : Except Error Nat :=
  match columns.findIdx? (ref.names ·) with
  | some position => .ok position
  | none => .error (.unknownColumn ref.text)

mutual

/-- Binds every leaf of a specification to its column; the first leaf without one is the error. -/
def compile (columns : List String) : Spec → Except Error Filter
  | .combine combinator arguments => do
    let arguments ← compileAll columns arguments
    return combine combinator arguments
  | .inList ref values => do
    let column ← resolve ref columns
    return inList column values
  | .inRange ref min max => do
    let column ← resolve ref columns
    return inRange column min max

/-- Binds specifications one after the other. -/
def compileAll (columns : List String) : List Spec → Except Error (List Filter)
  | [] => .ok []
  | spec :: rest => do
    let filter ← compile columns spec
    let filters ← compileAll columns rest
    return filter :: filters

end

/-- The filter of a JSON tree, which is read first and then bound. -/
def ofJson (columns : List String) (tree : Json) : Except Error Filter := do
  let spec ← Spec.ofJson tree
  compile columns spec

/-! ## Evaluation -/

/-- The cell of a row at a column; the row's position goes into the error. -/
def cellAt (row : Row) (position column : Nat) : Except Error Cell :=
  match row[column]? with
  | some cell => .ok cell
  | none => .error (.rowShape position row.length column)

/-- How a cell compares with a bound. -/
def orderOf (cell bound : Cell) : Except Error Ordering :=
  match cell.compare? bound with
  | some ordering => .ok ordering
  | none => .error (.incomparable cell bound)

/-- Whether a cell is in a list of values. -/
def listed (values : List Cell) (cell : Cell) : Bool := values.any cell.sameAs

/-- Whether a cell lies in a closed range; it is compared with the lower bound first. -/
def ranged (min max cell : Cell) : Except Error Bool := do
  let low ← orderOf cell min
  let high ← orderOf cell max
  return low != .lt && high != .gt

/-- Whether a row's cell in a column passes a test. Only a row that passes needs a position in the
    set. -/
def testRow (column : Nat) (test : Cell → Except Error Bool) (position : Nat) (row : Row) :
    Except Error Bool := do
  let cell ← cellAt row position column
  let passes ← test cell
  if passes then (RowSet.rowId position).map fun _ => true
  else return false

/-- Whether the rows pass a test on a column, one after the other from the position of the first row
    on. The flags found are kept in reverse. -/
def testFrom (column : Nat) (test : Cell → Except Error Bool) (position : Nat) (found : List Bool) :
    List Row → Except Error (List Bool)
  | [] => .ok found.reverse
  | row :: rest =>
    match testRow column test position row with
    | .error e => .error e
    | .ok passes => testFrom column test (position + 1) (passes :: found) rest

/-- The positions of the rows whose cell in a column passes a test. -/
def leafSet (column : Nat) (test : Cell → Except Error Bool) (rows : List Row) :
    Except Error RowSet :=
  (testFrom column test 0 [] rows).map RowSet.ofFlags

/-- The set of a combinator within the universe, from the sets of its arguments. -/
def fold (everyRow : RowSet) : Combinator → List RowSet → RowSet
  | .all, sets => sets.foldl RowSet.intersect everyRow
  | .any, sets => sets.foldl RowSet.union RowSet.empty
  | .none, sets => everyRow.difference (sets.foldl RowSet.union RowSet.empty)

mutual

/-- The positions within the universe of the rows that pass. Every leaf is evaluated on every row,
    so the first failure is that of the first leaf that fails. -/
def indexWithin (rows : List Row) (everyRow : RowSet) : Filter → Except Error RowSet
  | combine combinator arguments => do
    let sets ← indexAll rows everyRow arguments
    return fold everyRow combinator sets
  | inList column values => leafSet column (fun cell => .ok (listed values cell)) rows
  | inRange column min max => leafSet column (ranged min max) rows

/-- The sets of filters, one after the other. -/
def indexAll (rows : List Row) (everyRow : RowSet) : List Filter → Except Error (List RowSet)
  | [] => .ok []
  | filter :: rest => do
    let set ← indexWithin rows everyRow filter
    let sets ← indexAll rows everyRow rest
    return set :: sets

end

/-- The positions of the rows that pass. -/
def index (filter : Filter) (rows : List Row) : Except Error RowSet := do
  let everyRow ← RowSet.full? rows.length
  filter.indexWithin rows everyRow

/-- The rows that pass, looked up at their positions. -/
def apply (filter : Filter) (rows : List Row) : Except Error (List Row) := do
  let set ← filter.index rows
  let held := rows.toArray
  return set.positions.filterMap (held[·]?)

/-- The rows that pass, picked in one pass over all rows. -/
def retain (filter : Filter) (rows : List Row) : Except Error (List Row) := do
  let set ← filter.index rows
  return set.keep rows

/-! ## The plain reading -/

mutual

/-- Whether a single row satisfies a filter under the plain reading of its operators. -/
def Holds (row : Row) : Filter → Prop
  | combine .all arguments => AllHold row arguments
  | combine .any arguments => SomeHolds row arguments
  | combine .none arguments => ¬ SomeHolds row arguments
  | inList column values => ∃ cell, row[column]? = some cell ∧ ∃ v ∈ values, cell.sameAs v = true
  | inRange column min max =>
    ∃ cell, row[column]? = some cell ∧
      (∃ o, cell.compare? min = some o ∧ o ≠ .lt) ∧ (∃ o, cell.compare? max = some o ∧ o ≠ .gt)

/-- Whether a row satisfies every one of a list of filters. -/
def AllHold (row : Row) : List Filter → Prop
  | [] => True
  | filter :: rest => Holds row filter ∧ AllHold row rest

/-- Whether a row satisfies at least one of a list of filters. -/
def SomeHolds (row : Row) : List Filter → Prop
  | [] => False
  | filter :: rest => Holds row filter ∨ SomeHolds row rest

end

end Filter

end Winnow
