import Winnow.Error

/-!
# `Winnow.Summary` — distinct values and numeric ranges

The values of a column are summarised for selection: its distinct values in order, and for a column
of numbers the range and the smallest step between neighbours.

## Contents
- **`sortOrder`**: the order in which the values of one domain are sorted; **`Ordered`**: where it
  is an order.
- **`Sorter`**: what may be expected of a sort; **`Sorting`**: a sort in requests that can fail.
- **`sortedDistinct`**, **`distinctValues`**, **`mergeValues`**, each with any sort and with the
  stable one.
- **`NumericSpec`** with **`merge`**, and **`numericSpec`**.
-/

namespace Winnow.Summary

/-! ## Sorting -/

/-- The order for sorting cells of one domain. Numbers other than two integers are sorted as words,
    negative zero before zero and NaNs at the ends; nulls are all equal. -/
def sortOrder : Cell → Cell → Ordering
  | .string a, .string b => compare a b
  | .boolean a, .boolean b => compare a b
  | .integer a, .integer b => compare a.toInt b.toInt
  | a, b =>
    match a.toDouble?, b.toDouble? with
    | some x, some y => x.totalCompare y
    | _, _ => .eq

/-- Cells on which `sortOrder` is an order: it turns around with its cells, and it passes on from
    cell to cell. A float beside two integers of which it is the nearest double breaks it. -/
def Ordered (cells : List Cell) : Prop :=
  Std.TransCmp fun a b : { cell // cell ∈ cells } => sortOrder a b

end Winnow.Summary

namespace Winnow

open Summary

/-- **A sort, by its contract.** It puts ordered cells into ascending order, in which level cells
    stay as they were. Cells that are not ordered it may leave in any arrangement, or it may not
    return at all and stop the program. -/
structure Sorter where
  sort : List Cell → Option (List Cell)
  sort_ordered (cells : List Cell) (ordered : Ordered cells) :
    sort cells = some (cells.mergeSort fun a b => sortOrder a b != .gt)
  sort_perm (cells sorted : List Cell) (returns : sort cells = some sorted) : sorted.Perm cells

/-- The sort that always returns, and merges whatever the cells are. -/
def Sorter.stable : Sorter where
  sort cells := some (cells.mergeSort fun a b => sortOrder a b != .gt)
  sort_ordered _ _ := rfl
  sort_perm cells _ returns := Option.some.inj returns ▸ List.mergeSort_perm cells _

/-- Sorting in requests that fail with an `ε`: what an error of the library is there, which failures
    are such errors, and what a sort leaves or how it fails. -/
structure Sorting (ε : Type) where
  ofError : Error → ε
  error? : ε → Option Error
  sort : List Cell → Except ε (List Cell)

/-- Sorting in requests that only fail with errors of the library. -/
def Sorting.stable : Sorting Error where
  ofError e := e
  error? e := some e
  sort cells := .ok (cells.mergeSort fun a b => sortOrder a b != .gt)

end Winnow

namespace Winnow.Summary

/-! ## Distinct values -/

/-- Whether two cells count once: they compare equal or are both null. -/
def isDuplicate (a b : Cell) : Bool := a.sameAs b || (a == .null && b == .null)

/-- Drops each cell that repeats the one kept before it. -/
def dropRepeats : List Cell → List Cell
  | [] => []
  | first :: rest => go first [] rest
where
  go (held : Cell) (kept : List Cell) : List Cell → List Cell
    | [] => (held :: kept).reverse
    | next :: rest =>
      if isDuplicate next held then go held kept rest else go next (held :: kept) rest

/-- The cells must share the domain of the first one; the first that does not is reported. -/
def requireOneDomain : List Cell → Except Error Unit
  | [] => .ok ()
  | first :: rest =>
    match rest.find? fun cell => cell.domain != first.domain with
    | none => .ok ()
    | some odd => .error (.incomparable first odd)

/-- Sorts and drops duplicates; of equal cells the first one stays. -/
def sortedDistinctBy {ε : Type} (sorting : Sorting ε) (values : List Cell) :
    Except ε (List Cell) := do
  (requireOneDomain values).mapError sorting.ofError
  return dropRepeats (← sorting.sort values)

/-- Sorts ascending by the stable sort and drops duplicates. -/
def sortedDistinct (values : List Cell) : Except Error (List Cell) :=
  sortedDistinctBy .stable values

theorem sortedDistinct_eq (values : List Cell) :
    sortedDistinct values = (do
      requireOneDomain values
      return dropRepeats (values.mergeSort fun a b => sortOrder a b != .gt)) := by
  unfold sortedDistinct sortedDistinctBy
  cases requireOneDomain values <;> rfl

/-- The cells of one column from row to row, `position` being that of the first row. -/
def project (column : Nat) (position : Nat) (found : List Cell) :
    List Row → Except Error (List Cell)
  | [] => .ok found.reverse
  | row :: rest =>
    match row[column]? with
    | some cell => project column (position + 1) (cell :: found) rest
    | none => .error (.rowShape position row.length column)

/-- The distinct values of one column, sorted. -/
def distinctValuesBy {ε : Type} (sorting : Sorting ε) (rows : List Row) (column : Nat) :
    Except ε (List Cell) := do
  sortedDistinctBy sorting (← (project column 0 [] rows).mapError sorting.ofError)

/-- The distinct values of one column, ascending. -/
def distinctValues (rows : List Row) (column : Nat) : Except Error (List Cell) :=
  distinctValuesBy .stable rows column

theorem distinctValues_eq (rows : List Row) (column : Nat) :
    distinctValues rows column = (do sortedDistinct (← project column 0 [] rows)) := by
  unfold distinctValues distinctValuesBy
  cases project column 0 [] rows <;> rfl

/-- The union of several lists of distinct values, sorted. -/
def mergeValuesBy {ε : Type} (sorting : Sorting ε) (lists : List (List Cell)) :
    Except ε (List Cell) :=
  sortedDistinctBy sorting lists.flatten

/-- The union of several lists of distinct values, ascending. -/
def mergeValues (lists : List (List Cell)) : Except Error (List Cell) :=
  mergeValuesBy .stable lists

theorem mergeValues_eq (lists : List (List Cell)) :
    mergeValues lists = sortedDistinct lists.flatten := rfl

end Winnow.Summary

/-! ## Numeric ranges -/

namespace Winnow

/-- The range of a column of numbers and the step between its values. -/
structure NumericSpec where
  min : Cell
  max : Cell
  increment : Cell
  deriving DecidableEq, Repr

namespace NumericSpec

/-- The spec that covers two: the lower minimum, the higher maximum and the smaller increment. What
    does not compare strictly stays as it is. -/
def merge (a b : NumericSpec) : NumericSpec where
  min := if b.min.less a.min then b.min else a.min
  max := if a.max.less b.max then b.max else a.max
  increment := if b.increment.less a.increment then b.increment else a.increment

/-- The JSON form of a spec. -/
def toJson (s : NumericSpec) : Json :=
  .object [("min_val", s.min.toJson), ("max_val", s.max.toJson), ("increment", s.increment.toJson)]

end NumericSpec

end Winnow

namespace Winnow.Summary

/-- A value that has no place in a numeric range: not a number, or NaN. -/
def isBadNumber (cell : Cell) : Bool := !cell.isNumber || cell.isNaN

/-- The smaller of the increment so far and a difference; only differences above zero count. -/
def narrow (increment : Option Cell) (difference : Cell) : Option Cell :=
  if (Cell.integer 0).less difference then
    match increment with
    | none => some difference
    | some held => if difference.less held then some difference else some held
  else increment

/-- The smallest step between neighbours; a difference beyond 64 bits is bad data. -/
def smallestStep (column : String) (increment : Option Cell) (before : Cell) :
    List Cell → Except Error (Option Cell)
  | [] => .ok increment
  | next :: rest =>
    match next.difference? before with
    | none => .error (.badData column)
    | some difference => smallestStep column (narrow increment difference) next rest

/-- The numeric spec of a column from its sorted distinct values. -/
def numericSpec (column : String) (values : List Cell) : Except Error NumericSpec :=
  if values.any isBadNumber then .error (.badData column)
  else match values with
    | [] => .error (.tooFewValues column)
    | first :: rest => do
      match ← smallestStep column none first rest with
      | none => throw (.tooFewValues column)
      | some increment => return ⟨first, rest.getLastD first, increment⟩

end Winnow.Summary
