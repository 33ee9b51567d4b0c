import Winnow.Columnar.Display
import Winnow.Error

/-!
# `Winnow.Columnar.Rows` — rows of a columnar file

The rows of a file are read a batch at a time. Each column of a batch is converted to cells, and the
cells are regrouped by rows.

## Contents
- **`Data.cells`**: the cells of a column.
- **`regroup`**: rows from columns.
- **`ColumnFile.rows`**: all rows, batch by batch.
-/

namespace Winnow.Columnar

namespace Data

/-- The cell of an integer: exact if it fits 64 signed bits, else the nearest double. -/
def integerCell (i : Int) : Cell :=
  match int64? i with
  | some i => .integer i
  | none => .float (Double.ofInt i)

/-- The cell of a floating point number of a width. -/
def floatCell (width : FloatWidth) (x : Double) : Cell :=
  match width with
  | .single => .float (x.within .binary32)
  | _ => .float x

/-- The cells of entries by the cell of one; a missing entry is null. -/
def cellsBy {α : Type} (cell : α → Cell) (entries : List (Option α)) : List Cell :=
  entries.map fun entry => (entry.map cell).getD .null

/-- The cells of a column. Numbers, booleans and texts have cells of their own, all other elements
    are served as text, which fails if a time zone is not understood. -/
def cells : Data → Except Error (List Cell)
  | integers entries => .ok (cellsBy integerCell entries)
  | floats .single entries => .ok (cellsBy (floatCell .single) entries)
  | floats .double entries => .ok (cellsBy (floatCell .double) entries)
  | booleans entries => .ok (cellsBy .boolean entries)
  | texts entries => .ok (cellsBy .string entries)
  | other =>
    if other.zonesKnown then .ok (cellsBy (fun d => .string d.served) other.displays)
    else .error .noDisplay

end Data

/-- The first cells of columns, and what is left of them. -/
def firstCells : List (List Cell) → Row × List (List Cell)
  | [] => ([], [])
  | column :: rest =>
    let (row, left) := firstCells rest
    match column with
    | [] => (row, [] :: left)
    | cell :: cells => (cell :: row, cells :: left)

/-- A number of rows from columns, added to the rows before them, the last row first. -/
def regroup (rows : List Row) : Nat → List (List Cell) → List Row
  | 0, _ => rows
  | count + 1, columns =>
    let (row, left) := firstCells columns
    regroup (row :: rows) count left

namespace ColumnFile

/-- The number of rows that are read at a time. -/
def batchSize : Nat := 8192

/-- The cells of the columns of a batch. -/
def batchCells (first : Nat) : List (String × Data) → Except Error (List (List Cell))
  | [] => .ok []
  | (_, data) :: rest => do
    let cells ← (data.slice first batchSize).cells
    let others ← batchCells first rest
    return cells :: others

/-- Reads a number of batches, from the row `first` on, behind the rows read before. -/
def readBatches (file : ColumnFile) (rows : List Row) (first : Nat) :
    Nat → Except Error (List Row)
  | 0 => .ok rows.reverse
  | batches + 1 => do
    let columns ← batchCells first file.columns
    let count := min batchSize (file.rowCount - first)
    readBatches file (regroup rows count columns) (first + batchSize) batches

/-- All rows of a file. -/
def rows (file : ColumnFile) : Except Error (List Row) :=
  readBatches file [] 0 ((file.rowCount + batchSize - 1) / batchSize)

end ColumnFile

end Winnow.Columnar
