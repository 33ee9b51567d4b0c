import Winnow.Json.Writer
import Winnow.Text.Quoted

/-!
# `Winnow.Cell` — the cells of a table

A cell is a scalar of one of four domains. Integers and doubles share the domain of numbers: two
integers are compared exactly, any other pair of numbers as doubles. Dates and times are strings.

## Contents
- **`Cell`**, its domains and type names.
- **`compare?`**, **`sameAs`**: order and equality within a domain.
- **`difference?`**: the difference of two numbers.
- **`ofJson?`**, **`toJson`**: cells as JSON scalars.
- **`text`**: the form in messages.
-/

namespace Winnow

/-- A single cell of a table. -/
inductive Cell where
  | null
  | boolean (value : Bool)
  | integer (value : Int64)
  | float (value : Double)
  | string (value : String)
  deriving DecidableEq, Repr

/-- A row is a list of cells, one for each column. -/
abbrev Row := List Cell

/-- Cells of different domains never compare. -/
inductive Domain where
  | null
  | boolean
  | number
  | string
  deriving DecidableEq, Repr

/-- The 64-bit integer with a value, if there is one. -/
def int64? (i : Int) : Option Int64 :=
  if -0x8000000000000000 ≤ i ∧ i < 0x8000000000000000 then some (Int64.ofInt i) else none

namespace Cell

/-- The domain of a cell. -/
def domain : Cell → Domain
  | null => .null
  | boolean _ => .boolean
  | integer _ | float _ => .number
  | string _ => .string

/-- The name of a cell's type in messages. -/
def typeName : Cell → String
  | null => "null"
  | boolean _ => "boolean"
  | integer _ => "integer"
  | float _ => "float"
  | string _ => "string"

/-- Whether a cell is a number. -/
def isNumber (c : Cell) : Bool := c.domain = .number

/-- The value of a number as a double, an integer rounded to the nearest. -/
def toDouble? : Cell → Option Double
  | integer i => some (Double.ofInt i.toInt)
  | float x => some x
  | _ => none

/-- A NaN is a number that compares with nothing. -/
def isNaN : Cell → Bool
  | float x => x.isNaN
  | _ => false

/-- The order within a domain; undefined across domains, for nulls and for NaN. -/
def compare? : Cell → Cell → Option Ordering
  | integer a, integer b => some (compare a.toInt b.toInt)
  | boolean a, boolean b => some (compare a b)
  | string a, string b => some (compare a b)
  | a, b => do (← a.toDouble?).compare? (← b.toDouble?)

/-- Equality within a domain, without any coercion between domains. -/
def sameAs (a b : Cell) : Bool := a.compare? b = some .eq

/-- Whether a cell is strictly below another one. -/
def less (a b : Cell) : Bool := a.compare? b = some .lt

/-- The difference of two numbers: exact for integers and undefined beyond 64 bits, else the
    difference of the doubles. -/
def difference? : Cell → Cell → Option Cell
  | integer a, integer b => (int64? (a.toInt - b.toInt)).map integer
  | a, b => do return float ((← a.toDouble?).sub (← b.toDouble?))

/-! ## Cells as JSON scalars -/

/-- The cell of a JSON number: an integer if it fits, else the nearest double. -/
def ofNumber : Json.Number → Cell
  | .whole i _ =>
    match int64? i with
    | some i => integer i
    | none => float (Double.ofInt i)
  | .real x _ => float x

/-- The cell of a JSON scalar; arrays and objects have none. -/
def ofJson? : Json → Option Cell
  | .null => some null
  | .bool b => some (boolean b)
  | .number n => some (ofNumber n)
  | .string s => some (string s)
  | .array _ | .object _ => none

/-- An integer of 64 bits as a JSON number. -/
def wholeNumber (i : Int64) : Json :=
  .number (.whole i.toInt
    ⟨by have h := Int64.le_toInt i; omega, by have h := Int64.toInt_lt i; omega⟩)

/-- The JSON form of a cell; a float that is not finite becomes `null`. -/
def toJson : Cell → Json
  | null => .null
  | boolean b => .bool b
  | integer i => wholeNumber i
  | float x => Json.ofDouble x
  | string s => .string s

/-! ## Text -/

/-- The form of a cell in messages. -/
def text : Cell → String
  | null => "null"
  | boolean b => if b then "true" else "false"
  | integer i => toString i.toInt
  | float x => x.plainText
  | string s => Text.quoted s

/-- A cell with its type, as messages name it. -/
def described (c : Cell) : String := c.typeName ++ " " ++ c.text

end Cell

end Winnow
