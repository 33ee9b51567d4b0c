import Winnow.Floating.Written

/-!
# `Winnow.Json.Basic` — JSON trees

The decoded form of a JSON text. Whole numbers are kept exactly within the range of signed and
unsigned 64-bit words; all other numbers are finite doubles.

## Contents
- **`Json`** and its numbers.
- **`Json.Kind`**: the name of a tree's type in messages.
- **`Json.putField`**: fields in the order of their keys, the last of equal keys winning.
-/

namespace Winnow

/-- A JSON number: a whole number of a 64-bit word, or a finite double. -/
inductive Json.Number where
  | whole (value : Int) (inRange : -0x8000000000000000 ≤ value ∧ value < 0x10000000000000000)
  | real (value : Double) (finite : value.isFinite = true)
  deriving DecidableEq, Repr

/-- A JSON tree. The fields of an object keep their order. -/
inductive Json where
  | null
  | bool (value : Bool)
  | number (value : Json.Number)
  | string (value : String)
  | array (items : List Json)
  | object (fields : List (String × Json))
  deriving Repr, Inhabited

namespace Json

/-- The types that messages tell apart. -/
inductive Kind where
  | null
  | boolean
  | float
  | int
  | string
  | list
  | object
  deriving DecidableEq, Repr

/-- The name of a type in messages. -/
def Kind.name : Kind → String
  | .null => "null"
  | .boolean => "boolean"
  | .float => "float"
  | .int => "int"
  | .string => "string"
  | .list => "list"
  | .object => "object"

/-- The type of a tree. A whole number beyond the signed range is still an int. -/
def kind : Json → Kind
  | null => .null
  | bool _ => .boolean
  | number (.whole ..) => .int
  | number (.real ..) => .float
  | string _ => .string
  | array _ => .list
  | object _ => .object

/-- The value of the first field with a key. -/
def lookup? (key : String) : List (String × Json) → Option Json
  | [] => none
  | (name, value) :: rest => if name = key then some value else lookup? key rest

/-- Puts a field in its place by code points; a field of the same key is replaced. -/
def putField (key : String) (value : Json) : List (String × Json) → List (String × Json)
  | [] => [(key, value)]
  | (name, held) :: rest =>
    if key < name then (key, value) :: (name, held) :: rest
    else if name = key then (key, value) :: rest
    else (name, held) :: putField key value rest

/-- A whole number if it fits a 64-bit word, else the nearest double, if that is finite. -/
def ofInt? (i : Int) : Option Json :=
  if inRange : -0x8000000000000000 ≤ i ∧ i < 0x10000000000000000 then
    some (number (.whole i inRange))
  else if finite : (Double.ofInt i).isFinite = true then
    some (number (.real (Double.ofInt i) finite))
  else none

/-- A double as a number; one that is not finite has no written form and becomes `null`. -/
def ofDouble (x : Double) : Json :=
  if finite : x.isFinite = true then number (.real x finite) else null

end Json

end Winnow
