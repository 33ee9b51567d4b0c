import Winnow.Error

/-!
# `Winnow.Spec.Reader` — specifications from JSON trees

A tree is read node by node, depth first. Each node has a local check that does not look into its
arguments; the first node in reading order that fails its check is the error.

## Contents
- **`Head`**: what the local check of a node finds, a combinator or a whole leaf.
- **`checkNode`**: the local check.
- **`Spec.ofJson`**, **`Spec.validate`**: reading and checking a tree.
-/

namespace Winnow.Spec

/-- What the local check of a node finds. -/
inductive Head where
  | combinator (c : Combinator)
  | leaf (spec : Spec)
  deriving Repr

/-- The combinator of an operator; leaves have none. -/
def combinator? : Operator → Option Combinator
  | .all => some .all
  | .any => some .any
  | .none => some .none
  | .inList | .inRange => none

/-- The operator of a node. Only a known token in a string will do. -/
def readOperator (fields : List (String × Json)) : Except Error Operator :=
  match Json.lookup? "operator" fields with
  | none => .error (.missingOperator (.object fields))
  | some (.string token) =>
    match Operator.ofToken? token with
    | some op => .ok op
    | none => .error (.unknownOperator (.string token))
  | some other => .error (.unknownOperator other)

/-- All required fields of an operator must be there. -/
def requireFields (op : Operator) (fields : List (String × Json)) : Except Error Unit :=
  match op.requiredFields.filter fun name => (Json.lookup? name fields).isNone with
  | [] => .ok ()
  | missing => .error (.missingFields (Json.object fields).compact missing)

/-- The value of a field that is known to be there. -/
def field (name : String) (fields : List (String × Json)) : Json :=
  (Json.lookup? name fields).getD .null

/-- A column is referred to by a string or a whole number. -/
def readColumn (op : Operator) : Json → Except Error ColumnRef
  | .string name => .ok (.name name)
  | .number (.whole i _) => .ok (.integer i)
  | other => .error (.typeMismatch (.columnNotRef op other.kind))

/-- Listed values are strings and numbers. -/
def isListable : Json → Bool
  | .string _ | .number _ => true
  | _ => false

/-- The values of a list; all that are neither strings nor numbers are reported together. -/
def readValues : Json → Except Error (List Cell)
  | .array items =>
    match items.filter fun item => !isListable item with
    | [] => .ok (items.filterMap Cell.ofJson?)
    | invalid => .error (.invalidValues invalid)
  | other => .error (.typeMismatch (.valuesNotList other.kind))

/-- The bounds of a range are numbers. -/
def readBound (name : String) : Json → Except Error Cell
  | .number n => .ok (Cell.ofNumber n)
  | other => .error (.typeMismatch (.boundNotNumber name other.kind))

/-- The local check of an object: operator, required fields, and either a list of arguments or the
    column and the operands of a leaf, the upper bound of a range before the lower one. -/
def checkNode (fields : List (String × Json)) : Except Error Head := do
  let op ← readOperator fields
  requireFields op fields
  match combinator? op with
  | some c =>
    match field "arguments" fields with
    | .array _ => return .combinator c
    | other => throw (.typeMismatch (.argumentsNotList op other.kind))
  | none =>
    let column ← readColumn op (field "column" fields)
    match op with
    | .inList =>
      let values ← readValues (field "values" fields)
      return .leaf (.inList column values)
    | _ =>
      let max ← readBound "max_val" (field "max_val" fields)
      let min ← readBound "min_val" (field "min_val" fields)
      return .leaf (.inRange column min max)

mutual

/-- Reads a specification from a JSON tree. -/
def ofJson : Json → Except Error Spec
  | .object fields => do
    match ← checkNode fields with
    | .leaf spec => return spec
    | .combinator c =>
      let arguments ← ofArguments fields
      return .combine c arguments
  | other => throw (.typeMismatch (.specNotObject other.kind))

/-- Reads the arguments among the fields of a node. -/
def ofArguments : List (String × Json) → Except Error (List Spec)
  | [] => .ok []
  | (name, value) :: rest => if name = "arguments" then ofList value else ofArguments rest

/-- Reads the specifications of an array. -/
def ofList : Json → Except Error (List Spec)
  | .array items => ofItems items
  | _ => .ok []

/-- Reads specifications one after the other. -/
def ofItems : List Json → Except Error (List Spec)
  | [] => .ok []
  | item :: rest => do
    let spec ← ofJson item
    let specs ← ofItems rest
    return spec :: specs

end

/-- Checks a tree without keeping what it specifies. -/
def validate (tree : Json) : Except Error Unit := (ofJson tree).map fun _ => ()

end Winnow.Spec
