import Winnow.Cell

/-!
# `Winnow.Spec.Basic` — filter specifications

A specification is a tree. Its inner nodes combine the rows of their arguments, its leaves test one
column by name: membership in a list, or a closed range.

## Contents
- **`Operator`** and its token; **`Combinator`**, the operators with arguments.
- **`ColumnRef`**: how a leaf refers to its column.
- **`Spec`**: the tree.
-/

namespace Winnow

/-- The operators of a specification. -/
inductive Operator where
  | all
  | any
  | none
  | inList
  | inRange
  deriving DecidableEq, Repr

/-- The operators that combine arguments. -/
inductive Combinator where
  /-- Rows matched by every argument; without arguments, every row. -/
  | all
  /-- Rows matched by some argument; without arguments, no row. -/
  | any
  /-- Rows matched by no argument; without arguments, every row. -/
  | none
  deriving DecidableEq, Repr

namespace Operator

/-- All operators, in the order in which messages list them. -/
def everyOne : List Operator := [all, any, none, inList, inRange]

/-- The token of an operator. -/
def token : Operator → String
  | all => "ALL"
  | any => "ANY"
  | none => "NONE"
  | inList => "IN_LIST"
  | inRange => "IN_RANGE"

/-- The operator with a token. -/
def ofToken? (s : String) : Option Operator := everyOne.find? (·.token = s)

/-- The position of an operator among all. -/
def position (op : Operator) : Nat := everyOne.idxOf op

/-- The fields that a node must carry; other fields are ignored. -/
def requiredFields : Operator → List String
  | all | any | none => ["operator", "arguments"]
  | inList => ["operator", "column", "values"]
  | inRange => ["operator", "column", "min_val", "max_val"]

end Operator

/-- The operator of a combinator. -/
def Combinator.operator : Combinator → Operator
  | all => .all
  | any => .any
  | none => .none

/-- How a leaf refers to a column: by name, or by a number that names none. -/
inductive ColumnRef where
  | name (value : String)
  | integer (value : Int)
  deriving DecidableEq, Repr

namespace ColumnRef

/-- Whether a reference means a column name. Column names are strings, so a number never does. -/
def names (ref : ColumnRef) (column : String) : Bool :=
  match ref with
  | name value => value = column
  | integer _ => false

/-- The form of a reference in messages. -/
def text : ColumnRef → String
  | name value => value
  | integer i => toString i

end ColumnRef

/-- A filter specification. -/
inductive Spec where
  | combine (combinator : Combinator) (arguments : List Spec)
  | inList (column : ColumnRef) (values : List Cell)
  | inRange (column : ColumnRef) (min max : Cell)
  deriving Repr

/-- The operator of a specification's root. -/
def Spec.operator : Spec → Operator
  | combine combinator _ => combinator.operator
  | inList .. => .inList
  | inRange .. => .inRange

end Winnow
