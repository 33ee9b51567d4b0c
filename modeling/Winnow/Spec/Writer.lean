import Winnow.Spec.Basic

/-!
# `Winnow.Spec.Writer` — specifications as JSON trees

The written form of a specification has the required fields of its operators and no others, in the
order of their keys.

## Contents
- **`ColumnRef.toJson`**, **`Spec.toJson`**: the written form.
- **`Spec.Writable`**: the specifications whose values and references have one.
-/

namespace Winnow

/-- The written form of a reference. A number beyond the words of 64 bits has no exact one. -/
def ColumnRef.toJson : ColumnRef → Json
  | name value => .string value
  | integer i => (Json.ofInt? i).getD .null

/-- Whether a cell is a number with a written form. -/
def Cell.isFinite : Cell → Bool
  | integer _ => true
  | float x => x.isFinite
  | _ => false

/-- Whether a cell may be listed: a string, or a number with a written form. -/
def Cell.isListed : Cell → Bool
  | string _ => true
  | cell => cell.isFinite

/-- Whether a reference has an exact written form: a name, or a whole number of a signed or unsigned
    word of 64 bits. -/
def ColumnRef.isWritable : ColumnRef → Bool
  | name _ => true
  | integer i => decide (-0x8000000000000000 ≤ i) && decide (i < 0x10000000000000000)

namespace Spec

/-- Whether all values, bounds and references of a specification have a written form. -/
inductive Writable : Spec → Prop where
  | combine {combinator : Combinator} {arguments : List Spec}
      (each : ∀ argument ∈ arguments, Writable argument) : Writable (.combine combinator arguments)
  | inList {ref : ColumnRef} {values : List Cell} (column : ref.isWritable = true)
      (each : ∀ value ∈ values, value.isListed = true) : Writable (.inList ref values)
  | inRange {ref : ColumnRef} {min max : Cell} (column : ref.isWritable = true)
      (low : min.isFinite = true) (high : max.isFinite = true) : Writable (.inRange ref min max)

mutual

/-- The written form of a specification. -/
def toJson : Spec → Json
  | combine combinator arguments =>
    .object [("arguments", .array (toJsonAll arguments)),
      ("operator", .string combinator.operator.token)]
  | inList ref values =>
    .object [("column", ref.toJson), ("operator", .string Operator.inList.token),
      ("values", .array (values.map Cell.toJson))]
  | inRange ref min max =>
    .object [("column", ref.toJson), ("max_val", max.toJson), ("min_val", min.toJson),
      ("operator", .string Operator.inRange.token)]

/-- The written forms of specifications. -/
def toJsonAll : List Spec → List Json
  | [] => []
  | spec :: rest => toJson spec :: toJsonAll rest

end

end Spec

end Winnow
