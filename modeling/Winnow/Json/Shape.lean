import Winnow.Json.Reader
import Winnow.Text.Quoted

/-!
# `Winnow.Json.Shape` — trees that do not fit a type

When a decoded tree is read as a typed value, the first place that does not fit is reported by what
was found and what was expected there.

## Contents
- **`Expected`**: what a place may hold.
- **`ShapeError`** and its message.
- **`DecodeError`**: a fault of the text or of the shape.
-/

namespace Winnow.Json

/-- What a typed reader expects at a place. -/
inductive Expected where
  | sequence
  | string
  | unit
  | record (name : String)
  | nameOrMap
  | singleKey
  | elements (structureName : String) (count : Nat)
  | fewerElements
  deriving DecidableEq, Repr

/-- The wording of an expectation. -/
def Expected.text : Expected → String
  | .sequence => "a sequence"
  | .string => "a string"
  | .unit => "unit"
  | .record name => "struct " ++ name
  | .nameOrMap => "string or map"
  | .singleKey => "map with a single key"
  | .elements name count => "struct " ++ name ++ " with " ++ toString count ++ " elements"
  | .fewerElements => "fewer elements in array"

/-- The wording of what was found at a place. -/
def found : Json → String
  | .null => "null"
  | .bool b => "boolean \x60" ++ (if b then "true" else "false") ++ "\x60"
  | .number (.whole i _) => "integer \x60" ++ toString i ++ "\x60"
  | .number (.real x _) => "floating point \x60" ++ x.documentText ++ "\x60"
  | .string s => "string " ++ Text.quoted s
  | .array _ => "sequence"
  | .object _ => "map"

/-- Why a tree does not fit a type. -/
inductive ShapeError where
  /-- A cell is neither null nor a scalar. -/
  | noCell
  | invalidType (found : Json) (expected : Expected)
  | invalidValue (found : Json) (expected : Expected)
  | invalidLength (length : Nat) (expected : Expected)
  | missingField (name : String)
  | unknownVariant (name : String) (known : List String)
  deriving Repr

/-- A name between backquotes. -/
def backquoted (s : String) : String := "\x60" ++ s ++ "\x60"

/-- The message of a shape error. -/
def ShapeError.message : ShapeError → String
  | .noCell => "data did not match any variant of untagged enum Value"
  | .invalidType tree expected => "invalid type: " ++ found tree ++ ", expected " ++ expected.text
  | .invalidValue tree expected => "invalid value: " ++ found tree ++ ", expected " ++ expected.text
  | .invalidLength length expected =>
    "invalid length " ++ toString length ++ ", expected " ++ expected.text
  | .missingField name => "missing field " ++ backquoted name
  | .unknownVariant name known =>
    "unknown variant " ++ backquoted name ++ ", expected one of " ++
      ", ".intercalate (known.map backquoted)

/-- Why a text has no typed value. -/
inductive DecodeError where
  | malformed (error : SyntaxError)
  | shape (error : ShapeError)
  deriving Repr

/-- The message of a decoding error. -/
def DecodeError.message : DecodeError → String
  | .malformed e => e.message
  | .shape e => e.message

end Winnow.Json
