import Winnow.Json.Basic

/-!
# `Winnow.Json.Writer` — JSON texts of trees

## Contents
- **`Json.compact`**: no spaces at all.
- **`Json.pretty`**: one item or field a line, indented by two spaces a level.
-/

namespace Winnow.Json

/-- A hexadecimal digit pair below `0x20`, as the escape of a control character. -/
def controlEscape (c : Char) : List Char :=
  let digits := Nat.toDigits 16 c.toNat
  ['\\', 'u', '0', '0'] ++ List.replicate (2 - digits.length) '0' ++ digits

/-- The written form of a character in a JSON string. -/
def escape (c : Char) : List Char :=
  if c = '"' then ['\\', '"']
  else if c = '\\' then ['\\', '\\']
  else if c = '\x08' then ['\\', 'b']
  else if c = '\x0c' then ['\\', 'f']
  else if c = '\n' then ['\\', 'n']
  else if c = '\r' then ['\\', 'r']
  else if c = '\t' then ['\\', 't']
  else if c.toNat < 0x20 then controlEscape c
  else [c]

/-- A JSON string. -/
def stringText (s : String) : String := String.ofList ('"' :: s.toList.flatMap escape ++ ['"'])

/-- A JSON number. -/
def Number.text : Number → String
  | .whole i _ => toString i
  | .real x _ => x.documentText

mutual

/-- Writes a tree without spaces behind a text. -/
def writeCompact (out : String) : Json → String
  | null => out ++ "null"
  | bool b => out ++ (if b then "true" else "false")
  | number n => out ++ n.text
  | string s => out ++ stringText s
  | array items => writeItems (out ++ "[") "" items ++ "]"
  | object fields => writeFields (out ++ "\x7b") "" fields ++ "\x7d"

/-- Writes the items of an array, each behind a separator; commas separate all but the first. -/
def writeItems (out : String) (separator : String) : List Json → String
  | [] => out
  | item :: rest => writeItems (writeCompact (out ++ separator) item) "," rest

/-- Writes the fields of an object, each behind a separator. -/
def writeFields (out : String) (separator : String) : List (String × Json) → String
  | [] => out
  | (key, value) :: rest =>
    writeFields (writeCompact (out ++ separator ++ stringText key ++ ":") value) "," rest

end

/-- The compact text of a tree. -/
def compact (tree : Json) : String := writeCompact "" tree

/-- A line break and the indent of a level. -/
def lineBreak (level : Nat) : String := "\n" ++ String.ofList (List.replicate (2 * level) ' ')

mutual

/-- Writes the indented text of a tree that stands at a level; empty arrays and objects stay
    closed. -/
def writePretty (out : String) (level : Nat) : Json → String
  | null => out ++ "null"
  | bool b => out ++ (if b then "true" else "false")
  | number n => out ++ n.text
  | string s => out ++ stringText s
  | array [] => out ++ "[]"
  | array (item :: rest) =>
    writePrettyItems (out ++ "[") "" (level + 1) (item :: rest) ++ lineBreak level ++ "]"
  | object [] => out ++ "\x7b\x7d"
  | object (field :: rest) =>
    writePrettyFields (out ++ "\x7b") "" (level + 1) (field :: rest) ++ lineBreak level ++ "\x7d"

/-- Writes the items of an array, a line each. -/
def writePrettyItems (out : String) (separator : String) (level : Nat) : List Json → String
  | [] => out
  | item :: rest =>
    writePrettyItems (writePretty (out ++ separator ++ lineBreak level) level item) "," level rest

/-- Writes the fields of an object, a line each. -/
def writePrettyFields (out : String) (separator : String) (level : Nat) :
    List (String × Json) → String
  | [] => out
  | (key, value) :: rest =>
    let field := out ++ separator ++ lineBreak level ++ stringText key ++ ": "
    writePrettyFields (writePretty field level value) "," level rest

end

/-- The indented text of a tree. -/
def pretty (tree : Json) : String := writePretty "" 0 tree

end Winnow.Json
