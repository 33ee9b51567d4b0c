import Winnow.Toml.Table

/-!
# `Winnow.Toml.Reader` — configuration texts

A configuration text is read line by line. Each line is blank, a comment, a header, or a key with
its value.

## Contents
- **`readKey?`**: dotted keys.
- **`readValue?`**: values, at most `depthLimit` brackets deep.
- **`readLines`**: the lines of a text.
- **`parse?`**: the table of a whole text.
-/

namespace Winnow.Toml

/-- How deeply brackets may be nested, and how many parts a key may have. -/
def depthLimit : Nat := 79

/-- A character of a bare key. -/
def isBareChar (c : Char) : Bool := c.isAlphanum || c = '-' || c = '_'

/-- Reads one part of a key: bare, or a string of one line. -/
def readPart? (cs : List Char) : Reading String :=
  match cs with
  | '"' :: rest => readLine? true (rest.length + 1) [] rest
  | '\'' :: rest => readLine? false (rest.length + 1) [] rest
  | _ =>
    match cs.takeWhile isBareChar with
    | [] => none
    | bare => some (String.ofList bare, cs.drop bare.length)

/-- Reads the parts of a dotted key, with blanks around the dots. -/
def readParts? : Nat → List String → List Char → Reading (List String)
  | 0, _, _ => none
  | fuel + 1, read, cs =>
    match readPart? (skipBlanks cs) with
    | none => none
    | some (part, rest) =>
      match skipBlanks rest with
      | '.' :: rest => readParts? fuel (part :: read) rest
      | rest => some ((part :: read).reverse, rest)

/-- Reads a dotted key: the path before its last part, the last part, and what is behind. -/
def readKey? (cs : List Char) : Reading (List String × String) :=
  match readParts? depthLimit [] cs with
  | none => none
  | some (parts, rest) => parts.getLast?.map fun last => ((parts.dropLast, last), rest)

/-- The table of the keys of an inline table; they follow the rules of keys below a header. -/
def inlineTable? (pairs : List ((List String × String) × Value)) : Option Value :=
  (pairs.foldl (fun (table : Option Table) pair =>
    match table with
    | some t => t.addKey? pair.1.1 pair.1.2 pair.2
    | none => none) (some (.blank .header))).map Table.finish

/-- Skips blanks, line breaks and comments. -/
def skipSpace? : Nat → List Char → Option (List Char)
  | 0, _ => none
  | fuel + 1, cs =>
    match skipBlanks cs with
    | '#' :: rest =>
      match rest.dropWhile isTextChar with
      | [] => some []
      | rest =>
        match newline? rest with
        | some rest => skipSpace? fuel rest
        | none => none
    | rest =>
      match newline? rest with
      | some rest => skipSpace? fuel rest
      | none => some rest

mutual

/-- Reads a value. The fuel bounds the number of steps and `depth` the brackets still to be
    opened. -/
def readValue? : Nat → Nat → List Char → Reading Value
  | 0, _, _ => none
  | _ + 1, _, [] => none
  | fuel + 1, depth, c :: rest =>
    if c = '"' || c = '\'' then
      (readString? (c :: rest)).map fun (text, rest) => (.string text, rest)
    else if c = '[' then
      match depth with
      | 0 => none
      | depth + 1 => readItems? fuel depth [] rest
    else if c = '\x7b' then
      match depth with
      | 0 => none
      | depth + 1 =>
        match skipBlanks rest with
        | '\x7d' :: rest => some (.table [], rest)
        | rest => readPairs? fuel depth [] rest
    else (readPlain? (c :: rest)).map fun (value, rest) => (.scalar value, rest)

/-- Reads the items of an array behind the items read before; a comma may follow the last one. -/
def readItems? : Nat → Nat → List Value → List Char → Reading Value
  | 0, _, _, _ => none
  | fuel + 1, depth, read, cs =>
    match skipSpace? (cs.length + 1) cs with
    | none => none
    | some (']' :: rest) => some (.array read.reverse, rest)
    | some rest =>
      match readValue? fuel depth rest with
      | none => none
      | some (item, rest) =>
        match skipSpace? (rest.length + 1) rest with
        | some (',' :: rest) => readItems? fuel depth (item :: read) rest
        | some (']' :: rest) => some (.array (item :: read).reverse, rest)
        | _ => none

/-- Reads the keys of an inline table, of which none may be missing between commas. -/
def readPairs? : Nat → Nat → List ((List String × String) × Value) → List Char → Reading Value
  | 0, _, _, _ => none
  | fuel + 1, depth, read, cs =>
    match readKey? cs with
    | none => none
    | some (key, rest) =>
      match rest with
      | '=' :: rest =>
        match readValue? fuel depth (skipBlanks rest) with
        | none => none
        | some (value, rest) =>
          match skipBlanks rest with
          | ',' :: rest => readPairs? fuel depth ((key, value) :: read) rest
          | '\x7d' :: rest =>
            (inlineTable? ((key, value) :: read).reverse).map fun table => (table, rest)
          | _ => none
      | _ => none

end

/-! ## Lines -/

/-- Reads a header behind its brackets, up to the end of its line. -/
def readHeader? (b : Building) (cs : List Char) : Option (Building × List Char) :=
  match cs with
  | '[' :: rest =>
    match readKey? rest with
    | some ((path, key), ']' :: ']' :: rest) => do
      let b ← b.openNext? (path ++ [key])
      return (b, ← lineEnd? rest)
    | _ => none
  | _ =>
    match readKey? cs with
    | some ((path, key), ']' :: rest) => do
      let b ← b.openTable? (path ++ [key])
      return (b, ← lineEnd? rest)
    | _ => none

/-- Reads a key with its value, up to the end of its line. -/
def readPair? (b : Building) (cs : List Char) : Option (Building × List Char) :=
  match readKey? cs with
  | some ((path, key), '=' :: rest) =>
    match readValue? (2 * rest.length + 2) depthLimit (skipBlanks rest) with
    | some (value, rest) => do
      let b ← b.addKey? path key value
      return (b, ← lineEnd? rest)
    | none => none
  | _ => none

/-- Reads the lines of a text. The fuel bounds their number. -/
def readLines : Nat → Building → List Char → Option Building
  | 0, _, _ => none
  | fuel + 1, b, cs =>
    match skipBlanks cs with
    | [] => some b
    | '[' :: rest =>
      match readHeader? b rest with
      | some (b, rest) => readLines fuel b rest
      | none => none
    | c :: rest =>
      if c = '#' || c = '\n' || c = '\r' then
        match lineEnd? (c :: rest) with
        | some rest => readLines fuel b rest
        | none => none
      else
        match readPair? b (c :: rest) with
        | some (b, rest) => readLines fuel b rest
        | none => none

/-- The table of a configuration text. A byte order mark at its start does not count. -/
def parse? (text : String) : Option Value := do
  let cs := match text.toList with
    | '\ufeff' :: rest => rest
    | cs => cs
  let b ← readLines (cs.length + 1) .start cs
  let root ← b.close?
  return root.finish

end Winnow.Toml
