/-!
# `Winnow.Files.Path` — path texts

A path is a text of names between slashes. Empty names and single dots name the place itself and do
not count as components.

## Contents
- **`segments`**, **`join`**, **`components`**.
- **`isHere`**, **`fits`**: paths of the working directory, and paths that can be looked up.
- **`fileName?`**, **`stem?`**, **`extension?`**: the last component and its parts.
-/

namespace Winnow.Path

/-- Splits characters at slashes. -/
def splitSlashes : List Char → List (List Char)
  | [] => [[]]
  | c :: rest =>
    match splitSlashes rest with
    | [] => [[c]]
    | first :: others => if c = '/' then [] :: first :: others else (c :: first) :: others

/-- The texts between the slashes of a path, empty ones included. -/
def segments (path : String) : List String := (splitSlashes path.toList).map String.ofList

/-- Whether a path starts at the root. -/
def isAbsolute (path : String) : Bool := path.toList.head? = some '/'

/-- The path of a name below another path; a name that starts at the root stands for itself. -/
def join (path name : String) : String :=
  if isAbsolute name || path.isEmpty then name
  else if path.toList.getLast? = some '/' then path ++ name
  else path ++ "/" ++ name

/-- The components of a path: its segments without empty ones and single dots. -/
def components (path : String) : List String :=
  (segments path).filter fun name => name != "" && name != "."

/-- Whether a path names the directory from which relative paths start, by single dots alone. -/
def isHere (path : String) : Bool := path.toList.head? = some '.' && (components path).isEmpty

/-- The longest path that can be looked up, in bytes. -/
def maxBytes : Nat := 4095

/-- Whether a path is short enough to be looked up. -/
def fits (path : String) : Bool := path.utf8ByteSize ≤ maxBytes

/-- The last component, if it names a file. -/
def fileName? (path : String) : Option String :=
  match (components path).getLast? with
  | some ".." => none
  | last => last

/-- Splits a name at its last dot, unless that is its first character. -/
def splitName (name : String) : String × Option String :=
  let reversed := name.toList.reverse
  let suffix := reversed.takeWhile (· != '.')
  match reversed.drop suffix.length with
  | _ :: before@(_ :: _) => (String.ofList before.reverse, some (String.ofList suffix.reverse))
  | _ => (name, none)

/-- The file name without its extension. -/
def stem? (path : String) : Option String := (fileName? path).map fun name => (splitName name).1

/-- The part of the file name behind its last dot. -/
def extension? (path : String) : Option String :=
  (fileName? path).bind fun name => (splitName name).2

end Winnow.Path
