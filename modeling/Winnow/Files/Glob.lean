import Winnow.Files.Tree

/-!
# `Winnow.Files.Glob` — path patterns

A pattern is matched against a tree name by name. `?` is any character, `*` any text, `[...]` one of
a set of characters and `[!...]` any other; `**` as a whole name is any number of directories.

## Contents
- **`Token`**, **`compile`**: patterns and their faults.
- **`accepts`**: whether a pattern matches a name.
- **`glob`**: the paths that match a pattern, in order of names level by level.
-/

namespace Winnow.Glob

/-- One character or a range of characters. -/
inductive CharSet where
  | single (c : Char)
  | range (first last : Char)
  deriving DecidableEq, Repr

/-- The parts of a pattern. -/
inductive Token where
  | char (c : Char)
  | anyChar
  | anyText
  /-- Any number of directories. -/
  | anyDepth
  | within (sets : List CharSet)
  | except (sets : List CharSet)
  deriving DecidableEq, Repr

/-! ## Reading patterns -/

/-- The characters between brackets: a dash between two characters makes a range. -/
def readSets : List Char → List CharSet
  | a :: '-' :: b :: rest => .range a b :: readSets rest
  | a :: rest => .single a :: readSets rest
  | [] => []

/-- The characters up to the closing bracket and what is behind it. -/
def untilBracket : List Char → Option (List Char × List Char)
  | [] => none
  | c :: rest =>
    if c = ']' then some ([], rest)
    else (untilBracket rest).map fun (inside, behind) => (c :: inside, behind)

/-- The set behind an opening bracket and what is behind it. A closing bracket that comes first is a
    member of the set, so no set is empty. -/
def readBrackets : List Char → Option (Token × List Char)
  | '!' :: first :: rest =>
    (untilBracket rest).map fun (inside, behind) => (.except (readSets (first :: inside)), behind)
  | '!' :: [] => none
  | first :: rest =>
    (untilBracket rest).map fun (inside, behind) => (.within (readSets (first :: inside)), behind)
  | [] => none

/-- Reads a pattern from a position on. `before` is the character before it. Two stars must be a
    whole name, and more than two are refused. The fuel bounds the number of parts. -/
def readTokens : Nat → Nat → Option Char → List Token → List Char → Except PatternFault (List Token)
  | 0, _, _, read, _ => .ok read.reverse
  | _ + 1, _, _, read, [] => .ok read.reverse
  | fuel + 1, position, before, read, c :: rest =>
    if c = '?' then readTokens fuel (position + 1) (some c) (.anyChar :: read) rest
    else if c = '*' then
      let stars := 1 + (rest.takeWhile (· = '*')).length
      let behind := rest.dropWhile (· = '*')
      if 2 < stars then .error (.wildcardRun (position + 2))
      else if stars = 1 then
        readTokens fuel (position + 1) (some c) (.anyText :: read) behind
      else if before.isNone || before = some '/' then
        let repeated := match read with
          | .anyDepth :: _ :: _ => true
          | _ => false
        let read := if repeated then read else .anyDepth :: read
        match behind with
        | [] => .ok read.reverse
        | next :: behind =>
          if next = '/' then readTokens fuel (position + 3) (some '/') read behind
          else .error (.partialRecursive (position + 2))
      else .error (.partialRecursive (position - 1))
    else if c = '[' then
      match readBrackets rest with
      | some (token, behind) =>
        let length := 1 + (rest.length - behind.length)
        readTokens fuel (position + length) (some ']') (token :: read) behind
      | none => .error (.invalidRange position)
    else readTokens fuel (position + 1) (some c) (.char c :: read) rest

/-- The parts of a pattern, or the first fault in it. -/
def compile (pattern : String) : Except PatternFault (List Token) :=
  readTokens (pattern.length + 1) 0 none [] pattern.toList

/-! ## Matching names -/

/-- Whether a character is in one of the sets. -/
def inSets (sets : List CharSet) (c : Char) : Bool :=
  sets.any fun
    | .single d => c = d
    | .range first last => first ≤ c && c ≤ last

/-- Whether some rest of a text is accepted. -/
def someRest (accept : List Char → Bool) : List Char → Bool
  | [] => accept []
  | c :: rest => accept (c :: rest) || someRest accept rest

/-- Whether a pattern matches a whole name. -/
def accepts : List Token → List Char → Bool
  | [], name => name.isEmpty
  | .anyText :: tokens, name => someRest (accepts tokens) name
  | .anyDepth :: tokens, name => someRest (accepts tokens) name
  | _ :: _, [] => false
  | .char d :: tokens, c :: name => c = d && accepts tokens name
  | .anyChar :: tokens, _ :: name => accepts tokens name
  | .within sets :: tokens, c :: name => inSets sets c && accepts tokens name
  | .except sets :: tokens, c :: name => !inSets sets c && accepts tokens name

/-- The name that a pattern without wildcards spells. -/
def literal? : List Token → Option (List Char)
  | [] => some []
  | .char c :: tokens => (literal? tokens).map (c :: ·)
  | _ => none

/-! ## Finding paths -/

/-- A place in the tree: its path, and whether it is a directory. -/
structure Place where
  path : String
  isDirectory : Bool
  deriving Repr

/-- The path of a name below a place; the working directory itself adds nothing. -/
def below (path name : String) : String := if Path.isHere path then name else Path.join path name

/-- The entries of a directory in the order of their names. -/
def sortedEntries (entries : List (String × Node)) : List (String × Node) :=
  entries.mergeSort fun a b => a.1 ≤ b.1

/-- The entries of the directory at a path, none elsewhere. -/
def entriesAt (files : Files) (path : String) : List (String × Node) :=
  match files.node path with
  | .ok (.directory entries) => sortedEntries entries
  | _ => []

/-- Whether a node is a directory. -/
def isDirectoryNode : Node → Bool
  | .directory _ => true
  | .file _ | .special _ => false

mutual

/-- A node and all that is below it, each directory before its content. A directory whose path is
    too long cannot be listed. -/
def descend (path : String) : Node → List Place
  | .file _ | .special _ => [⟨path, false⟩]
  | .directory entries => ⟨path, true⟩ :: (if Path.fits path then descendAll path entries else [])

/-- All that is below a directory. -/
def descendAll (path : String) : List (String × Node) → List Place
  | [] => []
  | (name, node) :: rest => descend (below path name) node ++ descendAll path rest

end

mutual

/-- A tree with the entries of every directory in the order of their names. -/
def sortNode : Node → Node
  | .file content => .file content
  | .special reading => .special reading
  | .directory entries => .directory (sortedEntries (sortAll entries))

/-- The sorted trees of entries. -/
def sortAll : List (String × Node) → List (String × Node)
  | [] => []
  | (name, node) :: rest => (name, sortNode node) :: sortAll rest

end

/-- Everything below the directory at a path, in order, each directory before its content. -/
def everythingBelow (files : Files) (path : String) : List Place :=
  match files.node path with
  | .ok (.directory entries) => descendAll path (sortedEntries (sortAll entries))
  | _ => []

/-- The name that a place has in its directory. -/
def nameOf (place : Place) : List Char := ((Path.fileName? place.path).getD "").toList

/-- Any depth directly behind any depth adds nothing. -/
def collapse : List (List Token) → List (List Token)
  | [.anyDepth] :: rest =>
    match collapse rest with
    | [.anyDepth] :: others => [.anyDepth] :: others
    | others => [.anyDepth] :: others
  | tokens :: rest => tokens :: collapse rest
  | [] => []

/-- The names that a pattern finds at a place beside the entries: one that starts with a dot may
    also mean the place itself and the one above. -/
def dotNames (tokens : List Token) : List String :=
  if tokens.head? = some (.char '.') then
    ["..", "."].filter fun (name : String) => accepts tokens name.toList
  else []

/-- The places that a single name of a pattern finds at a place. A name without wildcards is looked
    up and not listed. -/
def step (files : Files) (tokens : List Token) (start : Place) : List Place :=
  match literal? tokens with
  | some name =>
    let name := String.ofList name
    let next := below start.path name
    let there := if name = "." ∨ name = ".." then start.isDirectory else files.holds next
    if there then [⟨next, files.isDirectory next⟩] else []
  | none =>
    if start.isDirectory then
      let dots := (dotNames tokens).map fun name =>
        let next := Path.join start.path name
        ⟨next, files.isDirectory next⟩
      let entries := (entriesAt files start.path).filter fun entry => accepts tokens entry.1.toList
      dots ++ entries.map fun (name, node) => ⟨below start.path name, isDirectoryNode node⟩
    else []

/-- The places that match a pattern, name by name, from a place on. Any depth finds the directories
    below the place; where a name follows it, everything below is tried against that name. -/
def expand (files : Files) : List (List Token) → Place → List Place
  | [], start => [start]
  | [[.anyDepth]], start => (everythingBelow files start.path).filter (·.isDirectory)
  | [.anyDepth] :: tokens :: rest, start =>
    ((everythingBelow files start.path).filter fun place => accepts tokens (nameOf place)).flatMap
      fun place => expand files rest place
  | tokens :: rest, start => (step files tokens start).flatMap fun place => expand files rest place

/-- Compiles the names of a pattern one after the other. -/
def compileAll : List String → Except PatternFault (List (List Token))
  | [] => .ok []
  | name :: rest => do
    let tokens ← compile name
    let others ← compileAll rest
    return tokens :: others

/-- The names of a pattern: the segments, of which an empty last one does not count. -/
def patternNames (pattern : String) : List String :=
  let names := Path.segments pattern
  if names.getLast? = some "" then names.dropLast else names

/-- The paths that match a pattern. A pattern that ends in a slash matches directories only. -/
def glob (files : Files) (pattern : String) : Except PatternFault (List String) := do
  let _ ← compile pattern
  let absolute := Path.isAbsolute pattern
  let names := patternNames (if absolute then (pattern.drop 1).toString else pattern)
  let patterns ← compileAll names
  let patterns := if pattern = "" ∨ pattern = "/" then [[]] else patterns
  let start := if absolute then "/" else "."
  let found := expand files (collapse patterns) ⟨start, files.isDirectory start⟩
  let onlyDirectories := pattern.toList.getLast? = some '/'
  return (found.filter fun place => !onlyDirectories || place.isDirectory).map (·.path)

end Winnow.Glob
