import Winnow.Text.Alphanumeric
import Winnow.Text.Blank

/-!
# `Winnow.Text.Regex` — which texts are regular expressions

A regular expression is checked from left to right. What has to be known of the part already read is
which flags hold, which groups are open, and whether a repetition has something to repeat. Nothing
that is written with braces is understood, outside of classes and escapes.

## Contents
- **`RegexFault`**: why a text is refused.
- **`Flags`**, **`Escape`**, **`readEscape`**.
- **`readClass`**: classes between brackets.
- **`Progress`**, **`scan`**: the check of a whole text.
- **`fault?`**.
-/

namespace Winnow

/-- Why a text is not taken for a regular expression. -/
inductive RegexFault where
  | malformed
  /-- Word boundaries of all scripts are not searched for. -/
  | wordBoundary
  deriving DecidableEq, Repr

/-- The wording of a fault. -/
def RegexFault.message : RegexFault → String
  | malformed => "error building NFA"
  | wordBoundary =>
    "unsupported regex feature for DFAs: cannot build DFAs for regexes with Unicode word " ++
      "boundaries; switch to ASCII word boundaries, or heuristically enable Unicode word " ++
      "boundaries or use a different regex engine"

namespace Regex

open Text

/-- The flags that bear on what is understood. -/
structure Flags where
  /-- Blanks and comments between the parts are skipped. -/
  spaced : Bool := false
  /-- Characters of all scripts are matched; otherwise nothing may match beyond ASCII. -/
  unicode : Bool := true
  deriving DecidableEq, Repr

/-- Skips blanks and comments, which run up to the end of a line. -/
def skipSpace (inComment : Bool) : List Char → List Char
  | [] => []
  | c :: rest =>
    if inComment then skipSpace (c != '\n') rest
    else if isBlank c then skipSpace false rest
    else if c = '#' then skipSpace true rest
    else c :: rest

/-- Skips what the flags let be skipped. -/
def Flags.skip (flags : Flags) (text : List Char) : List Char :=
  if flags.spaced then skipSpace false text else text

/-! ## Escapes -/

/-- What an escape stands for. -/
inductive Escape where
  | char (c : Char)
  /-- Any character of a class. -/
  | oneOf
  /-- A condition on the place. -/
  | place
  /-- A condition on the place that asks for the words around it. -/
  | wordPlace
  deriving DecidableEq, Repr

/-- The value of a hexadecimal digit. -/
def hexDigit? (c : Char) : Option Nat :=
  if c.isDigit then some (c.toNat - '0'.toNat)
  else if 'a' ≤ c ∧ c ≤ 'f' then some (c.toNat - 'a'.toNat + 10)
  else if 'A' ≤ c ∧ c ≤ 'F' then some (c.toNat - 'A'.toNat + 10)
  else none

/-- Reads a number of hexadecimal digits behind the digits read before. -/
def readHex (flags : Flags) : Nat → Nat → List Char → Option (Nat × List Char)
  | 0, value, text => some (value, text)
  | count + 1, value, text =>
    match flags.skip text with
    | c :: rest => (hexDigit? c).bind fun digit => readHex flags count (16 * value + digit) rest
    | [] => none

/-- The character of a number of hexadecimal digits. -/
def readCodePoint (flags : Flags) (digits : Nat) (text : List Char) :
    Option (Escape × List Char) := do
  let (value, rest) ← readHex flags digits 0 text
  if value.isValidChar ∧ (flags.unicode ∨ value < 0x80) then
    return (.char (Char.ofNat value), rest)
  else none

/-- The characters of control that have an escape of one letter. -/
def controls : List (Char × Char) :=
  [('a', '\x07'), ('f', '\x0c'), ('t', '\t'), ('n', '\n'), ('r', '\r'), ('v', '\x0b')]

/-- Reads what follows a backslash. Marks stand for themselves, digits and other letters for
    nothing. -/
def readEscape (flags : Flags) : List Char → Option (Escape × List Char)
  | [] => none
  | c :: rest =>
    if c = 'x' then readCodePoint flags 2 rest
    else if c = 'u' then readCodePoint flags 4 rest
    else if c = 'U' then readCodePoint flags 8 rest
    else if c = 'p' ∨ c = 'P' then
      match flags.skip rest with
      | letter :: rest =>
        if flags.unicode && "CLMNPSZclmnpsz".contains letter then some (.oneOf, rest) else none
      | [] => none
    else if c = 'd' ∨ c = 's' ∨ c = 'w' then some (.oneOf, rest)
    else if c = 'D' ∨ c = 'S' ∨ c = 'W' then if flags.unicode then some (.oneOf, rest) else none
    else if c = 'A' ∨ c = 'z' then some (.place, rest)
    else if c = 'b' ∨ c = 'B' ∨ c = '<' ∨ c = '>' then
      some (if flags.unicode then .wordPlace else .place, rest)
    else
      match controls.find? (·.1 = c) with
      | some (_, control) => some (.char control, rest)
      | none => if c.toNat < 0x80 && !c.isAlphanum then some (.char c, rest) else none

/-! ## Classes -/

/-- The classes that have a name of their own. -/
def classNames : List String :=
  ["alnum", "alpha", "ascii", "blank", "cntrl", "digit", "graph", "lower", "print", "punct",
    "space", "upper", "word", "xdigit"]

/-- Reads a named class behind its opening bracket, if there is one: its name stands between colons,
    behind a caret if it is negated. -/
def namedClass? (text : List Char) : Option (List Char) :=
  match text with
  | ':' :: rest =>
    let rest := if rest.head? = some '^' then rest.drop 1 else rest
    let name := rest.takeWhile (· != ':')
    match rest.drop name.length with
    | ':' :: ']' :: behind =>
      if classNames.contains (String.ofList name) then some behind else none
    | _ => none
  | _ => none

/-- Reads the front of a class behind its opening bracket: a caret, then dashes. Without dashes a
    closing bracket is a member of the class. -/
def openClass (flags : Flags) (text : List Char) : Option (List Char) :=
  let members (text : List Char) : List Char :=
    match text with
    | ']' :: rest => rest
    | '-' :: rest => (flags.skip rest).dropWhile fun c => c = '-' || (flags.spaced && isBlank c)
    | _ => text
  match flags.skip text with
  | '^' :: rest => if flags.unicode then some (members (flags.skip rest)) else none
  | rest => some (members rest)

/-- Reads one member of a class, which begins with a character. -/
def readMember (flags : Flags) (c : Char) (rest : List Char) : Option (Escape × List Char) :=
  if c = '\\' then readEscape flags rest
  else if flags.unicode || c.toNat < 0x80 then some (.char c, rest)
  else none

/-- Reads a member of a class or the range from it to another one. -/
def readRange (flags : Flags) (c : Char) (rest : List Char) : Option (List Char) := do
  let (first, rest) ← readMember flags c rest
  let rest := flags.skip rest
  let alone := if first = .place ∨ first = .wordPlace then none else some rest
  match rest with
  | '-' :: behind =>
    match flags.skip behind with
    | [] => none
    | next :: behind =>
      if next = ']' ∨ next = '-' then alone
      else
        let (last, behind) ← readMember flags next behind
        match first, last with
        | .char a, .char b => if a ≤ b then some behind else none
        | _, _ => none
  | _ => alone

/-- Reads a class up to its closing bracket, from inside of it and of a number of classes around it.
    The fuel bounds the number of members. -/
def readClass (flags : Flags) : Nat → Nat → List Char → Option (List Char)
  | 0, _, _ => none
  | fuel + 1, around, text =>
    match flags.skip text with
    | [] => none
    | ']' :: rest =>
      match around with
      | 0 => some rest
      | around + 1 => readClass flags fuel around rest
    | '[' :: rest =>
      match namedClass? rest with
      | some rest => readClass flags fuel around rest
      | none => (openClass flags rest).bind (readClass flags fuel (around + 1))
    | c :: rest =>
      if (c = '&' ∨ c = '-' ∨ c = '~') ∧ rest.head? = some c then
        readClass flags fuel around (rest.drop 1)
      else (readRange flags c rest).bind (readClass flags fuel around)

/-! ## Groups -/

/-- How far a regular expression is read. -/
structure Progress where
  flags : Flags := {}
  /-- The flags to return to at the end of each open group, the innermost one first. -/
  outer : List Flags := []
  /-- Whether there is something before that can be repeated. -/
  repeatable : Bool := false
  /-- The names of groups. -/
  names : List (List Char) := []
  wordPlaces : Bool := false
  deriving DecidableEq, Repr

namespace Progress

/-- Behind a part that can be repeated. -/
def behindPart (p : Progress) : Progress := { p with repeatable := true }

/-- Inside a new group. -/
def enter (p : Progress) (flags : Flags) : Progress :=
  { p with flags, outer := p.flags :: p.outer, repeatable := false }

/-- Reads the name of a group up to the closing bracket. -/
def readName (p : Progress) (text : List Char) : Option (Progress × List Char) :=
  let name := text.takeWhile (· != '>')
  let isFirst (c : Char) : Bool := c = '_' || isLetter c
  let isOther (c : Char) : Bool := "_.[]".contains c || isLetterOrNumeral c
  match name, text.drop name.length with
  | first :: others, _ :: rest =>
    if isFirst first && others.all isOther && !p.names.contains name then
      some ({ p.enter p.flags with names := name :: p.names }, rest)
    else none
  | _, _ => none

/-- Whether letters make a list of flags: each of them once, with at most one dash, not at the
    end. -/
def isFlagList (letters : List Char) : Bool :=
  letters.all ("imsUuRx-".contains ·) && letters.eraseDups.length = letters.length &&
    letters.getLast? != some '-'

/-- What a list of flags says of one of them: those behind the dash are unset. -/
def setting (letters : List Char) (flag : Char) (held : Bool) : Bool :=
  if letters.contains flag then !(letters.takeWhile (· != flag)).contains '-' else held

/-- Reads a list of flags, which hold for a new group or for the rest of this one. -/
def readFlags (p : Progress) (text : List Char) : Option (Progress × List Char) :=
  let letters := text.takeWhile fun c => c != ':' && c != ')'
  let flags : Flags := {
    spaced := setting letters 'x' p.flags.spaced
    unicode := setting letters 'u' p.flags.unicode }
  if !isFlagList letters then none
  else
    match text.drop letters.length with
    | ':' :: rest => some (p.enter flags, rest)
    | ')' :: rest =>
      if letters.isEmpty then none else some ({ p with flags, repeatable := false }, rest)
    | _ => none

/-- Reads the front of a group behind its opening bracket. -/
def readGroup (p : Progress) (text : List Char) : Option (Progress × List Char) :=
  match p.flags.skip text with
  | '?' :: 'P' :: '<' :: rest => p.readName rest
  | '?' :: '<' :: rest => p.readName rest
  | '?' :: rest => p.readFlags rest
  | rest => some (p.enter p.flags, rest)

/-- Leaves the innermost group. -/
def leave (p : Progress) : Option Progress :=
  match p.outer with
  | flags :: outer => some { p with flags, outer, repeatable := true }
  | [] => none

/-! ## The whole expression -/

/-- Reads the next part, which begins with a character. -/
def step (p : Progress) (c : Char) (rest : List Char) : Option (Progress × List Char) :=
  if c = '(' then p.readGroup rest
  else if c = ')' then p.leave.map (·, rest)
  else if c = '|' then some ({ p with repeatable := false }, rest)
  else if c = '*' ∨ c = '+' ∨ c = '?' then
    if p.repeatable then some (p, if rest.head? = some '?' then rest.drop 1 else rest) else none
  else if c = '\x7b' then none
  else if c = '[' then do
    let inside ← openClass p.flags rest
    return (p.behindPart, ← readClass p.flags (inside.length + 1) 0 inside)
  else if c = '\\' then do
    let (escape, rest) ← readEscape p.flags rest
    return ({ p.behindPart with wordPlaces := p.wordPlaces || escape = .wordPlace }, rest)
  else if c = '.' ∧ !p.flags.unicode then none
  else some (p.behindPart, rest)

/-- Reads all parts. The fuel bounds their number. -/
def scan : Nat → Progress → List Char → Option Progress
  | 0, _, _ => none
  | fuel + 1, p, text =>
    match p.flags.skip text with
    | [] => if p.outer.isEmpty then some p else none
    | c :: rest => (p.step c rest).bind fun (p, rest) => scan fuel p rest

end Progress

/-- Why a text is not taken for a regular expression. -/
def fault? (text : List Char) : Option RegexFault :=
  match Progress.scan (text.length + 1) {} text with
  | none => some .malformed
  | some p => if p.wordPlaces then some .wordBoundary else none

end Regex

end Winnow
