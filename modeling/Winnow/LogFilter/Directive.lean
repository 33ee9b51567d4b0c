import Winnow.Session
import Winnow.Text.Regex

/-!
# `Winnow.LogFilter.Directive` — the rules of a log filter

A directive names a level, or a target with the level from which on the events of that target are
let through; it may also name a span, in which no event of this program ever stands, or a field that
an event must have.

A directive is divided without the blanks around it, but its parts are then taken from the text as
it stands, at the same distances from its front in bytes. So blanks at the front shift the parts.

## Contents
- **`Verbosity`**: the levels that are let through.
- **`Directive`**, **`DirectiveFault`**.
- **`Directive.part`**: a part of a text between two distances.
- **`Directive.parse`**.
- **`Directive.concerns`**, **`Directive.moreSpecific`**.
-/

namespace Winnow

/-- The most detailed level that is let through, or none at all. -/
abbrev Verbosity := Option Level

namespace Verbosity

/-- Whether a level is let through. -/
def allows (verbosity : Verbosity) (level : Level) : Bool :=
  match verbosity with
  | some most => level.rank ≤ most.rank
  | none => false

/-- The verbosities by their number, from none to all. -/
def byNumber : List Verbosity :=
  [none, some .error, some .warn, some .info, some .debug, some .trace]

/-- The verbosities by name. -/
def byName : List (String × Verbosity) :=
  [("off", none), ("error", some .error), ("warn", some .warn), ("info", some .info),
    ("debug", some .debug), ("trace", some .trace)]

/-- The value of decimal digits behind an optional plus sign. -/
def number? (text : String) : Option Nat :=
  let digits := match text.toList with
    | '+' :: rest => rest
    | chars => chars
  if digits.isEmpty || digits.any fun c => !c.isDigit then none
  else some (digits.foldl (fun n c => 10 * n + (c.toNat - '0'.toNat)) 0)

/-- Reads a verbosity by its number or, in letters of either case, by its name. -/
def ofText? (text : String) : Option Verbosity :=
  match (number? text).bind fun n => byNumber[n]? with
  | some verbosity => some verbosity
  | none => (byName.find? fun entry => entry.1 = text.map Char.toLower).map (·.2)

end Verbosity

/-- One rule of a log filter. -/
structure Directive where
  target : Option String := none
  /-- The fields that an event must have. -/
  fields : List String := []
  /-- Concerns spans alone. -/
  spansOnly : Bool := false
  verbosity : Verbosity := some .trace
  deriving DecidableEq, Repr

/-- Why a directive is refused. -/
inductive DirectiveFault where
  | malformed
  | badLevel
  /-- The value asked of a field is not a regular expression. -/
  | badField (fault : RegexFault)
  deriving DecidableEq, Repr

/-- The wording of a directive fault. -/
def DirectiveFault.message : DirectiveFault → String
  | malformed => "invalid filter directive"
  | badLevel =>
    "error parsing level filter: expected one of \"off\", \"error\", \"warn\", \"info\", " ++
      "\"debug\", \"trace\", or a number 0-5"
  | badField fault => "invalid field filter: " ++ fault.message

namespace Directive

/-! ## Parts of a text -/

/-- The number of bytes of characters. -/
def bytes (chars : List Char) : Nat := (String.ofList chars).utf8ByteSize

/-- The characters from a distance in bytes on. A distance into the middle of a character has
    none. -/
def fromByte : Nat → List Char → Except DirectiveFault (List Char)
  | 0, text => .ok text
  | _ + 1, [] => .error .malformed
  | n + 1, c :: rest =>
    if c.utf8Size ≤ n + 1 then fromByte (n + 1 - c.utf8Size) rest else .error .malformed

/-- The part of a text between two distances in bytes. -/
def part (text : List Char) (first last : Nat) : Except DirectiveFault (List Char) := do
  let behindFirst ← fromByte first text
  let behindLast ← fromByte last text
  return behindFirst.take (behindFirst.length - behindLast.length)

/-! ## Levels and fields -/

/-- Reads the level of a directive; none means every level. -/
def withLevel (d : Directive) (level : List Char) : Except DirectiveFault Directive :=
  if level.isEmpty then .ok d
  else
    match Verbosity.ofText? (String.ofList level) with
    | some verbosity => .ok { d with verbosity }
    | none => .error .badLevel

/-- A directive without further parts: a level, or else a target. -/
def ofWord (text : String) : Directive :=
  match Verbosity.ofText? text with
  | some verbosity => { verbosity }
  | none => { target := some text }

/-- Whether characters are an optional exponent. -/
def isExponent : List Char → Bool
  | [] => true
  | e :: rest =>
    let digits := if rest.head? = some '-' ∨ rest.head? = some '+' then rest.drop 1 else rest
    (e = 'e' || e = 'E') && !digits.isEmpty && digits.all Char.isDigit

/-- Whether characters are a decimal number, infinity or the name of what is no number, without a
    sign. -/
def isNumber (text : List Char) : Bool :=
  let whole := text.takeWhile Char.isDigit
  let behind := text.drop whole.length
  let fraction := if behind.head? = some '.' then (behind.drop 1).takeWhile Char.isDigit else []
  let behind := if behind.head? = some '.' then behind.drop (1 + fraction.length) else behind
  ["inf", "infinity", "nan"].contains (String.ofList (text.map Char.toLower)) ||
    (!(whole.isEmpty && fraction.isEmpty) && isExponent behind)

/-- Why the value asked of a field is refused. Numbers are understood with a plus sign, every other
    value is a regular expression. -/
def valueFault? (value : List Char) : Option RegexFault :=
  if value.head? = some '+' && isNumber (value.drop 1) then none else Regex.fault? value

/-- Adds a condition on a field: its name, and behind an equals sign a value that can only be met in
    spans. What follows a second equals sign does not count. -/
def withField (d : Directive) (field : List Char) : Except DirectiveFault Directive :=
  let name := field.takeWhile (· != '=')
  let named := { d with fields := d.fields ++ [String.ofList name] }
  match field.drop name.length with
  | [] => if field.isEmpty then .error .malformed else .ok named
  | _ :: behind =>
    match valueFault? (behind.takeWhile (· != '=')) with
    | none => .ok { named with spansOnly := true }
    | some fault => .error (.badField fault)

/-! ## Reading directives

Each step takes the whole text, what is left of it without the blanks around it, and the distance at
which that begins. -/

/-- Reads what follows the span of a directive. -/
def afterSpan (text : List Char) (d : Directive) (place : Nat) :
    List Char → Except DirectiveFault Directive
  | [] => .ok d
  | '=' :: _ => do d.withLevel (← fromByte (place + 1) text)
  | _ => .error .malformed

/-- Reads the condition on a field of a directive, up to the closing bracket. -/
def inBraces (text : List Char) (d : Directive) (place : Nat) (rest : List Char) :
    Except DirectiveFault Directive := do
  let field := rest.takeWhile (· != '\x7d')
  let close := place + bytes field
  match rest.drop field.length with
  | [] => throw .malformed
  | _ :: behind =>
    let d ← d.withField (← part text place close)
    match behind with
    | ']' :: behind => afterSpan text d (close + 2) behind
    | _ => throw .malformed

/-- Reads the span of a directive: a name, a condition on a field between braces, or both. Without
    a condition an empty name is one as well. -/
def inBrackets (text : List Char) (d : Directive) (place : Nat) (rest : List Char) :
    Except DirectiveFault Directive := do
  let name := rest.takeWhile fun c => c != ']' && c != '\x7b'
  let close := place + bytes name
  let span ← part text place close
  match rest.drop name.length with
  | [] => throw .malformed
  | c :: behind =>
    if c = ']' then afterSpan text { d with spansOnly := true } (close + 1) behind
    else inBraces text { d with spansOnly := !span.isEmpty } (close + 1) behind

/-- A character that may begin a directive without a span. -/
def beginsTarget (c : Char) : Bool := Text.isLetterOrNumeral c || c = '-' || c = ':' || c = '_'

/-- Reads a directive. -/
def parse (directive : String) : Except DirectiveFault Directive := do
  let text := directive.toList
  let body := Text.trimBlanks text
  let front := body.takeWhile fun c => c != '=' && c != '['
  match front, body.drop front.length with
  | [], '[' :: rest => inBrackets text {} 1 rest
  | [], _ => throw .malformed
  | first :: _, behind =>
    let place := bytes front
    if !beginsTarget first then throw .malformed
    else
      match behind with
      | [] => return ofWord directive
      | c :: rest =>
        let d : Directive := { target := some (String.ofList (← part text 0 place)) }
        if c = '=' then d.withLevel (← fromByte (place + 1) text)
        else inBrackets text d (place + 1) rest

/-! ## Use -/

/-- Whether a directive concerns an event: its target begins the target of events, and the event
    has all its fields. -/
def concerns (d : Directive) (event : Event) : Bool :=
  !d.spansOnly && (d.target.all fun target => target.toList.isPrefixOf Event.target.toList) &&
    d.fields.all fun name => event.fields.any fun field => field.1 = name

/-- Whether a directive is more specific than another one: by the length of its target, then by its
    fields. -/
def outranks (a b : Directive) : Bool :=
  let order := (compare (a.target.map String.length) (b.target.map String.length)).then
    ((compare a.fields.length b.fields.length).then (compare a.fields b.fields))
  order = .gt

/-- The more specific of two directives, the later one if they concern the same events. -/
def moreSpecific (held : Option Directive) (next : Directive) : Option Directive :=
  match held with
  | some d => if d.outranks next then some d else some next
  | none => some next

end Directive

end Winnow
