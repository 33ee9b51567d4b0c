/-!
# `Winnow.CommandLine.Arguments` — the words of a command line

A command line is a list of options around the name of a command. Options that hold for all commands
may stand on either side of the name; those behind it take the place of those before it. The value
of an option is the next word or stands behind an equals sign.

## Contents
- **`OptionRule`**: the options that there are.
- **`Word`**, **`front`**, **`scan`**: the options at the front of a list of words.
- **`Command`**, **`Invocation`**, **`CommandLine`**: what a command line asks for.
- **`CommandLine.parse`**.
-/

namespace Winnow

/-- How often an option may be given, and whether it has a value. -/
inductive Arity where
  | switch
  | single
  | repeated
  deriving DecidableEq, Repr

/-- An option by its long name. -/
structure OptionRule where
  name : String
  arity : Arity := .single
  /-- The value is a path, which must not be empty. -/
  isPath : Bool := false
  isRequired : Bool := false
  deriving DecidableEq, Repr

/-- The options given, with their values, in order. Switches have an empty value. -/
abbrev Given := List (String × String)

namespace Given

/-- The values of an option. -/
def all (name : String) (given : Given) : List String :=
  (given.filter (·.1 = name)).map (·.2)

/-- The value of an option that is given once at most. -/
def value? (name : String) (given : Given) : Option String := (all name given).head?

/-- Whether an option is given. -/
def has (name : String) (given : Given) : Bool := (value? name given).isSome

/-- Adds an option, unless its rule forbids the value or the repetition. -/
def add (rule : OptionRule) (value : String) (given : Given) : Option Given :=
  if rule.isPath && value = "" then none
  else if rule.arity != .repeated && given.has rule.name then none
  else some (given ++ [(rule.name, value)])

end Given

/-- A word of a command line by its form. -/
inductive Word where
  /-- Two dashes alone: no options follow. -/
  | separator
  | long (name : String) (value : Option String)
  | short (letters : List Char)
  | plain
  deriving DecidableEq, Repr

/-- The form of a word. A single dash is a plain word. -/
def Word.ofText (text : String) : Word :=
  match text.toList with
  | ['-', '-'] => .separator
  | '-' :: '-' :: rest =>
    let name := String.ofList (rest.takeWhile (· != '='))
    match rest.dropWhile (· != '=') with
    | _ :: value => .long name (some (String.ofList value))
    | [] => .long name none
  | '-' :: letter :: rest => .short (letter :: rest)
  | _ => .plain

/-- Where a scan of options stops. -/
inductive Scan where
  | ended (given : Given)
  /-- A word that is no option, with the words behind it. -/
  | word (text : String) (given : Given) (rest : List String)
  | help
  | version
  | refused
  deriving DecidableEq, Repr

/-- What a group of one-letter options asks for; its first letter decides. -/
def scanShort (versioned : Bool) : List Char → Scan
  | 'h' :: _ => .help
  | 'V' :: _ => if versioned then .version else .refused
  | _ => .refused

/-- What the word at the front of a command line does: it stops the scan, or it is an option, alone
    or with the word behind it as its value. -/
inductive Front where
  | stops (scan : Scan)
  | alone (given : Given)
  | withNext (given : Given)
  deriving DecidableEq, Repr

/-- Adds an option if its rule allows it. -/
def Front.ofGiven (shape : Given → Front) : Option Given → Front
  | some given => shape given
  | none => .stops .refused

/-- Reads an option by its long name. A next word that begins with a dash is no value unless it is
    the dash alone. -/
def frontLong (rule : OptionRule) (given : Given) (value next : Option String) : Front :=
  match rule.arity, value with
  | .switch, none => .ofGiven .alone (given.add rule "")
  | .switch, some _ => .stops .refused
  | _, some value => .ofGiven .alone (given.add rule value)
  | _, none =>
    match next with
    | none => .stops .refused
    | some value =>
      if Word.ofText value = .plain then .ofGiven .withNext (given.add rule value)
      else .stops .refused

/-- Reads the word at the front. Nothing may follow two dashes. -/
def front (rules : List OptionRule) (versioned : Bool) (given : Given) (text : String)
    (rest : List String) : Front :=
  match Word.ofText text with
  | .plain => .stops (.word text given rest)
  | .separator => .stops (if rest.isEmpty then .ended given else .refused)
  | .short letters => .stops (scanShort versioned letters)
  | .long name value =>
    match rules.find? (·.name = name), value with
    | some rule, value => frontLong rule given value rest.head?
    | none, none =>
      if name = "help" then .stops .help
      else if name = "version" && versioned then .stops .version
      else .stops .refused
    | none, some _ => .stops .refused

/-- Scans options up to the first other word. -/
def scan (rules : List OptionRule) (versioned : Bool) (given : Given) : List String → Scan
  | [] => .ended given
  | text :: rest =>
    match front rules versioned given text rest with
    | .stops result => result
    | .alone given => scan rules versioned given rest
    | .withNext given => scan rules versioned given rest.tail
termination_by words => words.length
decreasing_by all_goals simp; try omega

/-! ## Commands -/

/-- A filter specification given on the command line. -/
inductive SpecArgument where
  | inline (text : String)
  | file (path : String)
  deriving DecidableEq, Repr

/-- The commands of the program. -/
inductive Command where
  /-- Lists the registered tables with their columns. -/
  | tables
  /-- Prints the rows of a table that a specification selects. -/
  | filter (table : String) (dashboard : Option String) (spec : Option SpecArgument)
  /-- Prints the distinct values of a column. -/
  | values (column : String) (table dashboard : Option String)
  /-- Prints the range and step of a column of numbers. -/
  | numericSpec (column : String) (table dashboard : Option String)
  /-- Checks a specification. -/
  | validate (spec : Option SpecArgument)
  deriving DecidableEq, Repr

/-- A command with the options that hold for all commands. -/
structure Invocation where
  config : Option String
  load : List String
  loadDashboard : Option String
  pretty : Bool
  command : Command
  deriving DecidableEq, Repr

/-- What a command line asks for. -/
inductive CommandLine where
  | invoke (invocation : Invocation)
  /-- The help on a command, that for help included, or on the whole program. -/
  | help (command : Option String)
  | version
  /-- The command line is not understood. -/
  | refused
  deriving DecidableEq, Repr

namespace CommandLine

/-- The options that hold for all commands. -/
def globalRules : List OptionRule :=
  [{ name := "config", isPath := true }, { name := "load", arity := .repeated },
    { name := "load-dashboard" }, { name := "pretty", arity := .switch }]

/-- The options of a specification. -/
def specRules : List OptionRule := [{ name := "spec" }, { name := "spec-file", isPath := true }]

/-- The options of a column of some tables. -/
def columnRules : List OptionRule :=
  [{ name := "column", isRequired := true }, { name := "table" }, { name := "dashboard" }]

/-- The names of the commands with their own options. -/
def commandRules : List (String × List OptionRule) :=
  [("tables", []),
    ("filter", [{ name := "table", isRequired := true }, { name := "dashboard" }] ++ specRules),
    ("values", columnRules),
    ("numeric-spec", columnRules),
    ("validate", specRules)]

/-- The specification among the options, given in one way at most. -/
def specArgument (given : Given) : Option (Option SpecArgument) :=
  match given.value? "spec", given.value? "spec-file" with
  | none, none => some none
  | some text, none => some (some (.inline text))
  | none, some path => some (some (.file path))
  | some _, some _ => none

/-- The command of a name with its options. -/
def command? (name : String) (given : Given) : Option Command := do
  let dashboard := given.value? "dashboard"
  match name with
  | "tables" => return .tables
  | "filter" => return .filter (← given.value? "table") dashboard (← specArgument given)
  | "values" => return .values (← given.value? "column") (given.value? "table") dashboard
  | "numeric-spec" => return .numericSpec (← given.value? "column") (given.value? "table") dashboard
  | "validate" => return .validate (← specArgument given)
  | _ => none

/-- The options of a name: those behind the command, or if there are none those before it. -/
def prefer (behind before : Given) (name : String) : List String :=
  if behind.has name then behind.all name else before.all name

/-- The invocation of a command, from the options on both sides of its name. -/
def invocation? (before : Given) (name : String) (behind : Given) : Option Invocation := do
  let command ← command? name behind
  return {
    config := (prefer behind before "config").head?
    load := prefer behind before "load"
    loadDashboard := (prefer behind before "load-dashboard").head?
    pretty := before.has "pretty" || behind.has "pretty"
    command }

/-- What the words behind a command ask for. -/
def parseBehind (before : Given) (name : String) (rules : List OptionRule) (words : List String) :
    CommandLine :=
  match scan (globalRules ++ rules) false [] words with
  | .ended behind =>
    match invocation? before name behind with
    | some invocation => .invoke invocation
    | none => .refused
  | .help => .help (some name)
  | _ => .refused

/-- What the words behind the command for help ask for. -/
def parseHelp : List String → CommandLine
  | [] => .help none
  | [name] =>
    if name = "help" || commandRules.any (·.1 = name) then .help (some name) else .refused
  | _ => .refused

/-- Reads a command line. -/
def parse (words : List String) : CommandLine :=
  match scan globalRules true [] words with
  | .word "help" _ rest => parseHelp rest
  | .word name before rest =>
    match commandRules.find? (·.1 = name) with
    | some (_, rules) => parseBehind before name rules rest
    | none => .refused
  | .help => .help none
  | .version => .version
  | _ => .refused

end CommandLine

end Winnow
