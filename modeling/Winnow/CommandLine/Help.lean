import Winnow.CommandLine.Arguments

/-!
# `Winnow.CommandLine.Help` — help texts

The help lists commands and options, each with a summary of what it does. Summaries stand in a
second column, or on lines of their own where they would not fit there. The lists are built from the
same rules by which command lines are read.

## Contents
- **`versionLine`**, **`usageLine`**.
- **`laidOut`**: entries with their summaries.
- **`helpLines`**: the help on the program or on a command.
-/

namespace Winnow.CommandLine

/-- The name of the program. -/
def programName : String := "rowsift"

/-- The name and the version of the program. -/
def versionLine : String := programName ++ " 0.1.0"

/-! ## Entries -/

/-- What a command does. -/
def commandSummary : String → String
  | "tables" => "List registered tables and their schemas"
  | "filter" => "Print the rows of a table that match a filter spec"
  | "values" => "Sorted distinct values of a column"
  | "numeric-spec" => "Range and increment of a numeric column"
  | "validate" => "Check a filter spec without evaluating it"
  | "help" => "Print this message or the help of the given subcommand(s)"
  | _ => "Filter and summarize dashboard tables"

/-- What an option is for, where its name does not say it. -/
def optionSummary : String → String
  | "config" => "config file (defaults to $ROWSIFT_CONFIG, then the user config dir)"
  | "load" => "extra table files, directories or globs to register"
  | "load-dashboard" => "dashboard for tables given with --load"
  | "spec" => "filter spec as JSON text"
  | "spec-file" => "file holding the filter spec"
  | _ => ""

/-- An option as it is given, with the place of its value. -/
def optionUse (rule : OptionRule) : String :=
  let value := "<" ++ (rule.name.map fun c => if c = '-' then '_' else c.toUpper) ++ ">"
  match rule.arity with
  | .switch => "--" ++ rule.name
  | _ => "--" ++ rule.name ++ " " ++ value

/-- The rules of options in the order in which they are listed: the first one of a command and the
    first one of the program, by name, then the second ones, and so on. -/
def listed (own program : List OptionRule) : List OptionRule :=
  let ranked := own.zipIdx ++ program.zipIdx
  let inOrder (a b : OptionRule × Nat) : Bool :=
    a.2 < b.2 || (a.2 = b.2 && !(b.1.name < a.1.name : Bool))
  (ranked.mergeSort inOrder).map (·.1)

/-- The entries of options, the one for help last. Options without a letter leave its place free. -/
def optionEntries (rules : List OptionRule) : List (String × String) :=
  rules.map (fun rule => ("    " ++ optionUse rule, optionSummary rule.name)) ++
    [("-h, --help", "Print help")]

/-- The entries of the commands, the one for help last. -/
def commandEntries : List (String × String) :=
  (commandRules.map (·.1) ++ ["help"]).map fun name => (name, commandSummary name)

/-! ## Layout -/

/-- The width of a line of help. -/
def lineWidth : Nat := 100

/-- A number of blanks. -/
def blanks (count : Nat) : String := String.ofList (List.replicate count ' ')

/-- The width of the widest entry without its summary. -/
def widest (entries : List (String × String)) : Nat := (entries.map (·.1.length)).foldl max 0

/-- Whether summaries stand on lines of their own: the entries take more than two fifths of a line,
    and some summary is wider than the rest of it. -/
def onOwnLines (entries : List (String × String)) : Bool :=
  let taken := widest entries + 8
  2 * lineWidth < 5 * taken && entries.any fun entry => lineWidth - taken < entry.2.length

/-- The lines of entries with their summaries. -/
def laidOut (entries : List (String × String)) : List String :=
  if onOwnLines entries then
    entries.flatMap fun (entry, summary) => ["  " ++ entry, blanks 10 ++ summary]
  else
    entries.map fun (entry, summary) =>
      "  " ++ entry ++ blanks (widest entries - entry.length + 2) ++ summary

/-! ## Help -/

/-- How the program, called by a name, or one of its commands is used. -/
def usageLine (calledAs : String) : Option String → String
  | none => "Usage: " ++ calledAs ++ " [OPTIONS] <COMMAND>"
  | some "help" => "Usage: " ++ calledAs ++ " help [COMMAND]..."
  | some command =>
    let own := ((commandRules.find? (·.1 = command)).map (·.2)).getD []
    let required := (own.filter (·.isRequired)).map optionUse
    " ".intercalate (["Usage:", calledAs, command, "[OPTIONS]"] ++ required)

/-- The help on the program, called by a name, or on a command. -/
def helpLines (calledAs : String) (command : Option String) : List String :=
  let head := [commandSummary (command.getD ""), "", usageLine calledAs command, ""]
  match command with
  | none =>
    head ++ "Commands:" :: laidOut commandEntries ++
      "" :: "Options:" ::
        laidOut (optionEntries (listed [] globalRules) ++ [("-V, --version", "Print version")])
  | some "help" =>
    head ++ "Arguments:" :: laidOut [("[COMMAND]...", "Print help for the subcommand(s)")]
  | some command =>
    let own := ((commandRules.find? (·.1 = command)).map (·.2)).getD []
    head ++ "Options:" :: laidOut (optionEntries (listed own globalRules))

end Winnow.CommandLine
