import Winnow.Files.Tree
import Winnow.Toml.Reader

/-!
# `Winnow.Config` — the configuration

The configuration names the level of the log, the layout of the output, and the tables to register.
Everything but the path of a table has a default.

## Contents
- **`Config`** and its sections.
- **`Config.ofText`**: the configuration of a text. A section may be a table of its fields, in which
  unknown keys are ignored, or an array of them in their declared order.
- **`Config.loadFrom`**, **`Config.load`**: the configuration in a file.
-/

namespace Winnow

/-- Tables to register: those of a file, a directory or a pattern. -/
structure TableEntry where
  name : Option String
  dashboard : Option String
  path : String
  deriving DecidableEq, Repr

/-- The configuration. -/
structure Config where
  level : String := "warn"
  pretty : Bool := false
  tables : List TableEntry := []
  deriving DecidableEq, Repr

namespace Config

open Toml (Value)

/-- Finds a field of a section by its key, or by its position in an array. A date or time is a
    section without known fields; other values are no section. -/
def field? (key : String) (position : Nat) : Value → Option (Option Value)
  | .table entries => some ((entries.find? fun entry => entry.1 = key).map (·.2))
  | .array items => some items[position]?
  | .scalar (.dateTime ..) => some none
  | _ => none

/-- Reads a string. -/
def string? : Value → Option String
  | .string s => some s
  | _ => none

/-- Reads a boolean. -/
def boolean? : Value → Option Bool
  | .scalar (.boolean b) => some b
  | _ => none

/-- Reads a field that has a default. -/
def orDefault {α : Type} (standard : α) (read : Value → Option α) : Option Value → Option α
  | none => some standard
  | some v => read v

/-- Reads the section of the log. -/
def level? (v : Value) : Option String := do
  orDefault "warn" string? (← field? "level" 0 v)

/-- Reads the section of the output. -/
def pretty? (v : Value) : Option Bool := do
  orDefault false boolean? (← field? "pretty" 0 v)

/-- Reads the tables to register. -/
def tableEntry? (v : Value) : Option TableEntry := do
  let name ← orDefault none (fun v => (string? v).map some) (← field? "name" 0 v)
  let dashboard ← orDefault none (fun v => (string? v).map some) (← field? "dashboard" 1 v)
  let path ← string? (← (← field? "path" 2 v))
  return ⟨name, dashboard, path⟩

/-- Reads entries one after the other. -/
def tableEntries? : List Value → Option (List TableEntry)
  | [] => some []
  | v :: rest => do
    let entry ← tableEntry? v
    let entries ← tableEntries? rest
    return entry :: entries

/-- Reads the list of tables. -/
def tables? : Value → Option (List TableEntry)
  | .array items => tableEntries? items
  | _ => none

/-- Reads the whole configuration. -/
def ofValue? (v : Value) : Option Config := do
  let level ← orDefault "warn" level? (← field? "logging" 0 v)
  let pretty ← orDefault false pretty? (← field? "output" 1 v)
  let tables ← orDefault [] tables? (← field? "tables" 2 v)
  return { level, pretty, tables }

/-- The configuration of a text. -/
def ofText (text : String) : Except Error Config :=
  match (Toml.parse? text).bind ofValue? with
  | some config => .ok config
  | none => .error (.config .unreadable)

/-- The configuration in a file, which must be there. -/
def loadFrom (files : Files) (path : String) : Except Error Config :=
  match files.readText path with
  | .ok text => ofText text
  | .error fault => .error (.io fault)

/-- The settings of the environment that say where the configuration is. -/
structure Environment where
  configPath : Option String := none
  configHome : Option String := none
  home : Option String := none
  deriving DecidableEq, Repr

/-- The directory of configurations: a path from the root that the environment names, or the
    standard one below the home directory. -/
def configDirectory (env : Environment) : String :=
  match env.configHome.filter Path.isAbsolute with
  | some path => path
  | none =>
    match env.home.filter (· != "") with
    | some home => Path.join home ".config"
    | none => "."

/-- The path of the configuration that the environment names, or the standard one. -/
def path (env : Environment) : String :=
  match env.configPath with
  | some path => path
  | none => Path.join (Path.join (configDirectory env) "rowsift") "config.toml"

/-- The configuration of the environment; without a file it is the default. -/
def load (files : Files) (env : Environment) : Except Error Config :=
  if files.holds (path env) then loadFrom files (path env) else .ok {}

end Config

end Winnow
