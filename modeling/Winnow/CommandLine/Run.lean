import Winnow.CommandLine.Failure
import Winnow.CommandLine.Help
import Winnow.Config
import Winnow.Loading
import Winnow.LogFilter

/-!
# `Winnow.CommandLine.Run` — running a command

The program reads its configuration, registers the tables of the configuration and then those of
the command line, and answers one request. Nothing is printed until the answer is complete.

## Contents
- **`Job`**: steps that may fail.
- **`register`**: tables registered from the files that entries name.
- **`Answer`**, **`answer`**: the answer to a command, with any sort.
- **`Surroundings`**, **`Outcome`**, **`run`**, **`respond`**: the whole program on its files.
-/

namespace Winnow

/-- Steps of the program on a session, each of which may fail. -/
abbrev Job := ExceptT Failure (StateM Session)

namespace Job

/-- An action of the library as a step. -/
def ofAction {α : Type} (action : Action α) : Job α := action.adapt Failure.error

/-- A result of the library as a step. -/
def ofExcept {α : Type} (result : Except Error α) : Job α := ofAction (Action.ofExcept result)

end Job

namespace CommandLine

/-! ## Registering tables -/

/-- Registered tables and the number of sources opened for them, which numbers the next one. -/
structure Loaded where
  registry : Registry := .empty
  opened : Nat := 0

/-- Registers the table of a file, under the name of the entry or its own. -/
def registerFile (entry : TableEntry) (loaded : Loaded) (path : String) : Job Loaded := do
  let table ← match openTable loaded.opened (← get).files path with
    | .ok table => pure table
    | .error e => throw (.loading path e)
  let registry ← Job.ofAction
    (loaded.registry.register (entry.name.getD table.name) entry.dashboard table.source)
  return ⟨registry, loaded.opened + 1⟩

/-- Registers the tables of an entry. An entry without files is reported; only an entry with one
    file may have a name. -/
def registerEntry (loaded : Loaded) (entry : TableEntry) : Job Loaded := do
  let paths ← Job.ofExcept (Discovery.resolve (← get).files entry.path)
  if paths.isEmpty then Job.ofAction (Action.report (.noTablesMatched entry.path))
  if entry.name.isSome && 1 < paths.length then
    throw (.error (.config (.nameForMany entry.path paths.length)))
  paths.foldlM (registerFile entry) loaded

/-- Registers the tables of entries, in order. -/
def register (entries : List TableEntry) : Job Registry := do
  return (← entries.foldlM registerEntry {}).registry

/-- The entries of an invocation: those of the configuration, then one for each path loaded. -/
def entries (config : Config) (invocation : Invocation) : List TableEntry :=
  config.tables ++ invocation.load.map fun path => ⟨none, invocation.loadDashboard, path⟩

/-! ## Answers -/

/-- What a command prints. -/
inductive Answer where
  | tree (tree : Json)
  | valid

/-- The text of an answer. -/
def Answer.text (pretty : Bool) : Answer → String
  | .tree t => if pretty then t.pretty else t.compact
  | .valid => "valid"

/-- The listing of a table. -/
def listing (key : TableKey) (schema : Schema) : Json :=
  .object [("table", .string key.table), ("dashboard", (key.dashboard.map .string).getD .null),
    ("columns", schema.toJson)]

/-- The text of a specification. -/
def specText : Option SpecArgument → Job (Option String)
  | none => return none
  | some (.inline text) => return some text
  | some (.file path) => do
    match (← get).files.readText path with
    | .ok text => return some text
    | .error fault => throw (.reading path fault)

/-- Checks the text of a specification. -/
def validateText : Option String → Except Error Unit
  | none => .error (.badRequest .specMissing)
  | some text =>
    match Json.parse text with
    | .ok tree => Spec.validate tree
    | .error e => .error (.badRequest (.badSpec text e))

/-- Sorting in the program: where the sort does not return, the program stops. -/
def sortingOf (sorter : Sorter) : Sorting Failure where
  ofError := Failure.error
  error? := Failure.error?
  sort cells :=
    match sorter.sort cells with
    | some sorted => .ok sorted
    | none => .error .stopped

/-- The answer to a command. -/
def answer (registry : Registry) (command : Command) (sorter : Sorter := .stable) : Job Answer :=
  match command with
  | .tables => return .tree (.array (registry.tables.map fun (key, schema) => listing key schema))
  | .filter table dashboard spec => do
    let text ← specText spec
    return .tree (rowsJson (← Job.ofAction (registry.filteredRows table dashboard text)))
  | .values column table dashboard => do
    return .tree (cellsJson (← registry.allValuesBy (sortingOf sorter) column table dashboard))
  | .numericSpec column table dashboard => do
    return .tree (← registry.numericSpecBy (sortingOf sorter) column table dashboard).toJson
  | .validate spec => do
    Job.ofExcept (validateText (← specText spec))
    return .valid

/-! ## The program -/

/-- What the program finds around it: the files, and settings of the environment. -/
structure Surroundings where
  files : Files
  environment : Config.Environment := {}
  /-- The setting for the log filter. -/
  log : Option String := none
  /-- The name by which the program is called. -/
  calledAs : String := programName

/-- What the program prints and its exit status. -/
structure Outcome where
  status : Nat
  output : List String
  messages : List String
  deriving DecidableEq, Repr

/-- The configuration of an invocation. -/
def configOf (around : Surroundings) (invocation : Invocation) : Except Error Config :=
  match invocation.config with
  | some path => Config.loadFrom around.files path
  | none => Config.load around.files around.environment

/-- The log filter with the complaints about it. The setting of the environment counts if it is
    understood, otherwise the configuration. -/
def logFilter (around : Surroundings) (config : Config) : LogFilter × List String :=
  match around.log.map LogFilter.parse with
  | some (.ok filter) => (filter, [])
  | _ => LogFilter.ofSetting config.level

/-- Runs an invocation, with the sort that the program is built with. -/
def run (around : Surroundings) (invocation : Invocation) (sorter : Sorter := .stable) : Outcome :=
  match configOf around invocation with
  | .error e => ⟨(Failure.error e).status, [], [(Failure.error e).text]⟩
  | .ok config =>
    let (filter, complaints) := logFilter around config
    let job : Job Answer := do
      answer (← register (entries config invocation)) invocation.command sorter
    let (result, session) := job.run.run { files := around.files }
    let log := (session.log.reverse.filter filter.allows).map Event.line
    match result with
    | .ok found =>
      ⟨0, [found.text (invocation.pretty || config.pretty)], complaints ++ log⟩
    | .error failure => ⟨failure.status, [], complaints ++ log ++ [failure.text]⟩

/-- What the program does on a command line. -/
def respond (around : Surroundings) (words : List String) (sorter : Sorter := .stable) : Outcome :=
  match parse words with
  | .invoke invocation => run around invocation sorter
  | .help command => ⟨0, helpLines around.calledAs command, []⟩
  | .version => ⟨0, [versionLine], []⟩
  | .refused =>
    ⟨2, [], ["error: the command line is not understood", "", usageLine around.calledAs none]⟩

end CommandLine

end Winnow
