import Winnow.Files.Tree

/-!
# `Winnow.Session` — what requests see and leave behind

A request may read files, pull rows from live sources and write to the log. All of it goes through
one session value, so that a request is a function of it.

## Contents
- **`Event`**: the lines of the log, with **`Level`** and text.
- **`Session`**, **`Steps`**, **`Action`**: the state and the requests on it.
- **`Action.report`**, **`Action.ofExcept`**.
-/

namespace Winnow

/-- How serious an event is, from failures down to details. -/
inductive Level where
  | error
  | warn
  | info
  | debug
  | trace
  deriving DecidableEq, Repr

/-- The name of a level in the log. -/
def Level.name : Level → String
  | .error => "ERROR"
  | .warn => "WARN"
  | .info => "INFO"
  | .debug => "DEBUG"
  | .trace => "TRACE"

/-- The place of a level, failures first. -/
def Level.rank : Level → Nat
  | .error => 1
  | .warn => 2
  | .info => 3
  | .debug => 4
  | .trace => 5

/-- The requests that are logged when they fail. -/
inductive Request where
  | filteredRows
  | allValues
  | numericSpec
  deriving DecidableEq, Repr

/-- The name of a request in the log. -/
def Request.name : Request → String
  | .filteredRows => "filtered_rows"
  | .allValues => "all_values"
  | .numericSpec => "numeric_spec"

/-- What is written to the log. -/
inductive Event where
  | tableRegistered (key : TableKey) (columns : Nat)
  | filterApplied (rows matched : Nat)
  | requestFailed (request : Request) (error : Error)
  | noTablesMatched (path : String)
  deriving Repr

namespace Event

/-- A request that fails by its own fault is a warning, any other failure an error. -/
def level : Event → Level
  | tableRegistered .. => .info
  | filterApplied .. => .debug
  | requestFailed _ e => if e.isClientError then .warn else .error
  | noTablesMatched _ => .warn

/-- The fields of an event with their texts; fixed words are quoted, other texts bare. -/
def fields : Event → List (String × String)
  | tableRegistered key columns =>
    [("event", "\"table_registered\""), ("key", key.text), ("columns", toString columns)]
  | filterApplied rows matched =>
    [("event", "\"filter_applied\""), ("rows", toString rows), ("matched", toString matched)]
  | requestFailed request e =>
    [("event", if e.isClientError then "\"request_rejected\"" else "\"request_failed\""),
      ("request", "\"" ++ request.name ++ "\""), ("error", e.message)]
  | noTablesMatched path => [("event", "\"no_tables_matched\""), ("path", path)]

/-- The part of the program that events are attributed to. -/
def target : String := "rowsift"

/-- The line of an event. -/
def line (e : Event) : String :=
  e.level.name ++ " " ++ target ++ ": " ++
    " ".intercalate (e.fields.map fun (name, text) => name ++ "=" ++ text)

end Event

/-- The files as they are now, the sources whose rows were pulled and the events logged, each the
    latest first. -/
structure Session where
  files : Files
  pulls : List Nat := []
  log : List Event := []
  deriving Repr

/-- Steps on a session that may fail with an `ε`. What they pulled and logged stays, also when they
    fail. -/
abbrev Steps (ε : Type) := ExceptT ε (StateM Session)

/-- A request on a session, which fails with an error of the library. -/
abbrev Action := ExceptT Error (StateM Session)

namespace Action

/-- Writes an event to the log. -/
def report (event : Event) : Action Unit :=
  modify fun session => { session with log := event :: session.log }

/-- A result that does not depend on the session. -/
def ofExcept {α : Type} : Except Error α → Action α
  | .ok x => pure x
  | .error e => throw e

/-- The files as they are now. -/
def files : Action Files := do return (← get).files

/-- Runs an action; a failure is logged under the name of the request. -/
def logged {α : Type} (request : Request) (action : Action α) : Action α :=
  tryCatch action fun e => do
    report (.requestFailed request e)
    throw e

/-- The result of an action on a session and the session that it leaves. -/
def runOn {α : Type} (action : Action α) (session : Session) : Except Error α × Session :=
  action.run.run session

end Action

end Winnow
