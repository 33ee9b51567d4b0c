import Winnow.Session

/-!
# `Winnow.CommandLine.Failure` — how the program fails

A failure of the program is an error of the library, perhaps with what was being done, a file of a
specification that cannot be read, or a sort that does not return. A request that is at fault itself
is told apart from all else by the exit status.

## Contents
- **`Failure`**, its text and its exit status.
-/

namespace Winnow

/-- Why the program fails. -/
inductive Failure where
  | error (e : Error)
  /-- A table file that cannot be opened. -/
  | loading (path : String) (e : Error)
  /-- A file of a specification that cannot be read. -/
  | reading (path : String) (fault : FileFault)
  /-- A sort has stopped the program, because its cells are in no order. -/
  | stopped
  deriving Repr

/-- The message of the fault that an error passes on, if it passes one on. -/
def Error.cause? : Error → Option String
  | io fault => some fault.message
  | json e => some e.message
  | _ => none

/-- The message of an error, followed by that of its cause. -/
def Error.chain (e : Error) : String :=
  match e.cause? with
  | some cause => e.message ++ ": " ++ cause
  | none => e.message

namespace Failure

/-- The error of the library behind a failure. -/
def error? : Failure → Option Error
  | error e => some e
  | loading _ e => some e
  | reading .. | stopped => none

/-- The error of a request that is at fault itself. -/
def clientError? (failure : Failure) : Option Error :=
  failure.error?.filter (·.isClientError)

/-- A failure from the outside in: what was being done, the error and its cause. -/
def chain : Failure → String
  | error e => e.chain
  | loading path e => "loading " ++ path ++ ": " ++ e.chain
  | reading path fault => "reading " ++ path ++ ": " ++ fault.message
  | stopped => "user-provided comparison function does not correctly implement a total order"

/-- The text that is shown for a failure. Of a request at fault only the error itself is shown, and
    what stops the program speaks for itself. -/
def text (failure : Failure) : String :=
  match failure.clientError? with
  | some e => e.message
  | none =>
    match failure with
    | stopped => failure.chain
    | _ => "error: " ++ failure.chain

/-- The exit status of a failure. -/
def status (failure : Failure) : Nat :=
  match failure with
  | stopped => 101
  | _ => if failure.clientError?.isSome then 2 else 1

end Failure

end Winnow
