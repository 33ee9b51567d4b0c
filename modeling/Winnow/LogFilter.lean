import Winnow.LogFilter.Directive

/-!
# `Winnow.LogFilter` — which events reach the log

A log filter is a list of directives between commas. Of the directives that concern an event, the
most specific one decides; an event that none concerns is not let through.

## Contents
- **`LogFilter.parse`**, **`LogFilter.ofSetting`**: strict and lenient reading.
- **`LogFilter.allows`**.
-/

namespace Winnow

/-- Directives in the order in which they are given. -/
structure LogFilter where
  directives : List Directive
  deriving DecidableEq, Repr

namespace LogFilter

/-- Whether an event is let through. -/
def allows (filter : LogFilter) (event : Event) : Bool :=
  match (filter.directives.filter (·.concerns event)).foldl Directive.moreSpecific none with
  | some d => d.verbosity.allows event.level
  | none => false

/-- The directives of a text, as they are written. Nothing between two commas is no directive. -/
def written (text : String) : List String := (text.splitOn ",").filter (· != "")

/-- Reads directives one after the other. -/
def parseAll : List String → Except DirectiveFault (List Directive)
  | [] => .ok []
  | text :: rest => do
    let directive ← Directive.parse text
    let directives ← parseAll rest
    return directive :: directives

/-- The strict reading: every directive must be understood. Without any nothing is let through. -/
def parse (text : String) : Except DirectiveFault LogFilter :=
  (parseAll (written text)).map (⟨·⟩)

/-- What a lenient reading says of a directive that it leaves out. -/
def complaint (text : String) (fault : DirectiveFault) : String :=
  "ignoring \x60" ++ text ++ "\x60: " ++ fault.message

/-- Reads directives and leaves out those that are not understood, with a complaint for each. -/
def parseSome : List String → List Directive × List String
  | [] => ([], [])
  | text :: rest =>
    let (directives, complaints) := parseSome rest
    match Directive.parse text with
    | .ok directive => (directive :: directives, complaints)
    | .error fault => (directives, complaint text fault :: complaints)

/-- The lenient reading, with its complaints. Without any directive errors are let through. -/
def ofSetting (text : String) : LogFilter × List String :=
  let (directives, complaints) := parseSome (written text)
  (⟨if directives.isEmpty then [{ verbosity := some .error }] else directives⟩, complaints)

end LogFilter

end Winnow
