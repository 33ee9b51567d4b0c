import Winnow.Column
import Winnow.Json.Shape
import Winnow.Spec.Basic
import Winnow.TableKey

/-!
# `Winnow.Error` — errors by cause

Every failure of the library is one of these causes. A cause keeps what it was found on; its wording
is derived here and nowhere else.

## Contents
- **`FileFault`**, **`TypeFault`**, **`RequestFault`**, **`ConfigFault`**: the finer causes.
- **`Error`**, **`Error.message`**.
- **`Error.isClientError`**: causes that lie in the request or the data it names.
-/

namespace Winnow

/-- Why a file or a row supply could not be read. -/
inductive FileFault where
  | notFound
  | notDirectory
  | isDirectory
  | notUtf8
  | noDevice
  | notConnected
  | nameTooLong
  | nulInPath
  /-- A fault that a row supply reports in its own words. -/
  | reported (text : String)
  deriving DecidableEq, Repr

/-- The wording of a file fault. -/
def FileFault.message : FileFault → String
  | .notFound => "No such file or directory (os error 2)"
  | .notDirectory => "Not a directory (os error 20)"
  | .isDirectory => "Is a directory (os error 21)"
  | .notUtf8 => "stream did not contain valid UTF-8"
  | .noDevice => "No such device (os error 19)"
  | .notConnected => "No such device or address (os error 6)"
  | .nameTooLong => "File name too long (os error 36)"
  | .nulInPath => "file name contained an unexpected NUL byte"
  | .reported text => text

/-- Something that has another type than it must have. -/
inductive TypeFault where
  | specNotObject (found : Json.Kind)
  | argumentsNotList (op : Operator) (found : Json.Kind)
  | columnNotRef (op : Operator) (found : Json.Kind)
  | valuesNotList (found : Json.Kind)
  | boundNotNumber (field : String) (found : Json.Kind)
  | rowLength (row length expected : Nat)
  | cellType (row : Nat) (column : Column) (cell : Cell)
  | columnNotNumber (name : String) (type : ColumnType)
  | notObject (context : String)
  | tableNameNotString
  | schemaChanged (path : String)
  deriving DecidableEq, Repr

/-- The wording of a type fault. -/
def TypeFault.message : TypeFault → String
  | .specNotObject found => "filter spec must be an object, not " ++ found.name
  | .argumentsNotList op found =>
    "The arguments field for " ++ op.token ++ " must be a list, not " ++ found.name
  | .columnNotRef op found =>
    "The column argument to " ++ op.token ++ " must be a string or an int, not " ++ found.name
  | .valuesNotList found => "The values argument to IN_LIST must be a list, not " ++ found.name
  | .boundNotNumber field found =>
    "The type of " ++ field ++ " for IN_RANGE must be a number, not " ++ found.name
  | .rowLength row length expected =>
    "All rows must have length " ++ toString expected ++ ", row " ++ toString row ++
      " has length " ++ toString length
  | .cellType row column cell =>
    "row " ++ toString row ++ ": column " ++ column.name ++ " is of type " ++ column.type.name ++
      ", found " ++ cell.described
  | .columnNotNumber name type => "The type of " ++ name ++ " must be number, not " ++ type.name
  | .notObject context => context ++ " must be an object"
  | .tableNameNotString => "table name must be a string"
  | .schemaChanged path => "schema of " ++ path ++ " changed since it was loaded"

/-- A request that cannot be answered as it stands. -/
inductive RequestFault where
  | tableNameMissing
  | badSpec (text : String) (error : Json.SyntaxError)
  | noSuchColumn (name : String)
  | noNumericColumn (name : String)
  | tooManyRows
  | specMissing
  deriving DecidableEq, Repr

/-- The highest row position that a set of rows can hold. -/
def maxRowId : Nat := 0xffffffff

/-- The wording of a request fault. -/
def RequestFault.message : RequestFault → String
  | .tableNameMissing => "table_name must be supplied"
  | .badSpec text error => "Bad Filter Specification: " ++ text ++ ".  Error " ++ error.message
  | .noSuchColumn name => "found no columns of name " ++ name
  | .noNumericColumn name => "found no numeric columns of name " ++ name
  | .tooManyRows => "cannot filter more than " ++ toString maxRowId ++ " rows"
  | .specMissing => "one of --spec or --spec-file is required"

/-- Why a path pattern is refused, with the position of the fault. -/
inductive PatternFault where
  | wildcardRun (position : Nat)
  | partialRecursive (position : Nat)
  | invalidRange (position : Nat)
  deriving DecidableEq, Repr

/-- The wording of a pattern fault. -/
def PatternFault.message (fault : PatternFault) : String :=
  let (position, text) : Nat × String :=
    match fault with
    | .wildcardRun position =>
      (position, "wildcards are either regular \x60*\x60 or recursive \x60**\x60")
    | .partialRecursive position =>
      (position, "recursive wildcards must form a single path component")
    | .invalidRange position => (position, "invalid range pattern")
  "Pattern syntax error near position " ++ toString position ++ ": " ++ text

/-- A configuration that cannot be used. -/
inductive ConfigFault where
  /-- The text of the configuration is not understood. -/
  | unreadable
  | badPattern (pattern : String) (fault : PatternFault)
  | notTable (path : String)
  | nameForMany (path : String) (count : Nat)
  deriving DecidableEq, Repr

/-- The wording of a configuration fault. -/
def ConfigFault.message : ConfigFault → String
  | .unreadable => "TOML parse error"
  | .badPattern pattern fault => "bad table pattern " ++ pattern ++ ": " ++ fault.message
  | .notTable path => path ++ " is not a .json or .parquet table"
  | .nameForMany path count =>
    path ++ " matches " ++ toString count ++ " files; name may only be set for a single table"

/-- Every failure of the library. -/
inductive Error where
  | io (fault : FileFault)
  | json (error : Json.DecodeError)
  /-- The bytes of a columnar file are not understood. -/
  | badColumnFile
  /-- A value of a columnar file cannot be displayed. -/
  | noDisplay
  | config (fault : ConfigFault)
  | typeMismatch (fault : TypeFault)
  | missingOperator (spec : Json)
  | unknownOperator (operator : Json)
  | missingFields (context : String) (missing : List String)
  | invalidValues (values : List Json)
  | unknownColumn (name : String)
  | badData (column : String)
  | tooFewValues (column : String)
  | incomparable (left right : Cell)
  | rowShape (row length column : Nat)
  | unknownTable (key : TableKey)
  | noTables (dashboard : Option String)
  | badRequest (fault : RequestFault)
  deriving Repr

namespace Error

/-- How a message shows an operator that is none: a string bare, anything else as its text. -/
def operatorText : Json → String
  | .string s => s
  | other => other.compact

/-- The wording of an error. -/
def message : Error → String
  | io fault => "IO error: " ++ fault.message
  | json e => "JSON error: " ++ e.message
  | badColumnFile => "Parquet error"
  | noDisplay => "Arrow error"
  | config fault => "Config error: " ++ fault.message
  | typeMismatch fault => fault.message
  | missingOperator spec => "There is no operator in " ++ spec.compact
  | unknownOperator operator =>
    operatorText operator ++ " is not a valid operator. Valid operators are \x7b" ++
      ", ".intercalate (Operator.everyOne.map (·.token)) ++ "\x7d"
  | missingFields context missing =>
    context ++ " is missing required fields " ++ ", ".intercalate missing
  | invalidValues values =>
    "Invalid values " ++ ", ".intercalate (values.map (·.compact)) ++ " for IN_LIST"
  | unknownColumn name => name ++ " is not a valid column"
  | badData column => "Bad data in column " ++ column
  | tooFewValues column =>
    "column " ++ column ++ " needs at least two distinct values to compute an increment"
  | incomparable left right => "cannot compare " ++ left.described ++ " with " ++ right.described
  | rowShape row length column =>
    "row " ++ toString row ++ " has " ++ toString length ++
      " values, no value at column index " ++ toString column
  | unknownTable key => "No handler defined for table " ++ key.text
  | noTables none => "No tables found"
  | noTables (some dashboard) => "No tables found for " ++ dashboard
  | badRequest fault => fault.message

/-- Whether the cause lies in the request or the data it names, and not in the store behind it. -/
def isClientError : Error → Bool
  | io _ | json _ | badColumnFile | noDisplay | config _ => false
  | _ => true

end Error

end Winnow
