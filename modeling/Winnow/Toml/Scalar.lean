import Winnow.Floating.Double

/-!
# `Winnow.Toml.Scalar` — strings, numbers and dates of configuration texts

Readers take the characters still to be read and give what they read with the characters behind it,
or nothing.

## Contents
- **`isTextChar`**, **`skipBlanks`**, **`newline?`**, **`lineEnd?`**: characters and lines.
- **`readString?`**: the four kinds of strings.
- **`Scalar`**, **`readPlain?`**: numbers, booleans, dates and times.
-/

namespace Winnow.Toml

/-- What a reader yields: a result and the characters behind it. -/
abbrev Reading (α : Type) := Option (α × List Char)

/-- A space or a tab. -/
def isBlank (c : Char) : Bool := c = ' ' || c = '\t'

/-- A character that may stand in a comment or a string: no control character but the tab. -/
def isTextChar (c : Char) : Bool := c = '\t' || (0x20 ≤ c.toNat && c.toNat != 0x7f)

/-- Skips blanks. -/
def skipBlanks (cs : List Char) : List Char := cs.dropWhile isBlank

/-- The characters behind a line break. -/
def newline? : List Char → Option (List Char)
  | '\n' :: rest => some rest
  | '\r' :: '\n' :: rest => some rest
  | _ => none

/-- Skips blanks and a comment up to the end of the line, and the line break if there is one. -/
def lineEnd? (cs : List Char) : Option (List Char) :=
  let cs := match skipBlanks cs with
    | '#' :: rest => rest.dropWhile isTextChar
    | rest => rest
  if cs.isEmpty then some [] else newline? cs

/-! ## Strings -/

/-- The value of a hexadecimal digit. -/
def hexDigit? (c : Char) : Option Nat :=
  if c.isDigit then some (c.toNat - '0'.toNat)
  else if 'a' ≤ c && c ≤ 'f' then some (c.toNat - 'a'.toNat + 10)
  else if 'A' ≤ c && c ≤ 'F' then some (c.toNat - 'A'.toNat + 10)
  else none

/-- The number of hexadecimal digits, all of which must be digits. -/
def hexValue? (digits : List Char) : Option Nat :=
  digits.foldl (fun value c => do return 16 * (← value) + (← hexDigit? c)) (some 0)

/-- Reads the code point of an escape with a number of digits; surrogates are none. -/
def readCodePoint? (count : Nat) (cs : List Char) : Reading Char :=
  let digits := cs.take count
  if digits.length = count then
    match hexValue? digits with
    | some n =>
      if n < 0xd800 ∨ (0xdfff < n ∧ n < 0x110000) then some (Char.ofNat n, cs.drop count) else none
    | none => none
  else none

/-- Reads an escape behind its backslash. -/
def readEscape? : List Char → Reading Char
  | 'b' :: rest => some ('\x08', rest)
  | 't' :: rest => some ('\t', rest)
  | 'n' :: rest => some ('\n', rest)
  | 'f' :: rest => some ('\x0c', rest)
  | 'r' :: rest => some ('\r', rest)
  | '"' :: rest => some ('"', rest)
  | '\\' :: rest => some ('\\', rest)
  | 'u' :: rest => readCodePoint? 4 rest
  | 'U' :: rest => readCodePoint? 8 rest
  | _ => none

/-- Reads a string of one line behind its opening quote; with `escapes` it is ended by a double
    quote, else by a single one. `read` holds the characters before, the last one first. -/
def readLine? (escapes : Bool) : Nat → List Char → List Char → Reading String
  | 0, _, _ => none
  | _ + 1, _, [] => none
  | fuel + 1, read, c :: rest =>
    if c = (if escapes then '"' else '\'') then some (String.ofList read.reverse, rest)
    else if escapes && c = '\\' then
      match readEscape? rest with
      | some (e, rest) => readLine? escapes fuel (e :: read) rest
      | none => none
    else if isTextChar c then readLine? escapes fuel (c :: read) rest
    else none

/-- Skips the line breaks and blanks behind a backslash at the end of a line. -/
def skipContinuation? (cs : List Char) : Option (List Char) :=
  match newline? (skipBlanks cs) with
  | some rest =>
    let blank := rest.takeWhile fun c => isBlank c || c = '\n' || c = '\r'
    if hasLoneReturn blank then none else some (rest.drop blank.length)
  | none => none
where
  /-- Whether a carriage return stands without a line feed. -/
  hasLoneReturn : List Char → Bool
    | '\r' :: '\n' :: rest => hasLoneReturn rest
    | '\r' :: _ => true
    | _ :: rest => hasLoneReturn rest
    | [] => false

/-- Reads a string of several lines behind its opening quotes. Up to two quotes may stand directly
    before the three that end it. -/
def readLines? (escapes : Bool) : Nat → List Char → List Char → Reading String
  | 0, _, _ => none
  | _ + 1, _, [] => none
  | fuel + 1, read, c :: rest =>
    let quote := if escapes then '"' else '\''
    if c = quote then
      let count := 1 + (rest.takeWhile (· = quote)).length
      let behind := rest.dropWhile (· = quote)
      if count < 3 then readLines? escapes fuel (List.replicate count quote ++ read) behind
      else if count ≤ 5 then
        some (String.ofList (List.replicate (count - 3) quote ++ read).reverse, behind)
      else none
    else if escapes && c = '\\' then
      match readEscape? rest with
      | some (e, rest) => readLines? escapes fuel (e :: read) rest
      | none =>
        match skipContinuation? rest with
        | some rest => readLines? escapes fuel read rest
        | none => none
    else if isTextChar c then readLines? escapes fuel (c :: read) rest
    else
      match newline? (c :: rest) with
      | some rest => readLines? escapes fuel ('\n' :: read) rest
      | none => none

/-- A line break directly behind the opening quotes does not count. -/
def skipFirstBreak (cs : List Char) : List Char := (newline? cs).getD cs

/-- Reads a string of any kind. -/
def readString? (cs : List Char) : Reading String :=
  match cs with
  | '"' :: '"' :: '"' :: rest => readLines? true (rest.length + 1) [] (skipFirstBreak rest)
  | '\'' :: '\'' :: '\'' :: rest => readLines? false (rest.length + 1) [] (skipFirstBreak rest)
  | '"' :: rest => readLine? true (rest.length + 1) [] rest
  | '\'' :: rest => readLine? false (rest.length + 1) [] rest
  | _ => none

/-! ## Numbers -/

/-- Values that are written without quotes or brackets. -/
inductive Scalar where
  | integer (value : Int)
  | float (value : Double)
  | boolean (value : Bool)
  | dateTime (text : String)
  deriving DecidableEq, Repr

/-- Digits with single underscores between them, without the underscores. -/
def digits? (isDigit : Char → Bool) : List Char → Option (List Char)
  | [] => none
  | [c] => if isDigit c then some [c] else none
  | c :: '_' :: rest => if isDigit c then (digits? isDigit rest).map (c :: ·) else none
  | c :: rest => if isDigit c then (digits? isDigit rest).map (c :: ·) else none

/-- The number that decimal digits write. -/
def decimalValue (digits : List Char) : Nat :=
  digits.foldl (fun value c => 10 * value + (c.toNat - '0'.toNat)) 0

/-- A sign and the characters behind it. -/
def splitSign : List Char → Bool × List Char
  | '-' :: rest => (true, rest)
  | '+' :: rest => (false, rest)
  | cs => (false, cs)

/-- Decimal digits without a leading zero. -/
def plainDigits? (cs : List Char) : Option (List Char) :=
  match digits? Char.isDigit cs with
  | some ('0' :: _ :: _) => none
  | found => found

/-- The value of digits in another base. -/
def basedValue? (base : Nat) (cs : List Char) : Option Nat :=
  let isDigit (c : Char) : Bool :=
    match hexDigit? c with
    | some d => d < base
    | none => false
  (digits? isDigit cs).map fun digits =>
    digits.foldl (fun value c => base * value + (hexDigit? c).getD 0) 0

/-- An integer of 64 bits, in decimal or in another base. -/
def integer? (cs : List Char) : Option Int :=
  let value : Option Int :=
    match cs with
    | '0' :: 'x' :: rest => (basedValue? 16 rest).map Int.ofNat
    | '0' :: 'o' :: rest => (basedValue? 8 rest).map Int.ofNat
    | '0' :: 'b' :: rest => (basedValue? 2 rest).map Int.ofNat
    | _ =>
      let (negative, rest) := splitSign cs
      (plainDigits? rest).map fun digits =>
        if negative then -(decimalValue digits : Int) else decimalValue digits
  value.filter fun i => -0x8000000000000000 ≤ i && i < 0x8000000000000000

/-- The exponent behind its letter. -/
def exponent? (cs : List Char) : Option Int :=
  let (negative, rest) := splitSign cs
  (digits? Char.isDigit rest).map fun digits =>
    if negative then -(decimalValue digits : Int) else decimalValue digits

/-- A number with a fraction, an exponent or both. Only the positive ones can be too large. -/
def float? (cs : List Char) : Option Double :=
  let (negative, body) := splitSign cs
  if body = ['i', 'n', 'f'] then some (Double.infinite negative)
  else if body = ['n', 'a', 'n'] then some (if negative then Double.nan.neg else Double.nan)
  else
    let isMark (c : Char) : Bool := c = 'e' || c = 'E'
    let mantissa := body.takeWhile fun c => !isMark c
    let exponent : Option Int :=
      match body.drop mantissa.length with
      | [] => some 0
      | _ :: rest => exponent? rest
    let wholeDigits := plainDigits? (mantissa.takeWhile (· != '.'))
    let fraction : Option (List Char) :=
      match mantissa.dropWhile (· != '.') with
      | [] => if mantissa.length < body.length then some [] else none
      | _ :: rest => digits? Char.isDigit rest
    match wholeDigits, fraction, exponent with
    | some whole, some fraction, some e =>
      let x := Double.ofDecimal negative (decimalValue (whole ++ fraction)) (e - fraction.length)
      if x.isFinite || negative then some x else none
    | _, _, _ => none

/-! ## Dates and times -/

/-- A number of exactly so many digits within bounds, and what is behind it. -/
def fixed? (count low high : Nat) (cs : List Char) : Reading Nat :=
  let digits := cs.take count
  if digits.length = count ∧ digits.all Char.isDigit = true then
    let value := decimalValue digits
    if low ≤ value ∧ value ≤ high then some (value, cs.drop count) else none
  else none

/-- The characters behind an expected one. -/
def expect? (c : Char) : List Char → Option (List Char)
  | d :: rest => if c = d then some rest else none
  | [] => none

/-- The days of a month. -/
def monthDays (year month : Nat) : Nat :=
  if month = 2 then
    if year % 4 = 0 ∧ (year % 100 ≠ 0 ∨ year % 400 = 0) then 29 else 28
  else if month = 4 ∨ month = 6 ∨ month = 9 ∨ month = 11 then 30 else 31

/-- The characters behind a date. -/
def date? (cs : List Char) : Option (List Char) := do
  let (year, cs) ← fixed? 4 0 9999 cs
  let (month, cs) ← fixed? 2 1 12 (← expect? '-' cs)
  let (_, cs) ← fixed? 2 1 (monthDays year month) (← expect? '-' cs)
  return cs

/-- The characters behind a time of day; the sixtieth second may be a leap second. -/
def time? (cs : List Char) : Option (List Char) := do
  let (_, cs) ← fixed? 2 0 23 cs
  let (_, cs) ← fixed? 2 0 59 (← expect? ':' cs)
  let (_, cs) ← fixed? 2 0 60 (← expect? ':' cs)
  match cs with
  | '.' :: rest =>
    if (rest.takeWhile Char.isDigit).isEmpty then none else some (rest.dropWhile Char.isDigit)
  | cs => some cs

/-- The characters behind an offset, if there is one. -/
def offset? : List Char → Option (List Char)
  | [] => some []
  | c :: rest =>
    if c = 'Z' || c = 'z' then some rest
    else if c = '+' || c = '-' then do
      let (_, cs) ← fixed? 2 0 23 rest
      let (_, cs) ← fixed? 2 0 59 (← expect? ':' cs)
      return cs
    else some (c :: rest)

/-- Whether characters are a date, a time, or both with or without an offset. -/
def isDateTime (cs : List Char) : Bool :=
  match date? cs with
  | some [] => true
  | some (c :: rest) =>
    (c = 'T' || c = 't' || c = ' ') && ((time? rest).bind offset?) = some []
  | none => time? cs = some []

/-- A character of a number, a boolean, a date or a time. -/
def isPlainChar (c : Char) : Bool :=
  c.isAlphanum || c = '+' || c = '-' || c = '_' || c = '.' || c = ':'

/-- The value that characters write. -/
def scalar? (cs : List Char) : Option Scalar :=
  if cs = ['t', 'r', 'u', 'e'] then some (.boolean true)
  else if cs = ['f', 'a', 'l', 's', 'e'] then some (.boolean false)
  else if isDateTime cs then some (.dateTime (String.ofList cs))
  else match integer? cs with
    | some i => some (.integer i)
    | none => (float? cs).map .float

/-- Reads a value without quotes or brackets. A time may follow its date behind a space. -/
def readPlain? (cs : List Char) : Reading Scalar :=
  let token := cs.takeWhile isPlainChar
  let rest := cs.drop token.length
  let (token, rest) :=
    match rest with
    | ' ' :: h₁ :: h₂ :: ':' :: behind =>
      if date? token = some [] ∧ h₁.isDigit = true ∧ h₂.isDigit = true then
        let time := (h₁ :: h₂ :: ':' :: behind).takeWhile isPlainChar
        (token ++ ' ' :: time, rest.drop (time.length + 1))
      else (token, rest)
    | _ => (token, rest)
  (scalar? token).map (·, rest)

end Winnow.Toml
