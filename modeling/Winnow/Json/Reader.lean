import Winnow.Json.Basic

/-!
# `Winnow.Json.Reader` — reading JSON texts

A text is read byte by byte. A failure names what is wrong and the bytes that were not consumed; the
line and column are counted from there.

Decimals are read fast: of their digits those count that fit in a word, and the double is not always
the nearest one.

## Contents
- **`Fault`**, **`SyntaxError`**: what is wrong, and where.
- **`Digits`**: the digits of a number.
- **`readNumber`**, **`readString`**: the tokens with content.
- **`readValue`**: trees, at most `depthLimit` brackets deep.
- **`Json.parse`**: the tree of a whole text.
-/

namespace Winnow.Json

/-- What can be wrong with a text. -/
inductive Fault where
  | endInValue
  | endInList
  | endInObject
  | endInString
  | expectedValue
  | expectedIdent
  | expectedListCommaOrEnd
  | expectedObjectCommaOrEnd
  | expectedColon
  | keyNotString
  | trailingComma
  | trailingCharacters
  | invalidNumber
  | numberOutOfRange
  | controlCharacter
  | invalidEscape
  | loneSurrogate
  | unfinishedSurrogate
  | tooDeep
  deriving DecidableEq, Repr

/-- The message of a fault. -/
def Fault.message : Fault → String
  | .endInValue => "EOF while parsing a value"
  | .endInList => "EOF while parsing a list"
  | .endInObject => "EOF while parsing an object"
  | .endInString => "EOF while parsing a string"
  | .expectedValue => "expected value"
  | .expectedIdent => "expected ident"
  | .expectedListCommaOrEnd => "expected \x60,\x60 or \x60]\x60"
  | .expectedObjectCommaOrEnd => "expected \x60,\x60 or \x60\x7d\x60"
  | .expectedColon => "expected \x60:\x60"
  | .keyNotString => "key must be a string"
  | .trailingComma => "trailing comma"
  | .trailingCharacters => "trailing characters"
  | .invalidNumber => "invalid number"
  | .numberOutOfRange => "number out of range"
  | .controlCharacter => "control character (\\u0000-\\u001F) found while parsing a string"
  | .invalidEscape => "invalid escape"
  | .loneSurrogate => "lone leading surrogate in hex escape"
  | .unfinishedSurrogate => "unexpected end of hex escape"
  | .tooDeep => "recursion limit exceeded"

/-- A fault with its place: lines count from one, columns count the bytes of the line up to it. -/
structure SyntaxError where
  fault : Fault
  line : Nat
  column : Nat
  deriving DecidableEq, Repr

/-- The message of a syntax error. -/
def SyntaxError.message (e : SyntaxError) : String :=
  e.fault.message ++ " at line " ++ toString e.line ++ " column " ++ toString e.column

/-- The bytes of a text that are still to be read. -/
abbrev Bytes := List UInt8

/-- A fault and the bytes behind its place. -/
abbrev Failure := Fault × Bytes

/-- What a reader yields: a result and the bytes behind it. -/
abbrev Reading (α : Type) := Except Failure (α × Bytes)

/-- Fails behind the next byte, which is the offending one. -/
def failAt {α : Type} (fault : Fault) (bytes : Bytes) : Reading α := .error (fault, bytes.drop 1)

/-- Fails behind all that was consumed. -/
def failBefore {α : Type} (fault : Fault) (bytes : Bytes) : Reading α := .error (fault, bytes)

/-- Space, tab, line feed and carriage return. -/
def isBlank (b : UInt8) : Bool := b == 0x20 || b == 0x09 || b == 0x0a || b == 0x0d

/-- Skips blanks. -/
def skipBlanks (bytes : Bytes) : Bytes := bytes.dropWhile isBlank

/-- The byte of an ASCII character. -/
def byte (c : Char) : UInt8 := c.toNat.toUInt8

/-! ## Words and numbers -/

/-- Reads the rest of a word letter by letter. -/
def readWord (value : Json) : List Char → Bytes → Reading Json
  | [], bytes => .ok (value, bytes)
  | _ :: _, [] => failBefore .endInValue []
  | letter :: letters, b :: rest =>
    if b = byte letter then readWord value letters rest else failBefore .expectedIdent rest

/-- A decimal digit. -/
def isDigit (b : UInt8) : Bool := 0x30 ≤ b && b ≤ 0x39

/-- The digits of a number so far: those that fit in a word of 64 bits, as a coefficient, and the
    power of ten that it stands for. -/
structure Digits where
  coefficient : Nat := 0
  fits : coefficient < 0x10000000000000000 := by decide
  exponent : Int := 0

/-- The coefficient with one more digit, if that fits. -/
def Digits.push? (digits : Digits) (b : UInt8) : Option Digits :=
  let coefficient := 10 * digits.coefficient + (b.toNat - 0x30)
  if fits : coefficient < 0x10000000000000000 then some { digits with coefficient, fits } else none

/-- Adds the digits of a whole number. From the first that does not fit on, they only count. -/
def Digits.addWhole (digits : Digits) : Bytes → Digits
  | [] => digits
  | b :: rest =>
    match digits.push? b with
    | some more => more.addWhole rest
    | none => { digits with exponent := digits.exponent + (rest.length + 1) }

/-- Adds the digits of a fraction. From the first that does not fit on, they are ignored. It may fit
    where a digit of the whole number did not. -/
def Digits.addFraction (digits : Digits) : Bytes → Digits
  | [] => digits
  | b :: rest =>
    match digits.push? b with
    | some more => { more with exponent := more.exponent - 1 }.addFraction rest
    | none => digits

/-- Reads the digits of an exponent that stays within 31 bits; the first digit beyond is where a
    larger one stops. -/
def exponentDigits (value : Nat) : Bytes → Except Bytes (Nat × Bytes)
  | [] => .ok (value, [])
  | b :: rest =>
    if isDigit b then
      let next := 10 * value + (b.toNat - 0x30)
      if 0x80000000 ≤ next then .error rest else exponentDigits next rest
    else .ok (value, b :: rest)

/-- The number of a sign and digits, if it is finite. -/
def decimalNumber (negative : Bool) (digits : Digits) (rest : Bytes) : Reading Json :=
  let x := Double.ofScaled negative digits.coefficient digits.exponent
  if finite : x.isFinite = true then .ok (number (.real x finite), rest)
  else failBefore .numberOutOfRange rest

/-- Reads an exponent behind its letter. Zero stays zero whatever the exponent; any other number is
    out of range at the digit where its exponent leaves 31 bits, and zero if that is negative. -/
def readExponent (negative : Bool) (digits : Digits) (bytes : Bytes) : Reading Json :=
  let (down, bytes) : Bool × Bytes :=
    match bytes with
    | b :: rest => if b = byte '+' then (false, rest) else if b = byte '-' then (true, rest)
        else (false, b :: rest)
    | [] => (false, [])
  match bytes with
  | [] => failBefore .endInValue []
  | b :: rest =>
    if isDigit b then
      match exponentDigits (b.toNat - 0x30) rest with
      | .ok (value, rest) =>
        let shift := if down then -(value : Int) else value
        decimalNumber negative { digits with exponent := digits.exponent + shift } rest
      | .error rest =>
        if digits.coefficient ≠ 0 ∧ down = false then failBefore .numberOutOfRange rest
        else decimalNumber negative {} (rest.dropWhile isDigit)
    else failBefore .invalidNumber rest

/-- Reads an exponent if there is one. -/
def readTail (negative : Bool) (digits : Digits) (bytes : Bytes) : Reading Json :=
  match bytes with
  | [] => decimalNumber negative digits []
  | b :: rest =>
    if b = byte 'e' || b = byte 'E' then readExponent negative digits rest
    else decimalNumber negative digits (b :: rest)

/-- A number without fraction and exponent: whole within 64 bits, else a double. Zero with a sign is
    a double. -/
def wholeNumber (negative : Bool) (digits : Digits) (rest : Bytes) : Reading Json :=
  let signed : Int := if negative then -(digits.coefficient : Int) else digits.coefficient
  if inRange : -0x8000000000000000 ≤ signed ∧ signed < 0x10000000000000000 then
    if digits.exponent ≠ 0 ∨ (negative = true ∧ digits.coefficient = 0) then
      decimalNumber negative digits rest
    else .ok (number (.whole signed inRange), rest)
  else decimalNumber negative digits rest

/-- Reads a number behind its sign. -/
def readNumber (negative : Bool) (bytes : Bytes) : Reading Json :=
  match bytes with
  | [] => failBefore .endInValue []
  | first :: behind =>
    if isDigit first then
      if first = byte '0' ∧ (behind.head?.any isDigit) = true then failAt .invalidNumber behind
      else
        let whole := ({} : Digits).addWhole (bytes.takeWhile isDigit)
        match bytes.dropWhile isDigit with
        | [] => wholeNumber negative whole []
        | b :: rest =>
          if b = byte '.' then
            let fraction := rest.takeWhile isDigit
            match fraction, rest with
            | [], [] => failAt .endInValue []
            | [], _ :: _ => failAt .invalidNumber rest
            | _ :: _, _ =>
              readTail negative (whole.addFraction fraction) (rest.dropWhile isDigit)
          else if b = byte 'e' || b = byte 'E' then readExponent negative whole rest
          else wholeNumber negative whole (b :: rest)
    else failBefore .invalidNumber behind

/-! ## Strings -/

/-- The value of a hexadecimal digit. -/
def hexDigit? (b : UInt8) : Option Nat :=
  if isDigit b then some (b.toNat - 0x30)
  else if 0x61 ≤ b && b ≤ 0x66 then some (b.toNat - 0x61 + 10)
  else if 0x41 ≤ b && b ≤ 0x46 then some (b.toNat - 0x41 + 10)
  else none

/-- Reads the four hexadecimal digits of an escape. -/
def readUnit : Bytes → Reading Nat
  | a :: b :: c :: d :: rest =>
    match hexDigit? a, hexDigit? b, hexDigit? c, hexDigit? d with
    | some a, some b, some c, some d => .ok (((a * 16 + b) * 16 + c) * 16 + d, rest)
    | _, _, _, _ => failBefore .invalidEscape rest
  | _ => failBefore .endInString []

/-- The second half of a surrogate pair must follow at once, as an escape of its own. -/
def readLowSurrogate (high : Nat) : Bytes → Reading Char
  | [] => failBefore .endInString []
  | b :: rest =>
    if b ≠ byte '\\' then failBefore .unfinishedSurrogate rest
    else match rest with
      | [] => failBefore .endInString []
      | b :: rest =>
        if b ≠ byte 'u' then failBefore .unfinishedSurrogate rest
        else match readUnit rest with
          | .error failure => .error failure
          | .ok (low, rest) =>
            if 0xdc00 ≤ low ∧ low ≤ 0xdfff then
              .ok (Char.ofNat (0x10000 + (high - 0xd800) * 0x400 + (low - 0xdc00)), rest)
            else failBefore .loneSurrogate rest

/-- Reads a character escape behind its backslash. -/
def readEscape : Bytes → Reading Char
  | [] => failBefore .endInString []
  | b :: rest =>
    if b = byte '"' then .ok ('"', rest)
    else if b = byte '\\' then .ok ('\\', rest)
    else if b = byte '/' then .ok ('/', rest)
    else if b = byte 'b' then .ok ('\x08', rest)
    else if b = byte 'f' then .ok ('\x0c', rest)
    else if b = byte 'n' then .ok ('\n', rest)
    else if b = byte 'r' then .ok ('\r', rest)
    else if b = byte 't' then .ok ('\t', rest)
    else if b = byte 'u' then
      match readUnit rest with
      | .error failure => .error failure
      | .ok (unit, rest) =>
        if 0xdc00 ≤ unit ∧ unit ≤ 0xdfff then failBefore .loneSurrogate rest
        else if 0xd800 ≤ unit ∧ unit ≤ 0xdbff then readLowSurrogate unit rest
        else .ok (Char.ofNat unit, rest)
    else failBefore .invalidEscape rest

/-- The text of bytes that were cut from a text at character boundaries. -/
def bytesText (bytes : Bytes) : String := (String.fromUTF8? ⟨bytes.toArray⟩).getD ""

/-- Reads a string behind its opening quote; `read` holds the bytes before, the last one first. The
    fuel bounds the number of characters. -/
def readString : Nat → Bytes → Bytes → Reading String
  | 0, _, bytes => failBefore .endInString bytes
  | fuel + 1, read, bytes =>
    match bytes with
    | [] => failBefore .endInString []
    | b :: rest =>
      if b = byte '"' then .ok (bytesText read.reverse, rest)
      else if b = byte '\\' then
        match readEscape rest with
        | .ok (c, rest) => readString fuel (c.toString.toUTF8.toList.reverse ++ read) rest
        | .error failure => .error failure
      else if b < 0x20 then failBefore .controlCharacter rest
      else readString fuel (b :: read) rest

/-! ## Trees -/

/-- How many brackets may be open at once. -/
def depthLimit : Nat := 127

mutual

/-- Reads a tree behind blanks. The fuel bounds the number of steps and `depth` the number of
    brackets still to be opened. -/
def readValue : Nat → Nat → Bytes → Reading Json
  | 0, _, bytes => failAt .endInValue bytes
  | fuel + 1, depth, bytes =>
    match skipBlanks bytes with
    | [] => failAt .endInValue []
    | b :: rest =>
      if b = byte 'n' then readWord null ['u', 'l', 'l'] rest
      else if b = byte 't' then readWord (bool true) ['r', 'u', 'e'] rest
      else if b = byte 'f' then readWord (bool false) ['a', 'l', 's', 'e'] rest
      else if b = byte '-' then readNumber true rest
      else if isDigit b then readNumber false (b :: rest)
      else if b = byte '"' then
        match readString fuel [] rest with
        | .ok (text, rest) => .ok (string text, rest)
        | .error failure => .error failure
      else if b = byte '[' then
        match depth with
        | 0 => failAt .tooDeep (b :: rest)
        | depth + 1 => readItems fuel depth [] rest
      else if b = byte '\x7b' then
        match depth with
        | 0 => failAt .tooDeep (b :: rest)
        | depth + 1 => readFields fuel depth true [] rest
      else failAt .expectedValue (b :: rest)

/-- Reads the items of an array behind the items read before, the last one first. -/
def readItems : Nat → Nat → List Json → Bytes → Reading Json
  | 0, _, _, bytes => failAt .endInList bytes
  | fuel + 1, depth, read, bytes =>
    match skipBlanks bytes with
    | [] => failAt .endInList []
    | b :: rest =>
      if b = byte ']' then .ok (array read.reverse, rest)
      else if read.isEmpty then
        match readValue fuel depth (b :: rest) with
        | .ok (item, rest) => readItems fuel depth (item :: read) rest
        | .error failure => .error failure
      else if b = byte ',' then
        match skipBlanks rest with
        | [] => failAt .endInValue []
        | b :: rest =>
          if b = byte ']' then failAt .trailingComma (b :: rest)
          else match readValue fuel depth (b :: rest) with
            | .ok (item, rest) => readItems fuel depth (item :: read) rest
            | .error failure => .error failure
      else failAt .expectedListCommaOrEnd (b :: rest)

/-- Reads the fields of an object behind the fields read before. -/
def readFields : Nat → Nat → Bool → List (String × Json) → Bytes → Reading Json
  | 0, _, _, _, bytes => failAt .endInObject bytes
  | fuel + 1, depth, isFirst, read, bytes =>
    match skipBlanks bytes with
    | [] => failAt .endInObject []
    | b :: rest =>
      if b = byte '\x7d' then .ok (object read, rest)
      else if isFirst then
        if b = byte '"' then readField fuel depth read rest
        else failAt .keyNotString (b :: rest)
      else if b = byte ',' then
        match skipBlanks rest with
        | [] => failAt .endInValue []
        | b :: rest =>
          if b = byte '"' then readField fuel depth read rest
          else if b = byte '\x7d' then failAt .trailingComma (b :: rest)
          else failAt .keyNotString (b :: rest)
      else failAt .expectedObjectCommaOrEnd (b :: rest)

/-- Reads a field behind the opening quote of its key, and the fields after it. -/
def readField : Nat → Nat → List (String × Json) → Bytes → Reading Json
  | 0, _, _, bytes => failAt .endInString bytes
  | fuel + 1, depth, read, bytes =>
    match readString fuel [] bytes with
    | .error failure => .error failure
    | .ok (key, rest) =>
      match skipBlanks rest with
      | [] => failAt .endInObject []
      | b :: rest =>
        if b = byte ':' then
          match readValue fuel depth rest with
          | .ok (value, rest) => readFields fuel depth false (putField key value read) rest
          | .error failure => .error failure
        else failAt .expectedColon (b :: rest)

end

/-- Reads a tree and nothing but blanks behind it. -/
def readText (bytes : Bytes) : Except Failure Json := do
  let (tree, rest) ← readValue (2 * bytes.length + 2) depthLimit bytes
  match skipBlanks rest with
  | [] => .ok tree
  | _ :: rest => .error (.trailingCharacters, rest)

/-- Line and column behind the bytes consumed. -/
def place (consumed : Bytes) : Nat × Nat :=
  consumed.foldl
    (fun (line, column) (b : UInt8) => if b = 0x0a then (line + 1, 0) else (line, column + 1))
    (1, 0)

/-- The tree of a JSON text. -/
def parse (text : String) : Except SyntaxError Json :=
  let bytes := text.toUTF8.toList
  match readText bytes with
  | .ok tree => .ok tree
  | .error (fault, rest) =>
    let (line, column) := place (bytes.take (bytes.length - rest.length))
    .error ⟨fault, line, column⟩

end Winnow.Json
