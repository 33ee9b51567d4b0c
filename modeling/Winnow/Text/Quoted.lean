import Winnow.Text.Unprintable

/-!
# `Winnow.Text.Quoted` — texts in double quotes

The form in which messages show a text: characters that would be invisible or end the quote are
escaped, all others stand for themselves.

## Contents
- **`escape`**: the written form of one character.
- **`quoted`**: a text between quotes.
-/

namespace Winnow.Text

/-- The escape by code point, in lower-case hexadecimal digits without padding. -/
def escapeCodePoint (c : Char) : List Char :=
  ['\\', 'u', '\x7b'] ++ Nat.toDigits 16 c.toNat ++ ['\x7d']

/-- The written form of one character between double quotes. -/
def escape (c : Char) : List Char :=
  if c = '\x00' then ['\\', '0']
  else if c = '\t' then ['\\', 't']
  else if c = '\n' then ['\\', 'n']
  else if c = '\r' then ['\\', 'r']
  else if c = '"' then ['\\', '"']
  else if c = '\\' then ['\\', '\\']
  else if isUnprintable c then escapeCodePoint c
  else [c]

/-- A text between double quotes. -/
def quoted (s : String) : String := String.ofList ('"' :: s.toList.flatMap escape ++ ['"'])

end Winnow.Text
