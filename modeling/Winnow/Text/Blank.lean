import Winnow.Text.Ranges

/-!
# `Winnow.Text.Blank` — blank characters

Blanks are the characters with the property `White_Space` (Unicode 17).

## Contents
- **`isBlank`**, **`trimBlanks`**.
-/

namespace Winnow.Text

/-- The ranges of blanks, ascending and apart. -/
def blankRanges : List (Nat × Nat) :=
  [
    (0x9, 0xd), (0x20, 0x20), (0x85, 0x85), (0xa0, 0xa0), (0x1680, 0x1680), (0x2000, 0x200a),
    (0x2028, 0x2029), (0x202f, 0x202f), (0x205f, 0x205f), (0x3000, 0x3000)]

/-- Whether a character is a blank. -/
def isBlank (c : Char) : Bool := inRanges blankRanges c

/-- A text without the blanks at its two ends. -/
def trimBlanks (text : List Char) : List Char :=
  ((text.dropWhile isBlank).reverse.dropWhile isBlank).reverse

end Winnow.Text
