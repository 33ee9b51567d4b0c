/-!
# `Winnow.Text.Ranges` — properties of characters as tables

A property of characters is given by the ranges of code points that have it.

## Contents
- **`inRanges`**: membership in one of the ranges.
-/

namespace Winnow.Text

/-- Whether a character is in one of the ranges of code points, both ends included. -/
def inRanges (ranges : List (Nat × Nat)) (c : Char) : Bool :=
  ranges.any fun range => range.1 ≤ c.toNat && c.toNat ≤ range.2

end Winnow.Text
