/-!
# `Winnow.Floating.Format` — binary floating point formats

A finite word of a binary format is a whole number of its least positive value, so every question
about values is a question about natural numbers.

## Contents
- **`Format`** with `binary16`, `binary32` and `binary64`.
- **`units`**: the value of a magnitude, counted in least positive values.
- **`round`**: the magnitude nearest to a quotient of such counts, ties to the even magnitude.
- **`convert`**: the nearest magnitude of another format.
-/

namespace Winnow.Floating

/-- A binary format: a magnitude is an exponent field above `fractionBits` fraction bits, the least
    positive value is `2 ^ (-scale)`, and the exponent field `special` marks infinity and NaN. -/
structure Format where
  fractionBits : Nat
  scale : Nat
  special : Nat
  deriving DecidableEq, Repr

/-- The format of 64 bits. -/
def Format.binary64 : Format := ⟨52, 1074, 2047⟩

/-- The format of 32 bits. -/
def Format.binary32 : Format := ⟨23, 149, 255⟩

/-- The format of 16 bits. -/
def Format.binary16 : Format := ⟨10, 24, 31⟩

namespace Format

/-- The magnitude of infinity; every magnitude above it is a NaN. -/
def infinity (f : Format) : Nat := f.special <<< f.fractionBits

/-- The value of a finite magnitude as a count of least positive values: a field of zero holds the
    count itself, any other field `k` scales the fraction with its hidden bit by `2 ^ (k - 1)`. -/
def units (f : Format) (magnitude : Nat) : Nat :=
  let field := magnitude >>> f.fractionBits
  let fraction := magnitude % (1 <<< f.fractionBits)
  if field = 0 then fraction
  else ((1 <<< f.fractionBits) + fraction) <<< (field - 1)

/-- The quotient `num / den` as a whole number, the nearest one, of two nearest ones the even. -/
def nearestEven (num den : Nat) : Nat :=
  let quotient := num / den
  let rest := 2 * (num % den)
  if den < rest ∨ (rest = den ∧ quotient % 2 = 1) then quotient + 1 else quotient

/-- The magnitude nearest to `num / den` least positive values, ties to the even magnitude. A value
    beyond the largest finite one becomes infinity. -/
def round (f : Format) (num den : Nat) : Nat :=
  let shift := Nat.log2 (num / den) - f.fractionBits
  min f.infinity ((shift <<< f.fractionBits) + nearestEven num (den <<< shift))

/-- The magnitude of `target` nearest to a magnitude of `f`. A NaN stays a NaN: its payload is cut
    to the fraction bits of the target and made quiet. -/
def convert (f target : Format) (magnitude : Nat) : Nat :=
  if magnitude < f.infinity then
    target.round (f.units magnitude <<< target.scale) (1 <<< f.scale)
  else if magnitude = f.infinity then target.infinity
  else
    let payload := magnitude - f.infinity
    let cut := (payload <<< target.fractionBits) >>> f.fractionBits
    target.infinity + (cut ||| (1 <<< (target.fractionBits - 1)))

end Format

end Winnow.Floating
