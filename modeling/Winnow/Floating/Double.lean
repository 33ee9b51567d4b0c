import Winnow.Floating.Format

/-!
# `Winnow.Floating.Double` — floating point numbers of 64 bits

A double is a sign and a magnitude word. Orders are read off the signed magnitude, which grows with
the value, and arithmetic is exact in least positive values with one rounding at the end.

## Contents
- **`Double`**, its classes and its exchange form in 64 bits.
- **`compare?`**: the order of values, undefined for NaN; zeros of either sign are equal.
- **`totalCompare`**: the total order of words, negative zero before zero and NaNs at the ends.
- **`sub`**, **`product`**, **`quotient`**, **`ofInt`**, **`ofDecimal`**, **`within`**: correctly
  rounded operations.
- **`ofScaled`**: decimals by way of a rounded coefficient and a rounded power of ten.
-/

namespace Winnow

open Floating

/-- A floating point number of 64 bits as a sign and the 63 bits below it. -/
structure Double where
  negative : Bool
  magnitude : Nat
  inWord : magnitude < 0x8000000000000000 := by decide
  deriving DecidableEq, Repr

namespace Double

/-- The double with a sign and a magnitude; a magnitude beyond the word is cut to its lower bits. -/
def ofParts (negative : Bool) (magnitude : Nat) : Double :=
  ⟨negative, magnitude % 0x8000000000000000, Nat.mod_lt _ (by decide)⟩

/-- The double of a 64-bit exchange word, the sign in the highest bit. -/
def ofBits (bits : Nat) : Double := ofParts ((bits >>> 63) % 2 = 1) bits

/-- The 64-bit exchange word. -/
def bits (x : Double) : Nat := if x.negative then 0x8000000000000000 + x.magnitude else x.magnitude

/-- A NaN has a magnitude above that of infinity. -/
def isNaN (x : Double) : Bool := Format.binary64.infinity < x.magnitude

/-- Finite numbers have a magnitude below that of infinity. -/
def isFinite (x : Double) : Bool := x.magnitude < Format.binary64.infinity

/-- Positive zero. -/
def zero : Double := ⟨false, 0, by decide⟩

/-- The quiet NaN without a payload. -/
def nan : Double := ofParts false (Format.binary64.infinity + (1 <<< 51))

/-- Infinity of either sign. -/
def infinite (negative : Bool) : Double := ofParts negative Format.binary64.infinity

/-- The same number with the other sign. -/
def neg (x : Double) : Double := { x with negative := !x.negative }

/-! ## Orders -/

/-- The signed magnitude: it grows with the value, and both zeros share one. -/
def ordinal (x : Double) : Int := if x.negative then -(x.magnitude : Int) else x.magnitude

/-- The place in the total order of words: as `ordinal`, but all negative words one lower, so that
    negative zero comes before zero. -/
def rank (x : Double) : Int := if x.negative then -(x.magnitude : Int) - 1 else x.magnitude

/-- The order of values; a NaN compares with nothing. -/
def compare? (x y : Double) : Option Ordering :=
  if x.isNaN || y.isNaN then none else some (compare x.ordinal y.ordinal)

/-- The total order of words: negative NaNs, negative numbers, positive numbers, positive NaNs. -/
def totalCompare (x y : Double) : Ordering := compare x.rank y.rank

/-! ## Arithmetic -/

/-- The value of a finite double, counted in least positive values. -/
def units (x : Double) : Int :=
  let units := Format.binary64.units x.magnitude
  if x.negative then -(units : Int) else units

/-- The double nearest to `num / den` least positive values, with the given sign. -/
def nearest (negative : Bool) (num den : Nat) : Double :=
  ofParts negative (Format.binary64.round num den)

/-- The correctly rounded difference. Equal numbers differ by positive zero, unless zero is taken
    from negative zero; infinities of one sign have no difference. -/
def sub (x y : Double) : Double :=
  if x.isNaN then x
  else if y.isNaN then y
  else if x.isFinite then
    if y.isFinite then
      let difference := x.units - y.units
      if difference = 0 then
        ⟨x.negative && !y.negative && x.magnitude == 0, 0, by decide⟩
      else nearest (difference < 0) difference.natAbs 1
    else y.neg
  else if y.isFinite || x.negative != y.negative then x
  else nan

/-- The double nearest to an integer. -/
def ofInt (i : Int) : Double := nearest (i < 0) (i.natAbs <<< Format.binary64.scale) 1

/-- The double nearest to `coefficient * 10 ^ exponent`, or infinity beyond the largest one. Far
    exponents are settled by size alone. -/
def ofDecimal (negative : Bool) (coefficient : Nat) (exponent : Int) : Double :=
  if coefficient = 0 then ofParts negative 0
  else
    let digits : Int := (Nat.log2 coefficient : Int)
    if 0 ≤ exponent then
      if 400 < exponent then infinite negative
      else nearest negative ((coefficient * Nat.pow 10 exponent.toNat) <<< Format.binary64.scale) 1
    else if exponent + digits < -1200 then ofParts negative 0
    else nearest negative (coefficient <<< Format.binary64.scale) (Nat.pow 10 (-exponent).toNat)

/-- The correctly rounded product of two finite numbers without their signs. -/
def product (x y : Double) : Double :=
  nearest false (Format.binary64.units x.magnitude * Format.binary64.units y.magnitude)
    (1 <<< Format.binary64.scale)

/-- The correctly rounded quotient of two finite numbers without their signs, the second one above
    zero. -/
def quotient (x y : Double) : Double :=
  nearest false (Format.binary64.units x.magnitude <<< Format.binary64.scale)
    (Format.binary64.units y.magnitude)

/-- The largest power of ten below infinity. -/
def largestPower : Nat := 308

/-- The double nearest to a power of ten. -/
def powerOfTen (exponent : Nat) : Double :=
  nearest false (Nat.pow 10 exponent <<< Format.binary64.scale) 1

/-- A number divided by the largest power of ten several times over, until it is zero. -/
def lowered (x : Double) : Nat → Double
  | 0 => x
  | more + 1 => if x.magnitude = 0 then x else (x.quotient (powerOfTen largestPower)).lowered more

/-- A decimal as it is read fast: the double nearest to the coefficient, times or over the double
    nearest to the power of ten. With three roundings it may miss the nearest double. It is infinity
    beyond the largest one. -/
def ofScaled (negative : Bool) (coefficient : Nat) (exponent : Int) : Double :=
  let start := ofInt coefficient
  let scaled :=
    if exponent < 0 then
      let places := exponent.natAbs
      let full := (places - 1) / largestPower
      (start.lowered full).quotient (powerOfTen (places - full * largestPower))
    else if exponent ≤ largestPower then start.product (powerOfTen exponent.toNat)
    else if start.magnitude = 0 then start
    else infinite false
  { scaled with negative }

/-- The magnitude in another format, rounded to nearest. -/
def magnitudeIn (x : Double) (target : Format) : Nat := Format.binary64.convert target x.magnitude

/-- The double of a magnitude of another format. -/
def ofMagnitudeIn (source : Format) (negative : Bool) (magnitude : Nat) : Double :=
  ofParts negative (source.convert Format.binary64 magnitude)

/-- The nearest double that a narrower format can hold. -/
def within (x : Double) (target : Format) : Double :=
  ofMagnitudeIn target x.negative (x.magnitudeIn target)

end Double

end Winnow
