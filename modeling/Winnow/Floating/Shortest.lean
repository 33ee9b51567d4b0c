import Winnow.Floating.Format

/-!
# `Winnow.Floating.Shortest` — the shortest decimal that reads back

Reading a decimal rounds it to the nearest binary number, so a finite magnitude is named by every
decimal in an interval around it. The shortest name is found by trying decimal grids from coarse to
fine: if a point of a grid lies in the interval, so does one of the two neighbours of the value on
that grid.

## Contents
- **`Decimal`**: digits and the exponent of the first one.
- **`interval`**: the bounds that round to a magnitude; they belong to it when it is even.
- **`shortest`**: the nearest point of the first grid that meets the interval.
-/

namespace Winnow.Floating

/-- A decimal `d.ddd * 10 ^ exponent`: its digits from the highest on, and the exponent of the
    first digit. -/
structure Decimal where
  digits : List Char
  exponent : Int
  deriving DecidableEq, Repr

/-- Which of two grid points equally near to the value is taken. -/
inductive TieRule where
  | up
  | even
  deriving DecidableEq, Repr

/-- Drops the zeros at the end of a list of digits. -/
def dropTrailingZeros (digits : List Char) : List Char :=
  (digits.reverse.dropWhile (· = '0')).reverse

/-- The exponent of the first decimal digit of `num / den`, both positive. -/
def leadingExponent (num den : Nat) : Int :=
  if den ≤ num then ((Nat.toDigits 10 (num / den)).length : Int) - 1
  else
    let places := (Nat.toDigits 10 (den / num)).length
    if den ≤ num * Nat.pow 10 (places - 1) then -((places : Int) - 1) else -(places : Int)

/-- The bounds `(low, value, high)` of the numbers that round to a finite positive magnitude,
    counted in halves of the least positive value. -/
def Format.interval (f : Format) (magnitude : Nat) : Nat × Nat × Nat :=
  let value := f.units magnitude
  (f.units (magnitude - 1) + value, 2 * value, f.units (magnitude + 1) + value)

/-- The multiple of `10 ^ place` in the interval that is nearest to the value, if there is one: the
    neighbour below or the one above. Bounds are given over `den`. -/
def gridPoint (tie : TieRule) (closed : Bool) (low value high den : Nat) (place : Int) :
    Option Nat :=
  let scaleUp := Nat.pow 10 (-place).toNat
  let step := den * Nat.pow 10 place.toNat
  let below := value * scaleUp / step
  let above := below + 1
  let meets (point : Nat) : Bool :=
    let scaled := point * step
    if closed then low * scaleUp ≤ scaled && scaled ≤ high * scaleUp
    else low * scaleUp < scaled && scaled < high * scaleUp
  let toBelow := value * scaleUp - below * step
  let toAbove := above * step - value * scaleUp
  let preferBelow :=
    toBelow < toAbove ||
      (toBelow = toAbove && (match tie with | .up => false | .even => below % 2 = 0))
  match meets below, meets above with
  | true, true => some (if preferBelow then below else above)
  | true, false => some below
  | false, true => some above
  | false, false => none

/-- The shortest decimal that reads back as a finite positive magnitude, the nearest one among the
    shortest. Seventeen digits suffice for every format of at most 64 bits. -/
def Format.shortest (f : Format) (tie : TieRule) (magnitude : Nat) : Decimal :=
  let (low, value, high) := f.interval magnitude
  let den := 2 <<< f.scale
  let exponent := leadingExponent value den
  let grids := (List.range 17).map fun (n : Nat) => exponent - n
  let found := grids.findSome? fun place =>
    (gridPoint tie (magnitude % 2 = 0) low value high den place).map (·, place)
  match found with
  | some (point, place) =>
    let digits := Nat.toDigits 10 point
    ⟨dropTrailingZeros digits, place + ((digits.length : Int) - 1)⟩
  | none => ⟨['0'], 0⟩

end Winnow.Floating
