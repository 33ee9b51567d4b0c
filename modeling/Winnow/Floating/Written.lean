import Winnow.Floating.Double
import Winnow.Floating.Shortest

/-!
# `Winnow.Floating.Written` — written forms of floating point numbers

Two forms share the shortest digits and differ in layout: plain text never shows an exponent,
document text always shows a fraction or an exponent.

## Contents
- **`positional`**, **`scientific`**, **`laidOut`**: layouts of a decimal; **`Layout`** says which
  exponents are written plainly.
- **`Double.plainText`**: the form used in messages.
- **`Double.documentText`**: the form used in JSON texts.
-/

namespace Winnow

namespace Floating

/-- Digits without an exponent: zeros fill the places up to the point, and a value without fraction
    has no point. -/
def Decimal.positional (d : Decimal) : List Char :=
  if d.exponent < 0 then
    '0' :: '.' :: List.replicate ((-d.exponent).toNat - 1) '0' ++ d.digits
  else
    let whole := d.exponent.toNat + 1
    if d.digits.length ≤ whole then d.digits ++ List.replicate (whole - d.digits.length) '0'
    else d.digits.take whole ++ '.' :: d.digits.drop whole

/-- Which exponents of the first digit are written plainly, and whether other positive exponents
    show their sign. -/
structure Layout where
  least : Int
  greatest : Int
  plusSign : Bool
  deriving DecidableEq, Repr

/-- Numbers in JSON texts. -/
def Layout.document : Layout := ⟨-5, 15, true⟩

/-- Numbers of 64 bits inside the text of a nested value. -/
def Layout.nested : Layout := ⟨-5, 15, false⟩

/-- Numbers of 32 bits inside the text of a nested value. -/
def Layout.nested32 : Layout := ⟨-6, 12, false⟩

/-- One digit before the point, and an exponent. -/
def Decimal.scientific (plusSign : Bool) (d : Decimal) : List Char :=
  let sign := if d.exponent < 0 then ['-'] else if plusSign then ['+'] else []
  let fraction := d.digits.drop 1
  d.digits.take 1 ++ (if fraction.isEmpty then [] else '.' :: fraction) ++
    'e' :: sign ++ Nat.toDigits 10 d.exponent.natAbs

/-- Positional with a fraction where the layout writes exponents plainly, scientific elsewhere. -/
def Decimal.laidOut (layout : Layout) (d : Decimal) : List Char :=
  if layout.least ≤ d.exponent ∧ d.exponent ≤ layout.greatest then
    let text := d.positional
    if text.contains '.' then text else text ++ ['.', '0']
  else d.scientific layout.plusSign

end Floating

namespace Double

open Floating

/-- The sign of a written number. -/
def signText (x : Double) : List Char := if x.negative then ['-'] else []

/-- The digits of a finite number, laid out, with zero standing for itself. -/
def digitsText (x : Double) (zero : List Char) (layOut : Decimal → List Char) (source : Format)
    (tie : TieRule) : String :=
  let magnitude := x.magnitudeIn source
  let body := if magnitude = 0 then zero else layOut (source.shortest tie magnitude)
  String.ofList (x.signText ++ body)

/-- The text of a number that is not finite. -/
def specialText (x : Double) : String :=
  if x.isNaN then "NaN" else String.ofList (x.signText ++ ['i', 'n', 'f'])

/-- Plain text with the digits that tell a number from all others of a format: never an exponent, no
    fraction for whole numbers. -/
def plainTextIn (x : Double) (source : Format) : String :=
  if x.isFinite then x.digitsText ['0'] Decimal.positional source .up else x.specialText

/-- Plain text. -/
def plainText (x : Double) : String := x.plainTextIn Format.binary64

/-- Document text: shortest digits with a fraction or an exponent, and `null` for a number that is
    not finite. -/
def documentText (x : Double) : String :=
  if x.isFinite then x.digitsText ['0', '.', '0'] (Decimal.laidOut .document) Format.binary64 .even
  else "null"

/-- The text inside a nested value, with the digits of a format. -/
def nestedText (x : Double) (source : Format) (layout : Layout) : String :=
  if x.isFinite then x.digitsText ['0', '.', '0'] (Decimal.laidOut layout) source .even
  else x.specialText

end Double

end Winnow
