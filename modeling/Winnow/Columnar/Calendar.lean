/-!
# `Winnow.Columnar.Calendar` — dates and times as text

Columnar files count days and fractions of seconds. The calendar is the Gregorian one, extended in
both directions; a year that does not fit four digits is written with its sign.

## Contents
- **`Date`**, **`Date.ofDays`**: the date of a day counted from the first of January 1970.
- **`Date.inCalendar`**: the days that have a date.
- **`dateText`**, **`timeText`**, **`offsetText`**: the ISO forms.
-/

namespace Winnow.Columnar

/-- A calendar date. -/
structure Date where
  year : Int
  month : Nat
  day : Nat
  deriving DecidableEq, Repr

namespace Date

/-- The date of a day counted from the first of January 1970. Years are counted from March within
    eras of 400 years, so that the leap day is the last day of its year. -/
def ofDays (days : Int) : Date :=
  let shifted := days + 719468
  let era := shifted.fdiv 146097
  let dayOfEra := (shifted - era * 146097).toNat
  let yearOfEra := (dayOfEra - dayOfEra / 1460 + dayOfEra / 36524 - dayOfEra / 146096) / 365
  let dayOfYear := dayOfEra - (365 * yearOfEra + yearOfEra / 4 - yearOfEra / 100)
  let monthFromMarch := (5 * dayOfYear + 2) / 153
  let month := if monthFromMarch < 10 then monthFromMarch + 3 else monthFromMarch - 9
  { year := era * 400 + yearOfEra + (if month ≤ 2 then 1 else 0)
    month
    day := dayOfYear - (153 * monthFromMarch + 2) / 5 + 1 }

/-- The first day of the calendar, the first of January -262143. -/
def firstDay : Int := -96465292

/-- The last day of the calendar, the last of December 262142. -/
def lastDay : Int := 95026236

/-- Whether a day has a date in the calendar. -/
def inCalendar (days : Int) : Bool := firstDay ≤ days && days ≤ lastDay

end Date

/-- A number with leading zeros up to a width. -/
def padded (width n : Nat) : String :=
  let digits := Nat.toDigits 10 n
  String.ofList (List.replicate (width - digits.length) '0' ++ digits)

/-- A year of four digits, or with a sign and at least four digits. -/
def yearText (year : Int) : String :=
  if 0 ≤ year ∧ year ≤ 9999 then padded 4 year.toNat
  else (if year < 0 then "-" else "+") ++ padded 4 year.natAbs

/-- The ISO form of a day. -/
def dateText (days : Int) : String :=
  let date := Date.ofDays days
  yearText date.year ++ "-" ++ padded 2 date.month ++ "-" ++ padded 2 date.day

/-- A fraction of a second in three, six or nine digits, whichever is the first to be exact; none
    for a whole second. -/
def fractionText (nanoseconds : Nat) : String :=
  if nanoseconds = 0 then ""
  else if nanoseconds % 1000000 = 0 then "." ++ padded 3 (nanoseconds / 1000000)
  else if nanoseconds % 1000 = 0 then "." ++ padded 6 (nanoseconds / 1000)
  else "." ++ padded 9 nanoseconds

/-- The ISO form of a time of day. -/
def timeText (seconds nanoseconds : Nat) : String :=
  padded 2 (seconds / 3600) ++ ":" ++ padded 2 (seconds / 60 % 60) ++ ":" ++
    padded 2 (seconds % 60) ++ fractionText nanoseconds

/-- The ISO form of an offset in seconds, given in whole minutes; no offset is `Z`. -/
def offsetText (offset : Int) : String :=
  if offset = 0 then "Z"
  else
    let minutes := offset.natAbs / 60
    (if offset < 0 then "-" else "+") ++ padded 2 (minutes / 60) ++ ":" ++ padded 2 (minutes % 60)

end Winnow.Columnar
