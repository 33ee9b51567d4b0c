import Winnow.Columnar.Calendar
import Winnow.Columnar.Data

/-!
# `Winnow.Columnar.Display` — entries as text

Element types without a table type of their own are served as the texts of their entries. A value
that has no text is shown by the reason, behind whatever of the text was written before.

## Contents
- **`Displayed.append`**, **`Displayed.served`**: texts one behind another, and as they are served.
- **`zoneOffset?`**: the time zones that are understood, all fixed offsets.
- The texts of dates, times, decimals, binaries and lists.
- **`Data.displays`**: the texts of all entries of a column.
-/

namespace Winnow.Columnar

namespace Displayed

/-- A text that is complete. -/
def whole (text : String) : Displayed := ⟨text, none⟩

/-- A value that cannot be converted to what its type shows. -/
def cannotConvert (value : Int) (target type : String) : Displayed :=
  ⟨"", some ("Cast error: Failed to convert " ++ toString value ++ " to " ++ target ++ " for " ++
    type)⟩

/-- One text behind another; nothing follows a fault. -/
def append (a b : Displayed) : Displayed :=
  match a.fault with
  | some _ => a
  | none => ⟨a.text ++ b.text, b.fault⟩

/-- The text with its fault, as it is served. -/
def served (d : Displayed) : String :=
  match d.fault with
  | none => d.text
  | some fault => d.text ++ "ERROR: " ++ fault

end Displayed

/-! ## Dates and times -/

namespace TimeUnit

/-- How many of the unit make a second. -/
def perSecond : TimeUnit → Nat
  | second => 1
  | millisecond => 1000
  | microsecond => 1000000
  | nanosecond => 1000000000

/-- The name of a unit in messages. -/
def name : TimeUnit → String
  | second => "Second"
  | millisecond => "Millisecond"
  | microsecond => "Microsecond"
  | nanosecond => "Nanosecond"

end TimeUnit

/-- The seconds in a day. -/
def daySeconds : Nat := 86400

/-- A day. -/
def date32 (days : Int) : Displayed :=
  if Date.inCalendar days then .whole (dateText days)
  else .cannotConvert days "temporal" "Date32"

/-- The milliseconds of whole days as a file keeps them: the time of day is dropped towards zero,
    and the days are a 32-bit word. -/
def wholeDays (milliseconds : Int) : Int :=
  (milliseconds.tdiv 86400000).bmod 0x100000000 * 86400000

/-- A day given in milliseconds, shown with its midnight. -/
def date64 (milliseconds : Int) : Displayed :=
  let kept := wholeDays milliseconds
  let days := kept.fdiv 86400000
  if Date.inCalendar days then .whole (dateText days ++ "T" ++ timeText 0 0)
  else .cannotConvert kept "temporal" "Date64"

/-- The digit of a character. -/
def digit? (c : Char) : Option Nat := if c.isDigit then some (c.toNat - '0'.toNat) else none

/-- The offset of a time zone `+HH:MM`, `+HHMM` or `+HH` in seconds, less than a day to either
    side. Other zones are not understood. -/
def zoneOffset? (zone : String) : Option Int :=
  let offset? (sign : Char) (h₁ h₂ m₁ m₂ : Char) : Option Int := do
    let hours := 10 * (← digit? h₁) + (← digit? h₂)
    let minutes := 10 * (← digit? m₁) + (← digit? m₂)
    let seconds := 3600 * hours + 60 * minutes
    if seconds < daySeconds then
      if sign = '+' then some seconds
      else if sign = '-' then some (-(seconds : Int))
      else none
    else none
  match zone.toList with
  | [sign, h₁, h₂, ':', m₁, m₂] => offset? sign h₁ h₂ m₁ m₂
  | [sign, h₁, h₂, m₁, m₂] => offset? sign h₁ h₂ m₁ m₂
  | [sign, h₁, h₂] => offset? sign h₁ h₂ '0' '0'
  | _ => none

/-- The name of a timestamp type in messages. -/
def timestampType (unit : TimeUnit) (zone : Option String) : String :=
  let zoneText :=
    match zone with
    | none => "None"
    | some z => "Some(" ++ Text.quoted z ++ ")"
  "Timestamp(" ++ unit.name ++ ", " ++ zoneText ++ ")"

/-- A point in time: local time, followed by the offset where there is a zone. -/
def timestamp (unit : TimeUnit) (zone : Option String) (value : Int) : Displayed :=
  let seconds := value.fdiv unit.perSecond
  let fraction := (value - seconds * unit.perSecond).toNat * (1000000000 / unit.perSecond)
  if Date.inCalendar (seconds.fdiv daySeconds) then
    let offset := zone.bind zoneOffset?
    let here := seconds + offset.getD 0
    let day := here.fdiv daySeconds
    let ofDay := (here - day * daySeconds).toNat
    .whole (dateText day ++ "T" ++ timeText ofDay fraction ++ (offset.map offsetText).getD "")
  else .cannotConvert value "datetime" (timestampType unit zone)

/-- A time of day. Seconds and nanoseconds are 32-bit words, into which a negative count wraps. -/
def timeOfDay (type : String) (unit : TimeUnit) (value : Int) : Displayed :=
  let word (i : Int) : Nat := (i.emod 0x100000000).toNat
  let seconds := word (value.tdiv unit.perSecond)
  let fraction := word (value.tmod unit.perSecond * (1000000000 / unit.perSecond : Nat))
  if seconds < daySeconds ∧ fraction < 1000000000 then .whole (timeText seconds fraction)
  else .cannotConvert value "temporal" (type ++ "(" ++ unit.name ++ ")")

/-! ## Other elements -/

/-- A decimal of at most `precision` digits with its point; a negative scale adds zeros. -/
def decimalText (precision : Nat) (scale : Int) (unscaled : Int) : String :=
  let sign := if unscaled < 0 then "-" else ""
  let digits := Nat.toDigits 10 unscaled.natAbs
  let kept := digits.take precision
  if scale = 0 then sign ++ String.ofList kept
  else if scale < 0 then sign ++ String.ofList (kept ++ List.replicate scale.natAbs '0')
  else
    let places := scale.toNat
    if places < digits.length then
      let whole := kept.take (kept.length - places)
      sign ++ String.ofList (whole ++ '.' :: kept.drop (kept.length - places))
    else sign ++ "0." ++ String.ofList (List.replicate (places - digits.length) '0' ++ digits)

/-- A byte in two lower-case hexadecimal digits. -/
def byteText (b : UInt8) : List Char :=
  let digits := Nat.toDigits 16 b.toNat
  List.replicate (2 - digits.length) '0' ++ digits

/-- A list of integers between brackets; a missing item leaves its place empty. -/
def listText (items : List (Option Int)) : String :=
  "[" ++ ", ".intercalate (items.map fun item => (item.map toString).getD "") ++ "]"

/-- A floating point number as it stands inside a nested value. It is first rounded to its width,
    where it may become infinite. -/
def floatText (width : FloatWidth) (x : Double) : String :=
  match width with
  | .half => (x.within .binary16).plainTextIn .binary32
  | .single => (x.within .binary32).nestedText .binary32 .nested32
  | .double => x.nestedText .binary64 .nested

namespace Data

/-- The texts of entries by the text of one. -/
def each {α : Type} (text : α → Displayed) (entries : List (Option α)) : List (Option Displayed) :=
  entries.map (·.map text)

/-- An entry of a field behind its name. -/
def labelled (separator name : String) (entry : Option Displayed) : Displayed :=
  (Displayed.whole (separator ++ name ++ ": ")).append (entry.getD (.whole ""))

mutual

/-- The texts of all entries of a column; a missing entry has none. -/
def displays : Data → List (Option Displayed)
  | integers entries => each (fun i => .whole (toString i)) entries
  | floats width entries => each (fun x => .whole (floatText width x)) entries
  | booleans entries => each (fun b => .whole (if b then "true" else "false")) entries
  | texts entries => each .whole entries
  | dates32 entries => each date32 entries
  | dates64 entries => each date64 entries
  | timestamps unit zone entries => each (timestamp unit zone) entries
  | times32 unit entries => each (timeOfDay "Time32" unit) entries
  | times64 unit entries => each (timeOfDay "Time64" unit) entries
  | decimals precision scale entries =>
    each (fun i => .whole (decimalText precision scale i)) entries
  | binaries entries => each (fun bytes => .whole (String.ofList (bytes.flatMap byteText))) entries
  | lists entries => each (fun items => .whole (listText items)) entries
  | records fields =>
    (fieldDisplays "" fields).map fun d =>
      some (((Displayed.whole "\x7b").append d).append (.whole "\x7d"))
  | nulls count => List.replicate count (some (.whole ""))
  | others entries => entries

/-- The texts of the fields of a record column, entry by entry, each behind a separator and its
    name; a missing entry is empty. -/
def fieldDisplays (separator : String) : List (String × Data) → List Displayed
  | [] => []
  | [(name, data)] => (displays data).map (labelled separator name)
  | (name, data) :: next :: rest =>
    List.zipWith Displayed.append ((displays data).map (labelled separator name))
      (fieldDisplays ", " (next :: rest))

end

mutual

/-- Whether every time zone in a column's type is understood. -/
def zonesKnown : Data → Bool
  | timestamps _ (some zone) _ => (zoneOffset? zone).isSome
  | records fields => fieldZonesKnown fields
  | _ => true

/-- Whether every time zone in the fields of a record column is understood. -/
def fieldZonesKnown : List (String × Data) → Bool
  | [] => true
  | (_, data) :: rest => zonesKnown data && fieldZonesKnown rest

end

end Data

end Winnow.Columnar
