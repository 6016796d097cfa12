/-!
# Instants and their written form

An instant counts seconds and nanoseconds from the start of 1970 in coordinated universal time.
Its written form is that of the Gregorian calendar, extended to all years.
-/

namespace RenderCore

/-- A point in time: `seconds` from the start of 1970, which may be negative, and `nanos` more. -/
structure Instant where
  seconds : Int
  nanos : Nat
  deriving DecidableEq, Repr

/-- A day of the calendar. -/
structure Date where
  year : Int
  month : Nat
  day : Nat
  deriving DecidableEq, Repr

/-- The day that is `days` after 1 January 1970. A year is taken to start with March, so that a
    leap day is the last of its year; 400 such years are an era of 146097 days. -/
def Date.ofDays (days : Int) : Date :=
  let shifted := days + 719468
  let era := shifted / 146097
  let dayOfEra := (shifted % 146097).toNat
  let yearOfEra := (dayOfEra - dayOfEra / 1460 + dayOfEra / 36524 - dayOfEra / 146096) / 365
  let dayOfYear := dayOfEra - (365 * yearOfEra + yearOfEra / 4 - yearOfEra / 100)
  let monthFromMarch := (5 * dayOfYear + 2) / 153
  let month := if monthFromMarch < 10 then monthFromMarch + 3 else monthFromMarch - 9
  { year := era * 400 + yearOfEra + (if month ≤ 2 then 1 else 0)
    month := month
    day := dayOfYear - (153 * monthFromMarch + 2) / 5 + 1 }

/-- The epoch, the day before it, a leap day of a year divisible by 400, and the day before the
    year 0. -/
example : [0, -1, 11016, -719529].map Date.ofDays =
    [⟨1970, 1, 1⟩, ⟨1969, 12, 31⟩, ⟨2000, 2, 29⟩, ⟨-1, 12, 31⟩] := by decide

/-- A number in decimal digits, filled up with zeros on the left to `width` digits. -/
def zeroPadded (width number : Nat) : String :=
  let digits := toString number
  String.ofList (List.replicate (width - digits.length) '0') ++ digits

/-- A year: four digits or more, with a sign if it lies outside the range from 0 to 9999. -/
def yearText (year : Int) : String :=
  let digits := zeroPadded 4 year.natAbs
  if year < 0 then "-" ++ digits else if 9999 < year then "+" ++ digits else digits

/-- Date and time of day, to the millisecond below. -/
def Instant.text (instant : Instant) : String :=
  let millis := (instant.seconds * 1000000000 + instant.nanos) / 1000000
  let seconds := millis / 1000
  let date := Date.ofDays (seconds / 86400)
  let ofDay := (seconds % 86400).toNat
  yearText date.year ++ "-" ++ zeroPadded 2 date.month ++ "-" ++ zeroPadded 2 date.day ++ " "
    ++ zeroPadded 2 (ofDay / 3600) ++ ":" ++ zeroPadded 2 (ofDay / 60 % 60) ++ ":"
    ++ zeroPadded 2 (ofDay % 60) ++ "." ++ zeroPadded 3 (millis % 1000).toNat

end RenderCore
