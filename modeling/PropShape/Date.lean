import PropShape.Number.Text

/-!
# `PropShape.Date`: points in time

A date counts seconds from the start of 1970 in UTC, and nanoseconds on top.
A leap second has no count of its own: it is the second before it with
`10 ^ 9` nanoseconds or more.

Dates are written as RFC 3339 texts with milliseconds, cut off and not
rounded, in the proleptic Gregorian calendar. `ofDays` finds the day of a
day count from the 400-year cycle of that calendar, in years that start in
March, so that the leap day ends the year.
-/

set_option autoImplicit false

namespace PropShape

/-- A point in time. -/
structure Date where
  /-- Seconds since the start of 1970. -/
  seconds : Int
  /-- Nanoseconds past that second; `10 ^ 9` and more lie in a leap second. -/
  nanos : Nat
  deriving DecidableEq, Inhabited

/-- A day of the proleptic Gregorian calendar; January is month 1. -/
structure CalendarDay where
  year : Int
  month : Nat
  day : Nat
  deriving DecidableEq, Inhabited

/-- The day that lies `days` days after the first of January 1970. -/
def CalendarDay.ofDays (days : Int) : CalendarDay :=
  -- A cycle of 146097 days starts on the first of March of year 0.
  let shifted := days + 719468
  let cycle := shifted.fdiv 146097
  let dayOfCycle := (shifted - cycle * 146097).toNat
  let yearOfCycle :=
    (dayOfCycle - dayOfCycle / 1460 + dayOfCycle / 36524 - dayOfCycle / 146096) / 365
  let dayOfYear := dayOfCycle - (365 * yearOfCycle + yearOfCycle / 4 - yearOfCycle / 100)
  let monthFromMarch := (5 * dayOfYear + 2) / 153
  let day := dayOfYear - (153 * monthFromMarch + 2) / 5 + 1
  let month := if monthFromMarch < 10 then monthFromMarch + 3 else monthFromMarch - 9
  let year := (yearOfCycle : Int) + cycle * 400
  ⟨if month ≤ 2 then year + 1 else year, month, day⟩

/-- Decimal digits filled up with zeros on the left. -/
def zeroPadded (width n : Nat) : String :=
  let digits := Nat.toDigits 10 n
  String.ofList (List.replicate (width - digits.length) '0' ++ digits)

namespace Date

/-- Four digits, with a sign outside the years 0 to 9999. -/
def yearText (year : Int) : String :=
  if 0 ≤ year ∧ year ≤ 9999 then zeroPadded 4 year.toNat
  else (if year < 0 then "-" else "+") ++ zeroPadded 4 year.natAbs

/-- The RFC 3339 text with milliseconds. A leap second is second 60. -/
def text (d : Date) : String :=
  let day := CalendarDay.ofDays (d.seconds.fdiv 86400)
  let secondOfDay := (d.seconds.fmod 86400).toNat
  let leap := 1000000000 ≤ d.nanos
  let second := secondOfDay % 60 + if leap then 1 else 0
  let millis := (if leap then d.nanos - 1000000000 else d.nanos) / 1000000
  yearText day.year ++ "-" ++ zeroPadded 2 day.month ++ "-" ++ zeroPadded 2 day.day ++
    "T" ++ zeroPadded 2 (secondOfDay / 3600) ++ ":" ++ zeroPadded 2 (secondOfDay / 60 % 60) ++
    ":" ++ zeroPadded 2 second ++ "." ++ zeroPadded 3 millis ++ "Z"

end Date

end PropShape
