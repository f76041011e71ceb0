import StaticInjection.Text.Digits

namespace StaticInjection

/-! ## Calendar -/

/-- A day of the Gregorian calendar, continued to years before it was introduced. -/
structure CalendarDay where
  year : Int
  /-- From 1. -/
  month : Nat
  /-- From 1. -/
  day : Nat
deriving DecidableEq, Repr

namespace CalendarDay

/-- Days are counted from 1970-01-01. Years are taken to start in March, so that the leap day comes
last in them, and are counted within periods of 400 years, which all have the same number of days. -/
def ofDays (days : Int) : CalendarDay :=
  let sinceMarch := days + 719468
  let period := Int.fdiv sinceMarch 146097
  let dayOfPeriod := (Int.fmod sinceMarch 146097).toNat
  let yearOfPeriod :=
    (dayOfPeriod - dayOfPeriod / 1460 + dayOfPeriod / 36524 - dayOfPeriod / 146096) / 365
  let dayOfYear := dayOfPeriod - (365 * yearOfPeriod + yearOfPeriod / 4 - yearOfPeriod / 100)
  let monthFromMarch := (5 * dayOfYear + 2) / 153
  let month := if monthFromMarch < 10 then monthFromMarch + 3 else monthFromMarch - 9
  let year := period * 400 + yearOfPeriod
  { year := if month ≤ 2 then year + 1 else year
    month
    day := dayOfYear - (153 * monthFromMarch + 2) / 5 + 1 }

example : ofDays 0 = ⟨1970, 1, 1⟩ ∧ ofDays (-1) = ⟨1969, 12, 31⟩ ∧ ofDays 11016 = ⟨2000, 2, 29⟩ := by
  decide

/-- Four digits, or a sign and at least four for years that do not fit. -/
def yearText (year : Int) : String :=
  let digits := Text.paddedDecimal 4 year.natAbs
  if year < 0 then "-" ++ digits else if 9999 < year then "+" ++ digits else digits

def text (day : CalendarDay) : String :=
  yearText day.year ++ "-" ++ Text.paddedDecimal 2 day.month ++ "-" ++ Text.paddedDecimal 2 day.day

end CalendarDay

/-! ## Points in time -/

/-- Nanoseconds since the start of 1970, in universal time. -/
structure Instant where
  nanoseconds : Int
deriving DecidableEq, Repr, Inhabited

namespace Instant

def ofMicroseconds (count : Int) : Instant :=
  ⟨count * 1000⟩

/-- The fraction of a second in the fewest groups of three digits that are exact. -/
def fractionText (nanoseconds : Nat) : String :=
  if nanoseconds = 0 then ""
  else if nanoseconds % 1000000 = 0 then "." ++ Text.paddedDecimal 3 (nanoseconds / 1000000)
  else if nanoseconds % 1000 = 0 then "." ++ Text.paddedDecimal 6 (nanoseconds / 1000)
  else "." ++ Text.paddedDecimal 9 nanoseconds

def timeText (secondOfDay : Nat) : String :=
  Text.paddedDecimal 2 (secondOfDay / 3600) ++ ":" ++
    Text.paddedDecimal 2 (secondOfDay / 60 % 60) ++ ":" ++ Text.paddedDecimal 2 (secondOfDay % 60)

def text (instant : Instant) : String :=
  let seconds := Int.fdiv instant.nanoseconds 1000000000
  let day := CalendarDay.ofDays (Int.fdiv seconds 86400)
  day.text ++ "T" ++ timeText (Int.fmod seconds 86400).toNat ++
    fractionText (Int.fmod instant.nanoseconds 1000000000).toNat ++ "Z"

example : (ofMicroseconds (-12999)).text = "1969-12-31T23:59:59.987001Z" := by decide +kernel

/-- Whole milliseconds from one instant to another, without the rest. -/
def millisecondsUntil (start finish : Instant) : Int :=
  Int.tdiv (finish.nanoseconds - start.nanoseconds) 1000000

end Instant

end StaticInjection
