/-!
Points in time by the calendar. A timestamp counts the seconds from the start of 1970 in universal
time, without leap seconds; a leap second is the second before it with its fraction going on to two
seconds. Dates are those of the Gregorian calendar, carried back as far as needed.
-/

set_option autoImplicit false

namespace QueryWatch

structure Timestamp where
  seconds : Int
  nanos : Nat
  deriving DecidableEq, Repr

/-- A day of the calendar. -/
structure CalendarDate where
  year : Int
  month : Nat
  day : Nat
  deriving DecidableEq, Repr

namespace CalendarDate

def isLeapYear (year : Int) : Bool := year % 4 == 0 && (year % 100 != 0 || year % 400 == 0)

def daysInMonth (year : Int) (month : Nat) : Nat :=
  if month = 2 then (if isLeapYear year then 29 else 28)
  else if [4, 6, 9, 11].contains month then 30
  else 31

/-- The number of days from the start of 1970. Years are counted from March on, so that a leap day
is the last day of its year, and every 400 years have the same number of days. -/
def toDays (d : CalendarDate) : Int :=
  let year := if d.month ≤ 2 then d.year - 1 else d.year
  let era := year / 400
  let yearOfEra := year % 400
  let monthFromMarch : Int := (d.month + 9) % 12
  let dayOfYear := (153 * monthFromMarch + 2) / 5 + d.day - 1
  let dayOfEra := yearOfEra * 365 + yearOfEra / 4 - yearOfEra / 100 + dayOfYear
  era * 146097 + dayOfEra - 719468

/-- The date of a number of days from the start of 1970. -/
def ofDays (days : Int) : CalendarDate :=
  let fromMarch := days + 719468
  let era := fromMarch / 146097
  let dayOfEra := fromMarch % 146097
  let yearOfEra := (dayOfEra - dayOfEra / 1460 + dayOfEra / 36524 - dayOfEra / 146096) / 365
  let dayOfYear := dayOfEra - (365 * yearOfEra + yearOfEra / 4 - yearOfEra / 100)
  let monthFromMarch := (5 * dayOfYear + 2) / 153
  let day := dayOfYear - (153 * monthFromMarch + 2) / 5 + 1
  let month := if monthFromMarch < 10 then monthFromMarch + 3 else monthFromMarch - 9
  let year := yearOfEra + era * 400
  ⟨if month ≤ 2 then year + 1 else year, month.toNat, day.toNat⟩

end CalendarDate

/-- Digits of a number, with zeros in front up to a width. -/
def padded (width n : Nat) : String :=
  let digits := Nat.toDigits 10 n
  String.ofList (List.replicate (width - digits.length) '0' ++ digits)

namespace Timestamp

def secondsPerDay : Int := 86400

def date (t : Timestamp) : CalendarDate := .ofDays (t.seconds / secondsPerDay)

/-- The time of day, with 60 for a leap second. -/
def clock (t : Timestamp) : String :=
  let second := (t.seconds % secondsPerDay).toNat
  padded 2 (second / 3600) ++ ":" ++ padded 2 (second / 60 % 60) ++ ":" ++
    padded 2 (second % 60 + t.nanos / 1000000000)

/-- The fraction of a second, with none, three, six or nine digits. -/
def fraction (t : Timestamp) : String :=
  let nanos := t.nanos % 1000000000
  if nanos = 0 then ""
  else if nanos % 1000000 = 0 then "." ++ padded 3 (nanos / 1000000)
  else if nanos % 1000 = 0 then "." ++ padded 6 (nanos / 1000)
  else "." ++ padded 9 nanos

/-- A year, with a sign unless it has up to four digits. -/
def yearText (year : Int) : String :=
  if 0 ≤ year ∧ year ≤ 9999 then padded 4 year.toNat
  else (if year < 0 then "-" else "+") ++ padded 5 year.natAbs

/-- The timestamp in the form of RFC 3339, with `zone` as the name of universal time. -/
def textIn (t : Timestamp) (zone : String) : String :=
  let d := t.date
  yearText d.year ++ "-" ++ padded 2 d.month ++ "-" ++ padded 2 d.day ++ "T" ++ t.clock ++
    t.fraction ++ zone

/-- The timestamp a number of nanoseconds later. -/
def after (t : Timestamp) (nanos : Nat) : Timestamp :=
  let total := t.nanos + nanos
  ⟨t.seconds + (total / 1000000000 : Nat), total % 1000000000⟩

/-- The timestamp in the form of RFC 3339. -/
def text (t : Timestamp) : String := t.textIn "Z"

end Timestamp
end QueryWatch
