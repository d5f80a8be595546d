import TableFormula.Calendar.Moment
import TableFormula.Number.Notation

/-!
# Seconds since 1970

A clock counts the seconds since the beginning of 1970 in universal time.  Its range is wider than
the calendar of dates: years run on beyond 9999 and back before year 1, where year zero and the
years below it follow the same rules.  Four hundred years have a whole number of days, so any second
has a counterpart in the first four hundred years of the calendar with the same month, day and time.
-/

namespace TableFormula.Epoch

open Number Calendar

/-- The days of four hundred years. -/
def cycleDays : Nat := 146097

example : daysBeforeYear 401 = cycleDays := by decide

/-- The days from the first day of the calendar to the beginning of 1970. -/
def startDay : Nat := 719162

example : daysBeforeYear 1970 = startDay := by decide

/-- Why a number of seconds has no date. -/
inductive Trouble where
  /-- Beyond 64 bits, or a year beyond 32 bits. -/
  | outOfRange
  /-- A year that a clock cannot count. -/
  | noYear
deriving DecidableEq, Repr

/-- The first and the last second whose year a clock can count. -/
def firstSecond : Int := -67768040609740800

/-- The last second whose year a clock can count. -/
def lastSecond : Int := 67768036191676799

/-- The last year that fits 32 bits. -/
def lastYear : Int := 2147483647

/-- A year of any sign, and a day of it with a time of day. -/
structure Reading where
  year : Int
  month : Nat
  day : Nat
  /-- Seconds since midnight. -/
  second : Nat
deriving DecidableEq, Repr

/-- The date and time of day of a second. -/
def reading (seconds : Int) : Reading :=
  let days := seconds.fdiv 86400 + startDay
  let cycle := days.fdiv cycleDays
  match Date.ofDayNumber? (days - cycle * cycleDays) with
  | some d => ⟨cycle * 400 + d.year, d.month, d.day, (seconds - seconds.fdiv 86400 * 86400).toNat⟩
  | none => ⟨0, 0, 0, 0⟩

/-- `YYYY-MM-DD hh:mm:ss`, with as many digits for the year as it has. -/
def Reading.text (r : Reading) : List Char :=
  integerText r.year ++ '-' :: padded 2 r.month ++ '-' :: padded 2 r.day ++
    ' ' :: padded 2 (r.second / 3600) ++ ':' :: padded 2 (r.second / 60 % 60) ++
    ':' :: padded 2 (r.second % 60)

/-- The date and time of day of a second, as text. -/
def text (seconds : Int) : Except Trouble (List Char) :=
  if seconds < -9223372036854775808 ∨ 9223372036854775807 < seconds then .error .outOfRange
  else if seconds < firstSecond ∨ lastSecond < seconds then .error .noYear
  else
    let r := reading seconds
    if lastYear < r.year then .error .outOfRange else .ok r.text

end TableFormula.Epoch
