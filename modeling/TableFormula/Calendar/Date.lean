import TableFormula.Fault

/-!
# Dates

The calendar is the Gregorian one, extended backwards to year 1 and ending with year 9999.  A date
is a year, a month and a day that exist; its *day number* counts the days since the first of January
of year 1, which is a Monday.

Two shifts are defined: by days, which is addition on day numbers, and by months, which keeps the
day of the month unless the target month is too short for it.
-/

namespace TableFormula

/-! ## Years and months -/

namespace Calendar

/-- Whether February has 29 days in a year. -/
def isLeapYear (year : Nat) : Bool :=
  year % 4 == 0 && (year % 100 != 0 || year % 400 == 0)

/-- The number of days in a month. -/
def monthLength (year month : Nat) : Nat :=
  match month with
  | 2 => if isLeapYear year then 29 else 28
  | 4 | 6 | 9 | 11 => 30
  | _ => 31

/-- The number of days before the first of January of a year. -/
def daysBeforeYear (year : Nat) : Nat :=
  365 * (year - 1) + (year - 1) / 4 - (year - 1) / 100 + (year - 1) / 400

/-- The number of days of a year before the first of a month. -/
def daysBeforeMonth (year : Nat) : (month : Nat) → Nat
  | 0 | 1 => 0
  | month + 2 => daysBeforeMonth year (month + 1) + monthLength year (month + 1)

/-- The number of days in the calendar. -/
def dayCount : Nat := 3652059

example : daysBeforeYear 10000 = dayCount := by decide

theorem monthLength_pos (year month : Nat) : 0 < monthLength year month := by
  unfold monthLength
  split <;> (try split) <;> decide

theorem monthLength_ge (year month : Nat) : 28 ≤ monthLength year month := by
  unfold monthLength
  split <;> (try split) <;> decide

theorem monthLength_le (year month : Nat) : monthLength year month ≤ 31 := by
  unfold monthLength
  split <;> (try split) <;> decide

/-- The year in which a day number falls: years are a little longer than 365 days, so the guess by
the mean length is off by at most one. -/
def yearOfDay (n : Nat) : Nat :=
  let guess := n * 400 / 146097 + 1
  if daysBeforeYear (guess + 1) ≤ n then guess + 1
  else if n < daysBeforeYear guess then guess - 1
  else guess

/-- The month in which a day of a year falls and the days before it in that month, counted on from
`month` over at most `more` further months. -/
def monthOfDay (year month : Nat) : Nat → Nat → Nat × Nat
  | 0, rest => (month, rest)
  | more + 1, rest =>
    if rest < monthLength year month then (month, rest)
    else monthOfDay year (month + 1) more (rest - monthLength year month)

end Calendar

open Calendar

/-! ## Dates -/

/-- A day of the calendar. -/
structure Date where
  year : Nat
  month : Nat
  day : Nat
  inCalendar : (1 ≤ year ∧ year ≤ 9999) ∧ (1 ≤ month ∧ month ≤ 12) ∧
    (1 ≤ day ∧ day ≤ monthLength year month)
deriving DecidableEq, Repr

namespace Date

/-- The date with the given year, month and day, if there is one. -/
def of? (year month day : Nat) : Option Date :=
  if h : (1 ≤ year ∧ year ≤ 9999) ∧ (1 ≤ month ∧ month ≤ 12) ∧
      (1 ≤ day ∧ day ≤ monthLength year month) then
    some ⟨year, month, day, h⟩
  else none

/-- The days since the first day of the calendar. -/
def dayNumber (d : Date) : Nat :=
  daysBeforeYear d.year + daysBeforeMonth d.year d.month + (d.day - 1)

/-- The date with a day number, if the calendar reaches it. -/
def ofDayNumber? (n : Int) : Option Date :=
  if 0 ≤ n ∧ n < dayCount then
    let year := yearOfDay n.toNat
    let (month, before) := monthOfDay year 1 11 (n.toNat - daysBeforeYear year)
    of? year month (before + 1)
  else none

/-- The day of the week, counted from zero at Monday. -/
def weekday (d : Date) : Nat :=
  d.dayNumber % 7

/-- The greatest number of days by which a date may be shifted. -/
def maxShift : Nat := 999999999

/-- What a shift out of the calendar leaves: a number of days may be too large in itself. -/
def shiftExcess (days : Int) : Excess :=
  if days.natAbs ≤ maxShift then .calendar else .days days

/-- The date a number of days later. -/
def addDays (d : Date) (days : Int) : Except Fault Date :=
  match ofDayNumber? (d.dayNumber + days) with
  | some later => .ok later
  | none => .error (.outOfRange (shiftExcess days))

/-- The months since the beginning of year zero. -/
def monthNumber (d : Date) : Nat :=
  12 * d.year + (d.month - 1)

/-- The date a number of months later, on the same day of the month or on the last one the month
has.  A year outside the calendar is a fault, of another kind when it does not fit 32 bits. -/
def addMonths (d : Date) (months : Int) : Except Fault Date :=
  let target : Int := d.monthNumber + months
  let year := target.fdiv 12
  let month := (target.fmod 12).toNat + 1
  match of? year.toNat month (min d.day (monthLength year.toNat month)) with
  | some shifted => .ok shifted
  | none => .error (if fitsBits 32 year then .noValue (.year year) else .outOfRange (.year year))

/-! ### Weeks -/

/-- Whether the weeks of a year number up to 53: those of a year that begins on a Thursday, or on a
Wednesday with 29 days in February. -/
def hasWeek53 (year : Nat) : Bool :=
  let first := daysBeforeYear year % 7
  first == 3 || (first == 2 && isLeapYear year)

/-- The day number of the Monday of week one, the week that holds the first Thursday. -/
def weekOneMonday (year : Nat) : Int :=
  let first := daysBeforeYear year
  if first % 7 ≤ 3 then (first : Int) - (first % 7 : Nat) else first - (first % 7 : Nat) + 7

/-- The date of a day of a numbered week, the days counted from one at Monday. -/
def ofWeek? (year week day : Nat) : Option Date :=
  if (1 ≤ year ∧ year ≤ 9999) ∧ 1 ≤ week ∧ (week ≤ 52 ∨ (week = 53 ∧ hasWeek53 year)) ∧
      1 ≤ day ∧ day ≤ 7 then
    ofDayNumber? (weekOneMonday year + ((week - 1) * 7 + (day - 1) : Nat))
  else none

/-! ### Facts -/

@[simp] theorem of?_self (d : Date) : of? d.year d.month d.day = some d := by
  simp [of?, d.inCalendar]

theorem eq_of_of?_eq_some {year month day : Nat} {d : Date} (h : of? year month day = some d) :
    d.year = year ∧ d.month = month ∧ d.day = day := by
  unfold of? at h
  split at h
  · cases h; exact ⟨rfl, rfl, rfl⟩
  · exact absurd h (by simp)

end Date

end TableFormula
