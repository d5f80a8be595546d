import TableFormula.Calendar.Date

/-!
# Moments

A moment is a date and the microseconds since its midnight.  Moments are compared and shifted
through their *instant*, the microseconds since the first midnight of the calendar.

A *stamp* is a moment with or without a distance from universal time.  Without one it is read as
universal time; with one it stands for the moment that much earlier, if the calendar reaches it.
-/

namespace TableFormula

open Calendar

/-- The microseconds of a day. -/
def microsPerDay : Nat := 86400000000

/-- A date and a time of day, to the microsecond. -/
structure Moment where
  date : Date
  micros : Nat
  micros_lt : micros < microsPerDay
deriving DecidableEq, Repr

namespace Moment

/-- The beginning of a day. -/
def midnight (d : Date) : Moment :=
  ⟨d, 0, by decide⟩

/-- The moment of a day at a time of day, if there is that time. -/
def at? (d : Date) (hour minute second micro : Nat) : Option Moment :=
  if h : hour < 24 ∧ minute < 60 ∧ second < 60 ∧ micro < 1000000 then
    some ⟨d, ((hour * 60 + minute) * 60 + second) * 1000000 + micro, by
      obtain ⟨h1, h2, h3, h4⟩ := h
      unfold microsPerDay
      omega⟩
  else none

/-- The hours since midnight. -/
def hour (m : Moment) : Nat := m.micros / 3600000000

/-- The full minutes of the hour. -/
def minute (m : Moment) : Nat := m.micros / 60000000 % 60

/-- The full seconds of the minute. -/
def second (m : Moment) : Nat := m.micros / 1000000 % 60

/-- The microseconds of the second. -/
def micro (m : Moment) : Nat := m.micros % 1000000

/-- The microseconds since the first midnight of the calendar. -/
def instant (m : Moment) : Nat :=
  m.date.dayNumber * microsPerDay + m.micros

/-- The moment with an instant, if the calendar reaches it. -/
def ofInstant? (n : Int) : Option Moment :=
  (Date.ofDayNumber? (n.fdiv microsPerDay)).map fun d =>
    ⟨d, (n % microsPerDay).toNat, by
      have h0 : (0 : Int) < (microsPerDay : Int) := by decide
      have h1 := Int.emod_nonneg n (Int.ne_of_gt h0)
      have h2 := Int.emod_lt_of_pos n h0
      omega⟩

/-- The moment some microseconds later, if the calendar reaches it. -/
def shift? (m : Moment) (micros : Int) : Option Moment :=
  ofInstant? (m.instant + micros)

end Moment

/-- A distance from universal time, in microseconds; less than a day. -/
structure Offset where
  micros : Int
  within_day : -(microsPerDay : Int) < micros ∧ micros < microsPerDay
deriving DecidableEq, Repr

namespace Offset

/-- The distance of some microseconds, if it is less than a day. -/
def of? (micros : Int) : Option Offset :=
  if h : -(microsPerDay : Int) < micros ∧ micros < microsPerDay then some ⟨micros, h⟩ else none

/-- No distance. -/
def zero : Offset := ⟨0, by decide⟩

end Offset

/-- A moment as written, with its distance from universal time where that is known. -/
structure Stamp where
  moment : Moment
  offset : Option Offset
deriving DecidableEq, Repr

/-- The moment that a stamp stands for, in universal time. -/
def Stamp.toUniversal (s : Stamp) : Except Fault Moment :=
  match s.offset with
  | none => .ok s.moment
  | some offset =>
    match s.moment.shift? (-offset.micros) with
    | some m => .ok m
    | none => .error (.outOfRange .calendar)

end TableFormula
