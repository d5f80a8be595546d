import TableFormula.Function.Text

/-!
# Functions of dates

A value that is no date has no year, no month and no distance from another one: the result is
blank.  A shift of a date gives a date in the international format and loses the time of day.
-/

namespace TableFormula.Function

/-- A part of the date of a value. -/
def datePart (reader : Everyday.Reader) (part : Date → Nat) (v : Value) : Except Fault Value := do
  match ← v.toMoment reader with
  | some m => return .integer (part m.date)
  | none => return .blank

/-- The seconds from one moment to another, to the nearest double. -/
def secondsBetween (start finish : Moment) : Float :=
  let micros : Int := (finish.instant : Int) - start.instant
  let seconds := Float.ofScientific micros.natAbs true 6
  if micros < 0 then -seconds else seconds

/-- The full days from one value to another.  The days are the floor of a quotient of doubles. -/
def daysBetween (reader : Everyday.Reader) (v w : Value) : Except Fault Value := do
  let start ← v.toMoment reader
  let finish ← w.toMoment reader
  match start, finish with
  | some start, some finish =>
    return .integer (← Number.floor (secondsBetween start finish / 86400.0))
  | _, _ => return .blank

/-! ## Shifts -/

/-- The units of shifts. -/
inductive DateUnit where
  | day
  | week
  | month
  | year
deriving DecidableEq, Repr

/-- The unit for a word in small letters. -/
def DateUnit.ofName? : String → Option DateUnit
  | "day" | "days" | "d" => some day
  | "week" | "weeks" | "w" => some week
  | "month" | "months" | "m" => some month
  | "year" | "years" | "y" => some year
  | _ => none

/-- The date some units later. -/
def DateUnit.shift : DateUnit → Date → Int → Except Fault Date
  | day, d, n => d.addDays n
  | week, d, n => d.addDays (7 * n)
  | month, d, n => d.addMonths n
  | year, d, n => d.addMonths (12 * n)

/-- The date of a value shifted by some units. -/
def shiftDate (reader : Everyday.Reader) (v count unit : Value) : Except Fault Value := do
  match ← v.toMoment reader with
  | none => return .blank
  | some m =>
    let n ← wholeNumber count
    let word := Text.lower (← unit.toText)
    match DateUnit.ofName? word with
    | some unit => return textOf (← unit.shift m.date n).isoText
    | none => throw (.unknownUnit word)

end TableFormula.Function
