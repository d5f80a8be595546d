import TableFormula.Number.Arithmetic
import TableFormula.Value.Reading

/-!
# Functions of numbers

Rounding to a number of places scales the number by a power of ten, rounds it to a whole number and
scales it back.  Halves are rounded up, and a negative number of places rounds to tens, hundreds
and so on.
-/

namespace TableFormula.Function

/-- The whole number nearest to a number, a half rounded up. -/
def nearest (x : Float) : Except Fault Int :=
  Number.floor (x + 0.5)

/-- Rounds a number to a number of places, given how to round to a whole number. -/
def roundTo (round : Float → Except Fault Int) (v places : Value) : Except Fault Value := do
  let factor ← Number.power 10.0 (← places.toNumber)
  let x ← v.toNumber
  let whole ← Number.ofInt (← round (x * factor))
  return .float (← Number.divide whole factor)

/-- A function of one number. -/
def ofNumber (f : Float → Except Fault Float) (v : Value) : Except Fault Value := do
  return .float (← f (← v.toNumber))

/-- A function of two numbers. -/
def ofNumbers (f : Float → Float → Except Fault Float) (v w : Value) : Except Fault Value := do
  let x ← v.toNumber
  let y ← w.toNumber
  return .float (← f x y)

/-- The greatest whole number that is not above a number. -/
def toInteger (v : Value) : Except Fault Value := do
  return .integer (← Number.floor (← v.toNumber))

end TableFormula.Function
