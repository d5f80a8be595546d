import TableFormula.Number.BinaryFraction

/-!
# Arithmetic that may have no value

Sums, differences and products of doubles always have a value.  The other operations are guarded: a
division by zero, a remainder by zero, a root of a negative number or a power without a real value
is a fault, and so is a finite power or exponential that leaves the range of doubles.
-/

namespace TableFormula.Number

/-- Quotient. -/
def divide (a b : Float) : Except Fault Float :=
  if b == 0.0 then .error .divisionByZero else .ok (a / b)

/-- Remainder with the sign of the dividend.  It is exact; an infinite divisor leaves the dividend
as it is. -/
def remainder (a b : Float) : Except Fault Float :=
  match kind a, kind b with
  | .finite x, .finite y =>
    if y.mantissa = 0 then .error (.noValue .domain) else .ok (x.remainder y).toFloat
  | .finite _, .infinite _ => .ok a
  | .infinite _, .nan => .ok b
  | .infinite _, _ => .error (.noValue .domain)
  | .nan, _ => .ok a
  | .finite _, .nan => .ok b

/-- Whether a number is an odd whole number. -/
def isOdd (x : Float) : Bool :=
  match kind x with
  | .finite d => d.isWhole && d.floor % 2 == 1
  | _ => false

/-- A power without its guards.  With a zero it is what the standard for doubles says: what is raised
to zero is one, zero raised above zero is zero, with its sign if the exponent is odd, and zero raised
below zero is infinite.  It would be negative for some odd exponents, but those have no `power`. -/
def rawPower (a b : Float) : Float :=
  if b == 0.0 then 1.0
  else if a == 0.0 then
    if b.isNaN then b else if b < 0.0 then 1.0 / 0.0 else if isOdd b then a else 0.0
  else Float.pow a b

/-- Power.  Between finite numbers the result must be finite: without a real value, or with zero
raised below zero, there is none, and otherwise an infinite one is out of range. -/
def power (a b : Float) : Except Fault Float :=
  let result := rawPower a b
  if a.isFinite && b.isFinite then
    if result.isNaN then .error (.noValue .domain)
    else if result.isInf then .error (if a == 0.0 then .noValue .domain else .outOfRange .power)
    else .ok result
  else .ok result

/-- Square root of a number that is not negative. -/
def squareRoot (a : Float) : Except Fault Float :=
  if a < 0.0 then .error (.noValue .domain) else .ok (Float.sqrt a)

/-- A logarithm of a positive number. -/
def logarithm (log : Float → Float) (a : Float) : Except Fault Float :=
  if a > 0.0 then .ok (log a) else if a.isNaN then .ok a else .error (.noValue .domain)

/-- Exponential, which of zero is one. -/
def exponential (a : Float) : Except Fault Float :=
  let result := if a == 0.0 then 1.0 else Float.exp a
  if result.isInf && a.isFinite then .error (.outOfRange .power) else .ok result

end TableFormula.Number
