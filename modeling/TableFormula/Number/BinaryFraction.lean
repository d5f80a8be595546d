import TableFormula.Fault

/-!
# Floating-point numbers as exact fractions

A finite double is a whole number times a power of two.  What the language needs beyond the
arithmetic of doubles (rounding to a whole number, the remainder of a division, the digits that
identify a number) is computed on that exact value.
-/

namespace TableFormula.Number

/-- The number `mantissa * 2 ^ exponent`, negated when `negative`. -/
structure BinaryFraction where
  negative : Bool
  mantissa : Nat
  exponent : Int
deriving DecidableEq, Repr

/-- A double: not a number, an infinity, or an exact fraction. -/
inductive Kind where
  | nan
  | infinite (negative : Bool)
  | finite (value : BinaryFraction)
deriving DecidableEq, Repr

/-- What the bits of a double stand for. -/
def kind (x : Float) : Kind :=
  let bits : Nat := x.toBits.toNat
  let negative := bits / Nat.pow 2 63 == 1
  let scale : Nat := bits / Nat.pow 2 52 % Nat.pow 2 11
  let tail : Nat := bits % Nat.pow 2 52
  if scale = 2047 then
    if tail = 0 then .infinite negative else .nan
  else if scale = 0 then .finite ⟨negative, tail, -1074⟩
  else .finite ⟨negative, Nat.pow 2 52 + tail, (scale : Int) - 1075⟩

namespace BinaryFraction

/-- The numerator of the fraction, with its sign. -/
def numerator (d : BinaryFraction) : Int :=
  let n : Int := (d.mantissa * Nat.pow 2 d.exponent.toNat : Nat)
  if d.negative then -n else n

/-- The denominator of the fraction, a power of two. -/
def denominator (d : BinaryFraction) : Nat :=
  Nat.pow 2 (-d.exponent).toNat

theorem denominator_pos (d : BinaryFraction) : 0 < d.denominator :=
  Nat.pow_pos (by decide)

/-- The greatest whole number that is not above the fraction. -/
def floor (d : BinaryFraction) : Int :=
  d.numerator.fdiv d.denominator

/-- The least whole number that is not below the fraction. -/
def ceil (d : BinaryFraction) : Int :=
  -(-d.numerator).fdiv d.denominator

/-- The fraction without what follows the point. -/
def truncate (d : BinaryFraction) : Int :=
  d.numerator.tdiv d.denominator

/-- Whether the fraction is a whole number. -/
def isWhole (d : BinaryFraction) : Bool :=
  d.numerator % d.denominator == 0

/-- The double nearest to the fraction.  A power of two is a decimal fraction, so the reader of
decimals serves. -/
def toFloat (d : BinaryFraction) : Float :=
  let down := (-d.exponent).toNat
  let x := Float.ofScientific (d.mantissa * Nat.pow 2 d.exponent.toNat * Nat.pow 5 down) true down
  if d.negative then -x else x

/-- The remainder of a division whose quotient is cut to a whole number: it has the sign of the
dividend and is smaller than the divisor. -/
def remainder (a b : BinaryFraction) : BinaryFraction :=
  let scale := min a.exponent b.exponent
  let part (d : BinaryFraction) : Nat := d.mantissa * Nat.pow 2 (d.exponent - scale).toNat
  ⟨a.negative, part a % part b, scale⟩

end BinaryFraction

/-! ## Rounding to whole numbers -/

/-- Rounds a finite double; an infinity is out of range and a NaN has no value. -/
def rounded (round : BinaryFraction → Int) (x : Float) : Except Fault Int :=
  match kind x with
  | .nan => .error (.noValue .whole)
  | .infinite _ => .error (.outOfRange .whole)
  | .finite d => .ok (round d)

/-- The greatest whole number that is not above `x`. -/
def floor : Float → Except Fault Int := rounded BinaryFraction.floor

/-- The least whole number that is not below `x`. -/
def ceil : Float → Except Fault Int := rounded BinaryFraction.ceil

/-- `x` without what follows the point. -/
def truncate : Float → Except Fault Int := rounded BinaryFraction.truncate

/-- The double nearest to a whole number, which must lie in the range of doubles. -/
def ofInt (n : Int) : Except Fault Float :=
  let x := Float.ofInt n
  if x.isInf then .error (.outOfRange .double) else .ok x

end TableFormula.Number
