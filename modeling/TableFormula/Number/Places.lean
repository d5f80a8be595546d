import TableFormula.Number.Rounding

/-!
# Numbers with a given number of digits

Where the places after the point, or the digits of a number, are asked for, the exact value is
rounded to them.  There are three styles: with a given number of places, with an exponent behind one
digit and a given number of places, and with a given number of digits in whichever of the two is
the shorter.
-/

namespace TableFormula.Number

/-- Digits with a point before them, unless there are none and no point is asked for. -/
def pointed (point : Bool) (digits : List Char) : List Char :=
  if digits.isEmpty && !point then [] else '.' :: digits

/-- Digits without the zeros at their end. -/
def dropLastZeros (digits : List Char) : List Char :=
  (digits.reverse.dropWhile (· == '0')).reverse

namespace Scientific

/-- The exponent of the leading digit, and `count` digits from there on, of the number rounded to
them. -/
def leading (count : Nat) (s : Scientific) : Int × List Char :=
  let t := s.round count
  let digits := decimalDigits t.digits
  if t.digits = 0 then (0, List.replicate count '0')
  else (t.exponent + digits.length - 1,
    digits.take count ++ List.replicate (count - digits.length) '0')

/-- The number with some places after the point. -/
def fixed (places : Nat) (point : Bool) (s : Scientific) : List Char :=
  let digits := padded (places + 1) (s.atPlaces places)
  let whole := digits.length - places
  digits.take whole ++ pointed point (digits.drop whole)

/-- An exponent of at least two digits, behind its mark. -/
def exponentText (exponent : Int) : List Char :=
  'e' :: (if exponent < 0 then '-' else '+') :: padded 2 exponent.natAbs

/-- The number with one digit in front of the point, some places after it, and an exponent. -/
def withExponent (places : Nat) (point : Bool) (s : Scientific) : List Char :=
  let (exponent, digits) := s.leading (places + 1)
  digits.take 1 ++ pointed point (digits.drop 1) ++ exponentText exponent

/-- The number in some digits, positionally while the leading digit has an exponent from `-4` up to
their number.  Zeros at the end are kept with a point only. -/
def general (count : Nat) (point : Bool) (s : Scientific) : List Char :=
  let count := max 1 count
  let (exponent, digits) := s.leading count
  let kept (digits : List Char) : List Char :=
    pointed point (if point then digits else dropLastZeros digits)
  if exponent < -4 ∨ (count : Int) ≤ exponent then
    digits.take 1 ++ kept (digits.drop 1) ++ exponentText exponent
  else if exponent < 0 then
    '0' :: kept (List.replicate (exponent.natAbs - 1) '0' ++ digits)
  else digits.take (exponent.toNat + 1) ++ kept (digits.drop (exponent.toNat + 1))

end Scientific

end TableFormula.Number
