import TableFormula.Number.Notation
import TableFormula.Number.Numeral

/-!
# Exact decimal numbers

A cell may hold a decimal that keeps its digits and its exponent: `2.50` and `2.5` are equal numbers
and different cells.  Besides the finite values there are two infinities and the values that are no
number, of which the *signalling* ones refuse to be compared or rounded.
-/

namespace TableFormula.Number

/-- An exact decimal. -/
inductive Decimal where
  | finite (negative : Bool) (digits : Nat) (exponent : Int)
  | infinite (negative : Bool)
  /-- No number; a nonzero `payload` is written after it. -/
  | nan (negative signalling : Bool) (payload : Nat)
deriving DecidableEq, Repr

namespace Decimal

/-- The text of a decimal without its sign: positional while the exponent is at most zero and at
most five zeros follow the point, otherwise with an exponent after the first digit. -/
def sizeText (digits : Nat) (exponent : Int) : List Char :=
  let ds := decimalDigits digits
  let left := exponent + ds.length
  let point := if exponent ≤ 0 ∧ left > -6 then left else 1
  let plain :=
    if point ≤ 0 then '0' :: '.' :: List.replicate (-point).toNat '0' ++ ds
    else if point.toNat < ds.length then ds.take point.toNat ++ '.' :: ds.drop point.toNat
    else ds ++ List.replicate (point.toNat - ds.length) '0'
  if left = point then plain
  else plain ++ 'E' :: (if left < point then '-' else '+') :: decimalDigits (left - point).natAbs

/-- The text of a decimal, which `ofText?` reads back. -/
def text (d : Decimal) : List Char :=
  match d with
  | finite negative digits exponent =>
    (if negative then ['-'] else []) ++ sizeText digits exponent
  | infinite negative => (if negative then ['-'] else []) ++ infinityWord
  | nan negative signalling payload =>
    (if negative then ['-'] else []) ++ (if signalling then ['s'] else []) ++ ['N', 'a', 'N'] ++
      (if payload = 0 then [] else decimalDigits payload)

/-- Reads what stands after the letters of a value that is no number. -/
def readPayload? (negative signalling : Bool) (cs : List Char) : Option Decimal :=
  if cs.all Char.isDigit then some (nan negative signalling (natOf cs)) else none

/-- Reads a decimal, in small or capital letters. -/
def ofText? (cs : List Char) : Option Decimal :=
  let (negative, body) := readSign cs
  match body.map Char.toLower with
  | ['i', 'n', 'f'] | ['i', 'n', 'f', 'i', 'n', 'i', 't', 'y'] => some (infinite negative)
  | 'n' :: 'a' :: 'n' :: payload => readPayload? negative false payload
  | 's' :: 'n' :: 'a' :: 'n' :: payload => readPayload? negative true payload
  | _ =>
    match readDecimal? body with
    | some (.decimal digits exponent, []) => some (finite negative digits exponent)
    | _ => none

/-- The double nearest to a decimal; a signalling value has none. -/
def toFloat : Decimal → Except Fault Float
  | finite negative digits exponent =>
    .ok (Numeral.toFloat ⟨negative, .decimal digits exponent⟩)
  | infinite negative => .ok (Numeral.toFloat ⟨negative, .infinite⟩)
  | nan _ false _ => .ok (0.0 / 0.0)
  | nan _ true _ => .error (.noValue .signalling)

/-- Whether a decimal equals zero; a signalling value cannot be compared. -/
def isZero : Decimal → Except Fault Bool
  | finite _ digits _ => .ok (digits == 0)
  | infinite _ => .ok false
  | nan _ false _ => .ok false
  | nan _ true _ => .error .signalling

/-- Whether a decimal equals one; a signalling value cannot be compared. -/
def isOne : Decimal → Except Fault Bool
  | finite negative digits exponent =>
    .ok (!negative && exponent ≤ 0 && (decimalDigits digits).length == exponent.natAbs + 1 &&
      digits == Nat.pow 10 exponent.natAbs)
  | infinite _ => .ok false
  | nan _ false _ => .ok false
  | nan _ true _ => .error .signalling

end Decimal

end TableFormula.Number
