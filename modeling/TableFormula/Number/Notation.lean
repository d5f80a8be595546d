import TableFormula.Number.Shortest

/-!
# How a double is written

Which digits are written is settled by `BinaryFraction.shortest`; how they are laid out is a small
record.  Numbers whose leading digit has a middling exponent are written positionally and always
show a point, the others with an exponent that always shows its sign.
-/

namespace TableFormula.Number

/-- The digits of a natural number. -/
def decimalDigits (n : Nat) : List Char :=
  Nat.toDigits 10 n

/-- The digits of a natural number, with zeros in front up to a width. -/
def padded (width n : Nat) : List Char :=
  List.replicate (width - (decimalDigits n).length) '0' ++ decimalDigits n

/-- The text of a whole number. -/
def integerText (n : Int) : List Char :=
  if n < 0 then '-' :: decimalDigits n.natAbs else decimalDigits n.natAbs

/-- Whether a whole number can be shown: its digits must stay within the limit. -/
def isShowable (n : Int) : Bool :=
  (decimalDigits n.natAbs).length ≤ digitLimit

/-- The decisions that lay out the digits of a number. -/
structure Notation where
  /-- The least exponent of the leading digit that is written positionally. -/
  plainFrom : Int
  /-- The least exponent above it that is not. -/
  plainBelow : Int
  /-- The least number of exponent digits. -/
  exponentWidth : Nat

/-- Cells, literals and messages: positional from `0.0001` up to `10 ^ 16`, exponents of two digits
at least. -/
def cellNotation : Notation := ⟨-4, 16, 2⟩

/-- Numbers of a log line: positional from `0.00001` up to `10 ^ 16`, exponents as short as they
come. -/
def logNotation : Notation := ⟨-5, 16, 1⟩

/-- The digits of a number in a notation. -/
def Notation.layout (form : Notation) (s : Scientific) : List Char :=
  let digits := decimalDigits s.digits
  let point := (digits.length : Int) + s.exponent
  let leading := point - 1
  if form.plainFrom ≤ leading ∧ leading < form.plainBelow then
    if point ≤ 0 then '0' :: '.' :: List.replicate (-point).toNat '0' ++ digits
    else if point.toNat < digits.length then
      digits.take point.toNat ++ '.' :: digits.drop point.toNat
    else digits ++ List.replicate (point.toNat - digits.length) '0' ++ ['.', '0']
  else
    let tail := digits.drop 1
    digits.take 1 ++ (if tail = [] then [] else '.' :: tail) ++
      'e' :: (if leading < 0 then '-' else '+') :: padded form.exponentWidth leading.natAbs

/-- A finite double in a notation. -/
def Notation.fraction (form : Notation) (d : BinaryFraction) : List Char :=
  let size :=
    if d.mantissa = 0 then ['0', '.', '0'] else form.layout (d.shortest.stripZeros 400)
  if d.negative then '-' :: size else size

/-- The three values without digits, in words. -/
structure SpecialWords where
  nan : String
  infinite : String

/-- A double in a notation, with words for the values that have no digits. -/
def Notation.text (form : Notation) (words : SpecialWords) (x : Float) : String :=
  match kind x with
  | .nan => words.nan
  | .infinite negative => (if negative then "-" else "") ++ words.infinite
  | .finite d => String.ofList (form.fraction d)

end TableFormula.Number
