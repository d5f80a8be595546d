import TableFormula.Number.BinaryFraction

/-!
# Numbers read from text

A *numeral* is an optional sign followed by `Infinity`, or by digits with an optional point and an
optional exponent.  A reader takes the longest numeral that a text begins with and gives back the
rest.  The value of a numeral is the double nearest to it.
-/

namespace TableFormula.Number

/-! ## Digits -/

/-- The number that ASCII digits spell. -/
def natOf (digits : List Char) : Nat :=
  digits.foldl (fun n c => 10 * n + (c.toNat - 48)) 0

/-- The digits that a text begins with, and the rest. -/
def spanDigits (cs : List Char) : List Char × List Char :=
  (cs.takeWhile Char.isDigit, cs.dropWhile Char.isDigit)

@[simp] theorem spanDigits_append (cs : List Char) :
    (spanDigits cs).1 ++ (spanDigits cs).2 = cs :=
  List.takeWhile_append_dropWhile

theorem length_spanDigits_le (cs : List Char) : (spanDigits cs).2.length ≤ cs.length := by
  have := congrArg List.length (spanDigits_append cs)
  simp only [List.length_append] at this
  omega

/-! ## Numerals -/

/-- The size of a numeral: `digits * 10 ^ exponent`, or infinite. -/
inductive Magnitude where
  | infinite
  | decimal (digits : Nat) (exponent : Int)
deriving DecidableEq, Repr

/-- A signed size. -/
structure Numeral where
  negative : Bool
  size : Magnitude
deriving DecidableEq, Repr

/-- The double nearest to a size. -/
def Magnitude.toFloat : Magnitude → Float
  | .infinite => 1.0 / 0.0
  | .decimal digits exponent => Float.ofScientific digits (exponent < 0) exponent.natAbs

/-- The double nearest to a numeral. -/
def Numeral.toFloat (n : Numeral) : Float :=
  if n.negative then -n.size.toFloat else n.size.toFloat

/-- Reads an optional sign; the flag says whether it was a minus. -/
def readSign : List Char → Bool × List Char
  | '+' :: rest => (false, rest)
  | '-' :: rest => (true, rest)
  | cs => (false, cs)

/-- Reads digits with an optional point among them or in front; the second list holds the digits
after the point.  A point alone is no number. -/
def readPoint? (cs : List Char) : Option (List Char × List Char × List Char) :=
  match spanDigits cs with
  | ([], '.' :: rest) =>
    match spanDigits rest with
    | ([], _) => none
    | (fraction, rest) => some ([], fraction, rest)
  | ([], _) => none
  | (whole, '.' :: rest) => some (whole, spanDigits rest)
  | (whole, rest) => some (whole, [], rest)

/-- Reads a complete exponent; where none stands the exponent is zero and nothing is read. -/
def readExponent (cs : List Char) : Int × List Char :=
  match cs with
  | [] => (0, cs)
  | mark :: rest =>
    if mark = 'e' ∨ mark = 'E' then
      match spanDigits (readSign rest).2 with
      | ([], _) => (0, cs)
      | (digits, rest') =>
        (if (readSign rest).1 then -(natOf digits : Int) else natOf digits, rest')
    else (0, cs)

/-- Reads the longest unsigned decimal. -/
def readDecimal? (cs : List Char) : Option (Magnitude × List Char) :=
  match readPoint? cs with
  | none => none
  | some (whole, fraction, rest) =>
    let (exponent, rest) := readExponent rest
    some (.decimal (natOf (whole ++ fraction)) (exponent - fraction.length), rest)

/-- The word for an infinite number. -/
def infinityWord : List Char :=
  ['I', 'n', 'f', 'i', 'n', 'i', 't', 'y']

/-- Reads the longest numeral that a text begins with. -/
def Numeral.read? (cs : List Char) : Option (Numeral × List Char) :=
  let (negative, body) := readSign cs
  if infinityWord.isPrefixOf body then
    some (⟨negative, .infinite⟩, body.drop infinityWord.length)
  else
    (readDecimal? body).map fun (size, rest) => (⟨negative, size⟩, rest)

end TableFormula.Number
