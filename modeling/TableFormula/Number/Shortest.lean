import TableFormula.Number.BinaryFraction

/-!
# The fewest digits that identify a double

The reals that round to a double form an interval: from halfway to its neighbour below to halfway to
its neighbour above, ends included exactly when the mantissa is even.  Of the decimals in that
interval the one with the fewest digits is chosen, of those the nearest, and of two equally near the
one whose last digit is even.

The search goes over the grids of one, two, … seventeen digits.  On a grid only the two points next
to the number can be the answer, and both are tested exactly, in natural numbers.
-/

namespace TableFormula.Number

/-- The number `digits * 10 ^ exponent`. -/
structure Scientific where
  digits : Nat
  exponent : Int
deriving DecidableEq, Repr

/-- The order of `a * 10 ^ i` and `b * 2 ^ j`, exactly. -/
def compareScaled (a : Nat) (i : Int) (b : Nat) (j : Int) : Ordering :=
  compare (a * Nat.pow 10 i.toNat * Nat.pow 2 (-j).toNat)
    (b * Nat.pow 2 j.toNat * Nat.pow 10 (-i).toNat)

namespace BinaryFraction

/-- Whether the gap to the neighbour below is half the gap to the neighbour above. -/
def narrowBelow (d : BinaryFraction) : Bool :=
  d.mantissa == Nat.pow 2 52 && d.exponent > -1074

/-- Whether a decimal lies among the reals that round to the size of `d`. -/
def readsBack (d : BinaryFraction) (s : Scientific) : Bool :=
  let lower := if d.narrowBelow then 4 * d.mantissa - 1 else 4 * d.mantissa - 2
  let upper := 4 * d.mantissa + 2
  let closed := d.mantissa % 2 == 0
  let below := compareScaled s.digits s.exponent lower (d.exponent - 2)
  let above := compareScaled s.digits s.exponent upper (d.exponent - 2)
  (below == .gt || (closed && below == .eq)) && (above == .lt || (closed && above == .eq))

/-- The least `k` with the size of `d` below `10 ^ k`, looked for from just under its logarithm. -/
def scale (d : BinaryFraction) : Int :=
  let start := ((d.mantissa.log2 : Int) + d.exponent) * 30103 / 100000 - 1
  ((List.range 4).map fun (i : Nat) => start + i).find?
    (fun k => compareScaled 1 k d.mantissa d.exponent == .gt) |>.getD (start + 4)

/-- The greatest `n` with `n * 10 ^ grid` not above the size of `d`. -/
def below (d : BinaryFraction) (grid : Int) : Nat :=
  d.mantissa * Nat.pow 2 d.exponent.toNat * Nat.pow 10 (-grid).toNat /
    (Nat.pow 2 (-d.exponent).toNat * Nat.pow 10 grid.toNat)

/-- The answer on one grid: the point below the number or the one above it, if one reads back. -/
def onGrid? (d : BinaryFraction) (grid : Int) : Option Scientific :=
  let low : Scientific := ⟨d.below grid, grid⟩
  let high : Scientific := ⟨d.below grid + 1, grid⟩
  match d.readsBack low, d.readsBack high with
  | false, false => none
  | true, false => some low
  | false, true => some high
  | true, true =>
    match compareScaled (2 * low.digits + 1) grid d.mantissa (d.exponent + 1) with
    | .gt => some low
    | .lt => some high
    | .eq => some (if low.digits % 2 = 0 then low else high)

/-- All digits of the number. -/
def exactDigits (d : BinaryFraction) : Scientific :=
  ⟨d.mantissa * Nat.pow 2 d.exponent.toNat * Nat.pow 5 (-d.exponent).toNat,
    -((-d.exponent).toNat : Int)⟩

/-- The fewest digits that identify the size of `d`, which is not zero. -/
def shortest (d : BinaryFraction) : Scientific :=
  let k := d.scale
  ((List.range 17).findSome? fun (n : Nat) => d.onGrid? (k - (n + 1))).getD d.exactDigits

end BinaryFraction

/-- Drops the zeros at the end of the digits, at most `fuel` of them. -/
def Scientific.stripZeros (s : Scientific) : Nat → Scientific
  | 0 => s
  | fuel + 1 =>
    if s.digits % 10 = 0 then
      Scientific.stripZeros ⟨s.digits / 10, s.exponent + 1⟩ fuel
    else s

end TableFormula.Number
