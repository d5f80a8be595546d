import TableFormula.Number.Notation

/-!
# Rounding to a number of digits

A quotient is rounded to the nearest whole number; of two that are equally near the even one is
taken.  Everything that keeps a given number of digits, or of places after the point, comes down to
such a quotient by a power of ten.
-/

namespace TableFormula.Number

/-- The whole number nearest to `n / d`; a half goes to the even neighbour. -/
def roundDiv (n d : Nat) : Nat :=
  if 2 * (n % d) < d then n / d
  else if d < 2 * (n % d) then n / d + 1
  else n / d + n / d % 2

/-- What is rounded away is at most a half. -/
theorem roundDiv_near (n : Nat) {d : Nat} (hd : 0 < d) :
    2 * (roundDiv n d * d) ≤ 2 * n + d ∧ 2 * n ≤ 2 * (roundDiv n d * d) + d := by
  have h := Nat.div_add_mod n d
  have hm : n / d * d = d * (n / d) := Nat.mul_comm ..
  have hlt := Nat.mod_lt n hd
  unfold roundDiv
  split
  · omega
  · split
    · rw [Nat.add_mul, Nat.one_mul]
      omega
    · have hb : n / d % 2 = 0 ∨ n / d % 2 = 1 := by omega
      rcases hb with hb | hb <;> rw [hb] <;> simp only [Nat.add_mul, Nat.one_mul, Nat.add_zero] <;>
        omega

namespace Scientific

/-- The number with at most `count` digits that is nearest to `s`. -/
def round (count : Nat) (s : Scientific) : Scientific :=
  let extra := (decimalDigits s.digits).length - count
  ⟨roundDiv s.digits (Nat.pow 10 extra), s.exponent + extra⟩

/-- The number in units of its last place, when `places` digits follow the point. -/
def atPlaces (places : Nat) (s : Scientific) : Nat :=
  let shift := s.exponent + places
  roundDiv (s.digits * Nat.pow 10 shift.toNat) (Nat.pow 10 (-shift).toNat)

/-- The number without what follows the point. -/
def floor (s : Scientific) : Nat :=
  s.digits * Nat.pow 10 s.exponent.toNat / Nat.pow 10 (-s.exponent).toNat

/-- A multiple of the number. -/
def times (n : Nat) (s : Scientific) : Scientific :=
  ⟨n * s.digits, s.exponent⟩

end Scientific

end TableFormula.Number
