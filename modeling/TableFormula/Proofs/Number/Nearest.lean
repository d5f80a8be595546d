import Mathlib.Algebra.Order.Field.Power
import Mathlib.Data.Rat.Cast.Order
import Mathlib.Tactic.FieldSimp
import Mathlib.Tactic.Linarith
import Mathlib.Tactic.Positivity
import Mathlib.Tactic.Ring

/-!
# The nearest double

A positive number between two doubles is rounded to the nearest one, and half-way between them to
the one with an even last digit.  Doubles of one size are the multiples of a power of two by numbers
of fifty-three binary digits; `RoundsTo` says this of the multiple that is taken, and `Nearest` of
its value.

**The whole range.**  Numbers next to zero have fewer digits, since there is a least unit (`Rounds`).
A number is still rounded in one way only (`Rounds.unique`), and `Rounds.two_pow_le_iff` says from
where on it is rounded out of the range of doubles.

**Whole numbers.**  Below `2 ^ 52` every whole number is a double, in the middle of others.  So a
number that is rounded does not pass a whole number, it may only reach it, and
`Nearest.nat_le_iff_of_lt` says from where it does.

**Quotients.**  A double that differs from a multiple of a divisor differs enough for the rounded
quotient to tell (`Nearest.nat_le_div_iff`).
-/

namespace TableFormula.Number

/-- The multiple of a power of two that is nearest to a number, the even one of two. -/
structure NearestMultiple (t : ℚ) (u : ℤ) (m : ℕ) : Prop where
  near : |t - m * 2 ^ u| ≤ 2 ^ u / 2
  even : |t - m * 2 ^ u| = 2 ^ u / 2 → Even m

/-- A number, the power of two that is its unit in the last place, and the nearest multiple. -/
structure RoundsTo (t : ℚ) (u : ℤ) (m : ℕ) : Prop extends NearestMultiple t u m where
  lower : 2 ^ 52 * 2 ^ u ≤ t
  upper : t < 2 ^ 53 * 2 ^ u

/-- The nearest double to a positive number. -/
def Nearest (t r : ℚ) : Prop :=
  ∃ (u : ℤ) (m : ℕ), RoundsTo t u m ∧ r = m * 2 ^ u

variable {t r : ℚ} {u : ℤ} {m w z : ℕ}

/-! ## Multiples of the last place -/

lemma unit_pos (u : ℤ) : (0 : ℚ) < 2 ^ u :=
  zpow_pos (by norm_num) u

lemma mul_unit_le (u : ℤ) (h : m ≤ w) : (m : ℚ) * 2 ^ u ≤ w * 2 ^ u :=
  mul_le_mul_of_nonneg_right (by exact_mod_cast h) (unit_pos u).le

/-- Different multiples are at least one unit apart. -/
lemma succ_mul_unit_le (u : ℤ) (h : m < w) : ((m : ℚ) + 1) * 2 ^ u ≤ w * 2 ^ u := by
  have hsucc := mul_unit_le u (Nat.succ_le_of_lt h)
  rwa [Nat.cast_succ] at hsucc

namespace NearestMultiple

variable (h : NearestMultiple t u m)

include h

lemma le_of_le (hw : t ≤ w * 2 ^ u) : m ≤ w := by
  by_contra hlt
  have hnear := (abs_le.mp h.near).1
  linarith [unit_pos u, succ_mul_unit_le u (not_le.mp hlt)]

lemma ge_of_ge (hw : w * 2 ^ u ≤ t) : w ≤ m := by
  by_contra hlt
  have hnear := (abs_le.mp h.near).2
  linarith [unit_pos u, succ_mul_unit_le u (not_le.mp hlt)]

/-- Half-way below an even multiple a number is rounded up to it. -/
lemma ge_iff_of_even (hw : Even w) : w ≤ m ↔ w * 2 ^ u - t ≤ 2 ^ u / 2 := by
  have hunit := unit_pos u
  have hnear := abs_le.mp h.near
  constructor
  · intro hle
    linarith [mul_unit_le u hle]
  · intro hlack
    by_contra hlt
    have hsucc := succ_mul_unit_le u (not_le.mp hlt)
    have htie : t - m * 2 ^ u = 2 ^ u / 2 := by linarith
    have hnext : (w : ℚ) = m + 1 :=
      mul_right_cancel₀ hunit.ne' (le_antisymm (by linarith) hsucc)
    have hodd : w = m + 1 := by exact_mod_cast hnext
    have hmeven := h.even (by rw [htie, abs_of_pos (by linarith)])
    rw [hodd] at hw
    exact Nat.not_even_iff_odd.mpr hmeven.add_one hw

/-- Half-way above an even multiple a number is rounded down to it. -/
lemma le_iff_of_even (hw : Even w) : m ≤ w ↔ t - w * 2 ^ u ≤ 2 ^ u / 2 := by
  have hunit := unit_pos u
  have hnear := abs_le.mp h.near
  constructor
  · intro hle
    linarith [mul_unit_le u hle]
  · intro hexcess
    by_contra hlt
    have hsucc := succ_mul_unit_le u (not_le.mp hlt)
    have htie : t - m * 2 ^ u = -(2 ^ u / 2) := by linarith
    have hnext : (m : ℚ) = w + 1 :=
      mul_right_cancel₀ hunit.ne' (le_antisymm (by linarith) hsucc)
    have hodd : m = w + 1 := by exact_mod_cast hnext
    have hmeven := h.even (by rw [htie, abs_neg, abs_of_pos (by linarith)])
    rw [hodd] at hmeven
    exact Nat.not_even_iff_odd.mpr hw.add_one hmeven

end NearestMultiple

namespace RoundsTo

variable (h : RoundsTo t u m)

include h

lemma pos : 0 < t :=
  (mul_pos (by norm_num) (unit_pos u)).trans_le h.lower

lemma bounds : 2 ^ 52 ≤ m ∧ m ≤ 2 ^ 53 :=
  ⟨h.ge_of_ge (by push_cast; exact h.lower), h.le_of_le (by push_cast; exact h.upper.le)⟩

/-- Rounding changes a number by less than one part in `2 ^ 53`. -/
lemma error_lt : |t - m * 2 ^ u| < t / 2 ^ 53 := by
  have hunit := unit_pos u
  obtain hlt | heq := lt_or_eq_of_le h.lower
  · linarith [h.near]
  · have hm : m = 2 ^ 52 :=
      le_antisymm (h.le_of_le (by push_cast; exact heq.symm.le)) h.bounds.1
    have hexact : t - m * 2 ^ u = 0 := by rw [hm, ← heq]; push_cast; ring
    rw [hexact, abs_zero]
    linarith

/-- A number is below the least one with the next unit. -/
lemma exponent_lt {b : ℕ} (ht : t < 2 ^ (52 + b)) : u < b := by
  by_contra hu
  have hpow : (2 : ℚ) ^ b ≤ 2 ^ u := by
    rw [← zpow_natCast]
    exact zpow_le_zpow_right₀ (by norm_num) (not_lt.mp hu)
  rw [pow_add] at ht
  linarith [h.lower]

/-- The unit of a number is known from its size. -/
lemma pow_eq {b : ℕ} (hlow : 2 ^ b ≤ t) (hup : t < 2 ^ (b + 1)) :
    (2 : ℚ) ^ b = 2 ^ 52 * 2 ^ u := by
  have hpow : ∀ n : ℕ, (2 : ℚ) ^ n * 2 ^ u = 2 ^ ((n : ℤ) + u) := fun n => by
    rw [zpow_add₀ (by norm_num), zpow_natCast]
  have hlt := h.lower.trans_lt hup
  have hlt' := hlow.trans_lt h.upper
  rw [hpow, ← zpow_natCast, zpow_lt_zpow_iff_right₀ (by norm_num)] at hlt hlt'
  push_cast at hlt hlt'
  rw [hpow, ← zpow_natCast]
  congr 1
  omega

end RoundsTo

/-! ## The whole range of doubles -/

/-- A number, its unit in the last place and the nearest multiple, over the whole range of doubles:
the unit is never below the least one, so small numbers have fewer digits. -/
structure Rounds (t : ℚ) (u : ℤ) (m : ℕ) : Prop extends NearestMultiple t u m where
  least : -1074 ≤ u
  full : 2 ^ 52 * 2 ^ u ≤ t ∨ u = -1074
  upper : t < 2 ^ 53 * 2 ^ u

/-- The mantissa and the exponent of a double, if there were no greatest exponent. -/
structure IsDouble (m : ℕ) (e : ℤ) : Prop where
  upper : m < 2 ^ 53
  least : -1074 ≤ e
  full : 2 ^ 52 ≤ m ∨ e = -1074

lemma two_pow_mul_unit (n : ℕ) (u : ℤ) : (2 : ℚ) ^ n * 2 ^ u = 2 ^ (n + u) := by
  rw [zpow_add₀ two_ne_zero, zpow_natCast]

/-- The first power of two that is no double, by the greatest unit. -/
lemma two_pow_limit : (2 : ℚ) ^ 1024 = 2 ^ 53 * 2 ^ (971 : ℤ) := by
  rw [two_pow_mul_unit]
  norm_num

/-- The unit of one number is at most the one of another, if a full mantissa of the first is below
a mantissa that is too long for the second. -/
lemma unit_le_of_lt {u u' : ℤ} (h : (2 : ℚ) ^ 52 * 2 ^ u < 2 ^ 53 * 2 ^ u') : u ≤ u' := by
  rw [two_pow_mul_unit, two_pow_mul_unit, zpow_lt_zpow_iff_right₀ one_lt_two] at h
  push_cast at h
  omega

namespace Rounds

variable {u' : ℤ} {m' : ℕ} (h : Rounds t u m)

include h

lemma le_two_pow : m ≤ 2 ^ 53 :=
  h.le_of_le (by push_cast; exact h.upper.le)

lemma full_mantissa : 2 ^ 52 ≤ m ∨ u = -1074 :=
  h.full.imp_left fun hlow => h.ge_of_ge (by push_cast; exact hlow)

/-- A number that is not below one does not become zero. -/
lemma mantissa_pos (ht : 1 ≤ t) : 0 < m := by
  obtain hfull | rfl := h.full_mantissa
  · exact Nat.lt_of_lt_of_le (by decide) hfull
  · have hlow : (2 : ℚ) ^ 53 * 2 ^ (-1074 : ℤ) ≤ 1 := by
      rw [two_pow_mul_unit]
      exact zpow_le_one_of_nonpos₀ one_le_two (by norm_num)
    exact absurd (h.upper.trans_le hlow) ht.not_gt

/-- A number that is not too small is rounded to a full mantissa. -/
lemma roundsTo (ht : 2 ^ 52 * 2 ^ (-1074 : ℤ) ≤ t) : RoundsTo t u m where
  toNearestMultiple := h.toNearestMultiple
  upper := h.upper
  lower := by
    obtain hlow | hleast := h.full
    · exact hlow
    · rwa [hleast]

lemma unit_le (h' : Rounds t u' m') : u ≤ u' := by
  obtain hlow | hleast := h.full
  · exact unit_le_of_lt (hlow.trans_lt h'.upper)
  · exact hleast.le.trans h'.least

lemma mantissa_le (h' : Rounds t u m') : m ≤ m' := by
  by_contra hlt
  have hsucc := succ_mul_unit_le u (not_le.mp hlt)
  have hnear := (abs_le.mp h.near).1
  have hnear' := (abs_le.mp h'.near).2
  -- The number lies half-way between two multiples that follow each other, and both are even.
  have htie : t - m' * 2 ^ u = 2 ^ u / 2 := by linarith
  have htie' : t - m * 2 ^ u = -(2 ^ u / 2) := by linarith
  have hunit := unit_pos u
  have hnext : (m : ℚ) = m' + 1 := by
    refine mul_right_cancel₀ hunit.ne' (le_antisymm ?_ hsucc)
    linarith
  have hodd : m = m' + 1 := by exact_mod_cast hnext
  have heven' := h'.even (by rw [htie, abs_of_pos (by linarith)])
  have heven := h.even (by rw [htie', abs_neg, abs_of_pos (by linarith)])
  rw [hodd] at heven
  exact Nat.not_even_iff_odd.mpr heven'.add_one heven

/-- A number is rounded in one way only. -/
lemma unique (h' : Rounds t u' m') : u = u' ∧ m = m' := by
  obtain rfl : u = u' := le_antisymm (h.unit_le h') (h'.unit_le h)
  exact ⟨rfl, le_antisymm (h.mantissa_le h') (h'.mantissa_le h)⟩

/-- A number is rounded out of the range of doubles from half-way between the greatest double and
the first power of two that is none. -/
lemma two_pow_le_iff : 2 ^ 1024 ≤ (m : ℚ) * 2 ^ u ↔ 2 ^ 1024 - 2 ^ 970 ≤ t := by
  have hunit := unit_pos u
  have hhalf : (2 : ℚ) ^ 970 = 2 ^ (971 : ℤ) / 2 := by
    rw [zpow_ofNat, pow_succ (2 : ℚ) 970, mul_div_cancel_right₀ _ two_ne_zero]
  have hlast := unit_pos 971
  rw [two_pow_limit, hhalf]
  obtain hsmall | rfl | hlarge := lt_trichotomy u 971
  · have hpow : (2 : ℚ) ^ u * 2 ≤ 2 ^ (971 : ℤ) := by
      rw [← zpow_add_one₀ two_ne_zero]
      exact zpow_le_zpow_right₀ one_le_two (by omega)
    have hvalue := mul_unit_le u h.le_two_pow
    have hupper := h.upper
    rw [Nat.cast_pow, Nat.cast_ofNat] at hvalue
    generalize (2 : ℚ) ^ (971 : ℤ) = last at *
    exact iff_of_false (by linarith) (by linarith)
  · have hiff := h.ge_iff_of_even (w := 2 ^ 53) (by decide)
    rw [← Nat.cast_le (α := ℚ), Nat.cast_pow, Nat.cast_ofNat] at hiff
    rw [mul_le_mul_iff_left₀ hlast, hiff]
    constructor <;> intro hlack <;> linarith
  · have hmantissa : 2 ^ 52 ≤ m := h.full_mantissa.resolve_right (by omega)
    have hpow : (2 : ℚ) ^ (971 : ℤ) * 2 ≤ 2 ^ u := by
      rw [← zpow_add_one₀ two_ne_zero]
      exact zpow_le_zpow_right₀ one_le_two (by omega)
    have hvalue := mul_unit_le u hmantissa
    have hlow := h.full.resolve_right (by omega)
    rw [Nat.cast_pow, Nat.cast_ofNat] at hvalue
    generalize (2 : ℚ) ^ (971 : ℤ) = last at *
    exact iff_of_true (by linarith) (by linarith)

end Rounds

namespace IsDouble

variable {m' : ℕ} {e e' : ℤ} (h : IsDouble m e)

include h

lemma rounds : Rounds (m * 2 ^ e) e m where
  near := by
    rw [sub_self, abs_zero]
    exact (half_pos (unit_pos e)).le
  even htie := by
    rw [sub_self, abs_zero] at htie
    exact absurd htie (half_pos (unit_pos e)).ne
  least := h.least
  full := h.full.imp_left fun hm => by
    have hvalue := mul_unit_le e hm
    rwa [Nat.cast_pow, Nat.cast_ofNat] at hvalue
  upper := mul_lt_mul_of_pos_right (by exact_mod_cast h.upper) (unit_pos e)

/-- Doubles are below a power of two. -/
lemma lt_of_le (he : e ≤ 971) : (m : ℚ) * 2 ^ e < 2 ^ 1024 := by
  have hpow : (2 : ℚ) ^ e ≤ 2 ^ (971 : ℤ) := zpow_le_zpow_right₀ one_le_two he
  rw [two_pow_limit]
  exact h.rounds.upper.trans_le (mul_le_mul_of_nonneg_left hpow (by norm_num))

/-- Below that power of two the exponent is not too great. -/
lemma le_of_lt (hlt : (m : ℚ) * 2 ^ e < 2 ^ 1024) : e ≤ 971 := by
  by_contra hlarge
  have hm : 2 ^ 52 ≤ m := h.full.resolve_right (by omega)
  have hvalue := (mul_unit_le e hm).trans_lt hlt
  rw [Nat.cast_pow, Nat.cast_ofNat, two_pow_mul_unit, ← zpow_natCast,
    zpow_lt_zpow_iff_right₀ one_lt_two] at hvalue
  push_cast at hvalue
  omega

/-- A double has one mantissa and one exponent. -/
lemma unique (h' : IsDouble m' e') (heq : (m : ℚ) * 2 ^ e = m' * 2 ^ e') : m = m' ∧ e = e' :=
  (h.rounds.unique (heq ▸ h'.rounds)).symm

end IsDouble

/-! ## Whole numbers and units -/

/-- A whole number is a multiple of any unit that is not greater than one, and an even one of a
smaller unit. -/
lemma exists_eq_mul_unit (hu : u < 1) (z : ℕ) :
    ∃ w : ℕ, (z : ℚ) = w * 2 ^ u ∧ (u < 0 → Even w) := by
  obtain ⟨n, rfl⟩ : ∃ n : ℕ, u = -(n : ℤ) := ⟨(-u).toNat, by omega⟩
  refine ⟨z * 2 ^ n, ?_, fun hneg => (even_two.pow_of_ne_zero (by omega)).mul_left z⟩
  rw [zpow_neg, zpow_natCast]
  push_cast
  field_simp

/-! ## Whole numbers -/

namespace Nearest

variable (h : Nearest t r)

include h

lemma le_nat (ht : t < 2 ^ 53) (hz : t ≤ z) : r ≤ z := by
  obtain ⟨u, m, hm, rfl⟩ := h
  obtain ⟨w, hw, -⟩ := exists_eq_mul_unit (hm.exponent_lt (b := 1) ht) z
  rw [hw] at hz ⊢
  exact mul_unit_le u (hm.le_of_le hz)

lemma nat_le (ht : t < 2 ^ 53) (hz : z ≤ t) : z ≤ r := by
  obtain ⟨u, m, hm, rfl⟩ := h
  obtain ⟨w, hw, -⟩ := exists_eq_mul_unit (hm.exponent_lt (b := 1) ht) z
  rw [hw] at hz ⊢
  exact mul_unit_le u (hm.ge_of_ge hz)

lemma pos : 0 < t :=
  h.choose_spec.choose_spec.1.pos

lemma eq_nat (ht : t < 2 ^ 53) (hz : t = z) : r = z :=
  le_antisymm (h.le_nat ht hz.le) (h.nat_le ht hz.ge)

lemma error_lt : |t - r| < t / 2 ^ 53 := by
  obtain ⟨u, m, hm, rfl⟩ := h
  exact hm.error_lt

/-- No double lies close to a whole number above it. -/
lemma gap_below (ht : t < 2 ^ 53) (hz : r < z) : r + r / 2 ^ 53 ≤ z := by
  obtain ⟨u, m, hm, rfl⟩ := h
  have hunit := unit_pos u
  obtain ⟨w, hw, -⟩ := exists_eq_mul_unit (hm.exponent_lt (b := 1) ht) z
  rw [hw] at hz ⊢
  have hlt : m < w := by exact_mod_cast lt_of_mul_lt_mul_right hz hunit.le
  have hsucc := succ_mul_unit_le u hlt
  have hmax := mul_unit_le u hm.bounds.2
  push_cast at hmax
  linarith

/-- No double lies close to a whole number below it. -/
lemma gap_above (ht : t < 2 ^ 53) (hz : z < r) : z + r / 2 ^ 53 ≤ r := by
  obtain ⟨u, m, hm, rfl⟩ := h
  have hunit := unit_pos u
  obtain ⟨w, hw, -⟩ := exists_eq_mul_unit (hm.exponent_lt (b := 1) ht) z
  rw [hw] at hz ⊢
  have hlt : w < m := by exact_mod_cast lt_of_mul_lt_mul_right hz hunit.le
  have hsucc := succ_mul_unit_le u hlt
  have hmax := mul_unit_le u hm.bounds.2
  push_cast at hmax
  linarith

/-! ### From where a whole number is reached -/

/-- A smaller number is rounded up to a whole number if it lacks at most half a unit: the whole
number has an even last digit.  A power of two has smaller units below it and is left out. -/
lemma nat_le_iff_of_lt (hz : z < 2 ^ 52) (hpow : z ≠ 2 ^ z.log2) (ht : t < z) :
    z ≤ r ↔ (z - t) * 2 ^ 53 ≤ 2 ^ z.log2 := by
  have hz0 : z ≠ 0 := by
    rintro rfl
    exact absurd ht h.pos.not_gt
  have ht52 : t < 2 ^ 52 := ht.trans (by exact_mod_cast hz)
  by_cases hlow : (2 : ℚ) ^ z.log2 ≤ t
  · obtain ⟨u, m, hm, rfl⟩ := h
    have hunit := unit_pos u
    obtain ⟨w, hw, heven⟩ :=
      exists_eq_mul_unit (hm.exponent_lt (b := 1) (ht52.trans (by norm_num))) z
    have hiff := hm.ge_iff_of_even (heven (hm.exponent_lt (b := 0) ht52))
    rw [hm.pow_eq hlow (ht.trans (by exact_mod_cast Nat.lt_log2_self)), hw,
      mul_le_mul_iff_left₀ hunit, Nat.cast_le, hiff]
    constructor <;> intro hlack <;> linarith
  · -- Between the number and the whole number lies a power of two.
    have hbetween : (2 : ℚ) ^ z.log2 + 1 ≤ z := by
      exact_mod_cast lt_of_le_of_ne (Nat.log2_self_le hz0) hpow.symm
    have hreach : r ≤ (2 ^ z.log2 : ℕ) :=
      h.le_nat (ht52.trans (by norm_num)) (by push_cast; linarith)
    have hmax : (2 : ℚ) ^ z.log2 < 2 ^ 53 := by
      exact_mod_cast Nat.pow_lt_pow_right (by decide)
        (((Nat.log2_lt hz0).mpr hz).trans (by decide))
    push_cast at hreach
    exact iff_of_false (by linarith) (by linarith)

/-- A greater number is rounded down to a whole number if it exceeds it by at most half a unit. -/
lemma le_nat_iff_of_lt (hz : 0 < z) (ht : t < 2 ^ 52) (hzt : z < t) :
    r ≤ z ↔ (t - z) * 2 ^ 53 ≤ 2 ^ z.log2 := by
  have hlow : (2 : ℚ) ^ z.log2 ≤ t := by
    refine le_trans ?_ hzt.le
    exact_mod_cast Nat.log2_self_le hz.ne'
  by_cases hup : t < 2 ^ (z.log2 + 1)
  · obtain ⟨u, m, hm, rfl⟩ := h
    have hunit := unit_pos u
    obtain ⟨w, hw, heven⟩ :=
      exists_eq_mul_unit (hm.exponent_lt (b := 1) (ht.trans (by norm_num))) z
    have hiff := hm.le_iff_of_even (heven (hm.exponent_lt (b := 0) ht))
    rw [hm.pow_eq hlow hup, hw, mul_le_mul_iff_left₀ hunit, Nat.cast_le, hiff]
    constructor <;> intro hexcess <;> linarith
  · have hbetween : (z : ℚ) + 1 ≤ 2 ^ (z.log2 + 1) := by exact_mod_cast Nat.lt_log2_self
    have hreach : (2 ^ (z.log2 + 1) : ℕ) ≤ r :=
      h.nat_le (ht.trans (by norm_num)) (by push_cast; exact not_lt.mp hup)
    have hmax : (2 : ℚ) ^ z.log2 < 2 ^ 53 := by
      have hz52 : z < 2 ^ 52 := by exact_mod_cast hzt.trans ht
      exact_mod_cast Nat.pow_lt_pow_right (by decide)
        (((Nat.log2_lt hz.ne').mpr hz52).trans (by decide))
    push_cast at hreach
    exact iff_of_false (by linarith) (by linarith)

end Nearest

/-! ## Quotients -/

section Quotient

variable {s x y : ℚ} {d : ℕ} (hd : 0 < d) (hx : Nearest s x) (hy : Nearest (x / d) y)
  (hs : s < 2 ^ 53) (hxd : x / d < 2 ^ 53)

include hd hx hy hs hxd

/-- The rounded quotient reaches a whole number if the dividend reaches the product. -/
lemma Nearest.nat_le_div_iff (k : ℕ) : k ≤ y ↔ (d * k : ℕ) ≤ x := by
  have hd' : (0 : ℚ) < d := by exact_mod_cast hd
  constructor
  · intro hk
    by_contra hlt
    have hgap := hx.gap_below hs (not_le.mp hlt)
    have herror := (abs_lt.mp hy.error_lt).1
    have hquotient : (x + x / 2 ^ 53) / d ≤ k := by
      rw [div_le_iff₀ hd']
      push_cast at hgap
      linarith
    rw [add_div, div_right_comm] at hquotient
    linarith
  · intro hk
    refine hy.nat_le hxd ?_
    rw [le_div_iff₀ hd']
    push_cast at hk
    linarith

lemma Nearest.div_le_nat_iff (k : ℕ) : y ≤ k ↔ x ≤ (d * k : ℕ) := by
  have hd' : (0 : ℚ) < d := by exact_mod_cast hd
  constructor
  · intro hk
    by_contra hlt
    have hgap := hx.gap_above hs (not_le.mp hlt)
    have herror := (abs_lt.mp hy.error_lt).2
    have hquotient : (k : ℚ) ≤ (x - x / 2 ^ 53) / d := by
      rw [le_div_iff₀ hd']
      push_cast at hgap
      linarith
    rw [sub_div, div_right_comm] at hquotient
    linarith
  · intro hk
    refine hy.le_nat hxd ?_
    rw [div_le_iff₀ hd']
    push_cast at hk
    linarith

end Quotient

end TableFormula.Number
