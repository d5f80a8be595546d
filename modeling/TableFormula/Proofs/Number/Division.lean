import Mathlib.Tactic.NormNum
import TableFormula.Number.BinaryFraction
import TableFormula.Proofs.Number.Nearest

/-!
# Products and quotients of doubles

The product and the quotient of two doubles are the doubles nearest to the exact ones.

The arithmetic of doubles is computed on mantissas, which are cut and rounded.  What is cut off is
kept in two digits: whether it is at least a half, and whether there is more.  `Represents` says
which exact number a mantissa with these digits stands for; cutting off a digit halves the number
(`Represents.shiftRightOne`), and rounding gives the nearest whole number (`Represents.rounded`).

**Full doubles.**  What is rounded may become zero, or it may be out of the range of doubles.  Where
it is neither next to zero nor out of range, it has a full mantissa (`IsRounded.exists_full`).
-/

namespace TableFormula.Number

open Float.Model Float.Model.UnpackedFloat

/-! ## Mantissas that are cut -/

/-- A mantissa with its two digits stands for a number: the first digit is worth a half, and the
second one says whether there is more. -/
def Represents (em : ExtendedMantissa) (t : ℚ) : Prop :=
  ∃ more : ℚ, 0 ≤ more ∧ more < 1 / 2 ∧ (em.stickyBit = false ↔ more = 0) ∧
    t = em.mantissa + (if em.roundBit then 1 / 2 else 0) + more

namespace Represents

variable {em : ExtendedMantissa} {t : ℚ}

lemma shiftRightOne (h : Represents em t) : Represents em.shiftRightOne (t / 2) := by
  obtain ⟨mantissa, roundBit, stickyBit⟩ := em
  obtain ⟨more, hpos, hlt, hsticky, rfl⟩ := h
  have hsplit : (mantissa : ℚ) = 2 * (mantissa / 2 : ℕ) + (mantissa % 2 : ℕ) := by
    exact_mod_cast (Nat.div_add_mod mantissa 2).symm
  refine ⟨(if roundBit then 1 / 2 else 0) / 2 + more / 2, ?_, ?_, ?_, ?_⟩
  · split <;> linarith
  · split <;> linarith
  · cases roundBit
    · simpa [ExtendedMantissa.shiftRightOne] using hsticky
    · refine iff_of_false (by simp [ExtendedMantissa.shiftRightOne]) ?_
      simp only [if_true]
      linarith
  · -- The last digit of the mantissa becomes the one that is worth a half.
    have hdigit : (if mantissa % 2 != 0 then 1 / 2 else 0 : ℚ) = (mantissa % 2 : ℕ) / 2 := by
      obtain hmod | hmod := Nat.mod_two_eq_zero_or_one mantissa <;> rw [hmod] <;> norm_num
    show ((mantissa : ℚ) + (if roundBit then 1 / 2 else 0) + more) / 2 = (mantissa / 2 : ℕ) +
      (if mantissa % 2 != 0 then 1 / 2 else 0) + ((if roundBit then 1 / 2 else 0) / 2 + more / 2)
    rw [hdigit, hsplit]
    ring

lemma shiftRight (h : Represents em t) (n : ℕ) : Represents (em >>> n) (t / 2 ^ n) := by
  induction n with
  | zero =>
    rw [pow_zero, div_one]
    exact h
  | succ n ih =>
    rw [pow_succ, ← div_div]
    exact ih.shiftRightOne

lemma bounds (h : Represents em t) : em.mantissa ≤ t ∧ t < em.mantissa + 1 := by
  obtain ⟨more, hpos, hlt, -, rfl⟩ := h
  split <;> constructor <;> linarith

/-- The rounded mantissa is the nearest whole number, the even one of two. -/
lemma rounded (h : Represents em t) : |t - em.roundedMantissa| ≤ 1 / 2 ∧
    (|t - em.roundedMantissa| = 1 / 2 → Even em.roundedMantissa) := by
  obtain ⟨mantissa, roundBit, stickyBit⟩ := em
  obtain ⟨more, hpos, hlt, hsticky, rfl⟩ := h
  simp only [ExtendedMantissa.roundedMantissa]
  cases roundBit <;> cases stickyBit <;>
    simp only [ExtendedMantissa.accuracy, Accuracy.roundToNearestEven, if_true, if_false,
      Bool.false_eq_true, true_iff, false_iff, Bool.true_eq_false] at hsticky ⊢
  · rw [hsticky]
    norm_num
  · have herror : (mantissa : ℚ) + 0 + more - mantissa = more := by ring
    rw [herror, abs_of_nonneg hpos]
    exact ⟨hlt.le, fun hhalf => absurd hhalf hlt.ne⟩
  · -- Half-way between two mantissas the even one is taken.
    rw [hsticky]
    obtain heven | hodd := Nat.even_or_odd mantissa
    · rw [Nat.even_iff.mp heven, Nat.add_zero]
      norm_num [heven]
    · rw [Nat.odd_iff.mp hodd]
      norm_num [hodd.add_one]
  · have hmore : 0 < more := lt_of_le_of_ne hpos (Ne.symm hsticky)
    have herror : (mantissa : ℚ) + 1 / 2 + more - (mantissa + 1 : ℕ) = -(1 / 2 - more) := by
      push_cast
      ring
    rw [herror, abs_neg, abs_of_pos (by linarith)]
    exact ⟨by linarith, fun hhalf => absurd hhalf (by linarith)⟩

end Represents

lemma represents_exact (n : ℕ) : Represents (.ofMantissaAndAccuracy n .exact) n :=
  ⟨0, le_rfl, by norm_num, by simp [ExtendedMantissa.ofMantissaAndAccuracy],
    by simp [ExtendedMantissa.ofMantissaAndAccuracy]⟩

/-- The digits that are kept of a quotient. -/
lemma represents_quotient (n : ℕ) {d : ℕ} (hd : 0 < d) :
    Represents (.ofMantissaAndAccuracy (n / d) (accuracyOfFraction (n % d) d)) (n / d) := by
  have hd' : (0 : ℚ) < d := by exact_mod_cast hd
  have hvalue : (n : ℚ) / d = (n / d : ℕ) + (n % d : ℕ) / d := by
    rw [div_eq_iff hd'.ne', add_mul, div_mul_cancel₀ _ hd'.ne', mul_comm]
    exact_mod_cast (Nat.div_add_mod n d).symm
  have hrest : ((n % d : ℕ) : ℚ) < d := by exact_mod_cast Nat.mod_lt n hd
  generalize n % d = rest at *
  rw [hvalue, accuracyOfFraction]
  split
  · rename_i hzero
    rw [hzero, Nat.cast_zero, zero_div, add_zero]
    exact represents_exact _
  · rename_i hne
    have hpos : (0 : ℚ) < rest := by exact_mod_cast Nat.pos_of_ne_zero hne
    obtain hlt | heq | hgt := lt_trichotomy (2 * rest) d
    · have hlt' : (2 : ℚ) * rest < d := by exact_mod_cast hlt
      rw [compare_lt_iff_lt.mpr hlt]
      refine ⟨rest / d, by positivity, ?_, ?_, by simp [ExtendedMantissa.ofMantissaAndAccuracy]⟩
      · rw [div_lt_iff₀ hd']
        linarith
      · exact iff_of_false (by simp [ExtendedMantissa.ofMantissaAndAccuracy]) (by positivity)
    · have heq' : (2 : ℚ) * rest = d := by exact_mod_cast heq
      rw [compare_eq_iff_eq.mpr heq]
      refine ⟨0, by norm_num, by norm_num, by simp [ExtendedMantissa.ofMantissaAndAccuracy], ?_⟩
      have hhalf : (rest : ℚ) / d = 1 / 2 := by
        rw [div_eq_iff hd'.ne']
        linarith
      simp [ExtendedMantissa.ofMantissaAndAccuracy, hhalf]
    · have hgt' : (d : ℚ) < 2 * rest := by exact_mod_cast hgt
      have hhalf : (1 : ℚ) / 2 < rest / d := by
        rw [lt_div_iff₀ hd']
        linarith
      have hone : (rest : ℚ) / d < 1 := (div_lt_one hd').mpr hrest
      rw [compare_gt_iff_gt.mpr hgt]
      refine ⟨rest / d - 1 / 2, by linarith, by linarith, ?_, ?_⟩
      · exact iff_of_false (by simp [ExtendedMantissa.ofMantissaAndAccuracy]) (by linarith)
      · simp [ExtendedMantissa.ofMantissaAndAccuracy]

/-! ## Rounding -/

/-- Fifty-three digits are kept, and fewer below the least size. -/
lemma targetExponent_eq (total : ℤ) :
    Format.binary64.targetExponent total = max (total - 53) (-1074) :=
  rfl

lemma mantissa_ofMantissaAndAccuracy (q : ℕ) (accuracy : Accuracy) :
    (ExtendedMantissa.ofMantissaAndAccuracy q accuracy).mantissa = q := by
  cases accuracy with
  | exact => rfl
  | inexact half => cases half <;> rfl

/-- A mantissa that is cut to the unit in the last place and rounded gives the nearest multiple of
this unit.  The exponent must not be too great: nothing can be cut off then. -/
lemma Represents.rounds {q : ℕ} {e : ℤ} {accuracy : Accuracy} {t : ℚ}
    (h : Represents (.ofMantissaAndAccuracy q accuracy) t)
    (he : e ≤ Format.binary64.targetExponent (totalExponent q e)) :
    ∃ (em : ExtendedMantissa) (u : ℤ),
      shiftToTargetExponent Format.binary64 q e accuracy = (em, u) ∧
      Rounds (t * 2 ^ e) u em.roundedMantissa := by
  obtain ⟨target, htarget⟩ :
      ∃ target, target = Format.binary64.targetExponent (totalExponent q e) := ⟨_, rfl⟩
  rw [← htarget] at he
  obtain ⟨n, hn⟩ : ∃ n : ℕ, target = e + n := ⟨(target - e).toNat, by omega⟩
  have hcut : (target - e).toNat = n := by omega
  refine ⟨ExtendedMantissa.ofMantissaAndAccuracy q accuracy >>> n, target, ?_, ?_⟩
  · rw [shiftToTargetExponent, shiftToExponent, ← htarget, hcut, hn]
  rw [targetExponent_eq, totalExponent] at htarget
  have hunit := unit_pos e
  have hscale : (2 : ℚ) ^ target = 2 ^ n * 2 ^ e := by
    rw [hn, two_pow_mul_unit, add_comm]
  have herror : ∀ m : ℕ, t * 2 ^ e - m * 2 ^ target = (t / 2 ^ n - m) * 2 ^ target := by
    intro m
    rw [hscale]
    field_simp
  have hhalf : (2 : ℚ) ^ target / 2 = 1 / 2 * 2 ^ target := by ring
  obtain ⟨hlow, hup⟩ := h.bounds
  rw [mantissa_ofMantissaAndAccuracy] at hlow hup
  obtain ⟨hnear, heven⟩ := (h.shiftRight n).rounded
  refine ⟨⟨?_, ?_⟩, by omega, ?_, ?_⟩
  · rw [herror, abs_mul, abs_of_pos (unit_pos _), hhalf]
    exact mul_le_mul_of_nonneg_right hnear (unit_pos _).le
  · rw [herror, abs_mul, abs_of_pos (unit_pos _), hhalf]
    exact fun htie => heven (mul_right_cancel₀ (unit_pos _).ne' htie)
  · -- Above the least unit all fifty-three digits are there.
    by_cases hleast : target = -1074
    · exact .inr hleast
    · have hq : q ≠ 0 := by
        rintro rfl
        simp only [Nat.log2_zero] at htarget
        omega
      have hdigits : (2 : ℚ) ^ q.log2 ≤ t :=
        le_trans (by exact_mod_cast Nat.log2_self_le hq) hlow
      refine .inl (le_trans (le_of_eq ?_) (mul_le_mul_of_nonneg_right hdigits hunit.le))
      rw [two_pow_mul_unit, two_pow_mul_unit]
      congr 1
      push_cast
      omega
  · have hdigits : t < 2 ^ (q.log2 + 1) :=
      hup.trans_le (by exact_mod_cast Nat.lt_log2_self)
    refine (mul_lt_mul_of_pos_right hdigits hunit).trans_le ?_
    rw [two_pow_mul_unit, two_pow_mul_unit]
    apply zpow_le_zpow_right₀ one_le_two
    push_cast
    omega

/-- A rounded mantissa that has become too long by rounding ends in a zero, which is cut off. -/
lemma Rounds.exists_shift {t : ℚ} {u : ℤ} {m : ℕ} (h : Rounds t u m) :
    ∃ (em : ExtendedMantissa) (e : ℤ),
      shiftToTargetExponent Format.binary64 m u .exact = (em, e) ∧ IsDouble em.mantissa e ∧
      (em.mantissa : ℚ) * 2 ^ e = m * 2 ^ u := by
  have hleast := h.least
  obtain hlt | rfl := h.le_two_pow.lt_or_eq
  · have hlog : m.log2 < 53 := by
      by_cases hm : m = 0
      · rw [hm]
        decide
      · exact (Nat.log2_lt hm).mpr hlt
    have hcut : (Format.binary64.targetExponent (totalExponent m u) - u).toNat = 0 := by
      rw [targetExponent_eq, totalExponent]
      omega
    refine ⟨⟨m, false, false⟩, u, ?_, ⟨hlt, hleast, h.full_mantissa⟩, rfl⟩
    rw [shiftToTargetExponent, shiftToExponent, hcut]
    exact Prod.ext rfl (add_zero u)
  · have hcut : (Format.binary64.targetExponent (totalExponent (2 ^ 53) u) - u).toNat = 1 := by
      rw [targetExponent_eq, totalExponent, Nat.log2_two_pow]
      omega
    refine ⟨⟨2 ^ 52, false, false⟩, u + 1, ?_, ⟨by decide, by omega, .inl le_rfl⟩, ?_⟩
    · rw [shiftToTargetExponent, shiftToExponent, hcut]
      rfl
    · rw [zpow_add_one₀ two_ne_zero]
      push_cast
      ring

/-- A double before it is packed, which may be too large to be one. -/
def HasValue (f : UnpackedFloat) (sign : UnpackedFloat.Sign) (r : ℚ) : Prop :=
  f = .zero sign ∧ r = 0 ∨
    ∃ (m : ℕ) (e : ℤ) (hm : 0 < m), f = .finite sign m e hm ∧ IsDouble m e ∧ r = m * 2 ^ e

/-- What has a sign and a value is one double. -/
lemma HasValue.unique {f g : UnpackedFloat} {sign : UnpackedFloat.Sign} {r : ℚ}
    (hf : HasValue f sign r) (hg : HasValue g sign r) : f = g := by
  obtain ⟨rfl, hzero⟩ | ⟨m, e, hm, rfl, hdouble, heq⟩ := hf
  · obtain ⟨rfl, -⟩ | ⟨m', e', hm', -, -, heq⟩ := hg
    · rfl
    · exact absurd (heq.symm.trans hzero) (mul_pos (by exact_mod_cast hm') (unit_pos e')).ne'
  · obtain ⟨-, hzero⟩ | ⟨m', e', hm', rfl, hdouble', heq'⟩ := hg
    · exact absurd (heq.symm.trans hzero) (mul_pos (by exact_mod_cast hm) (unit_pos e)).ne'
    · obtain ⟨rfl, rfl⟩ := hdouble.unique hdouble' (heq.symm.trans heq')
      rfl

/-- The double nearest to a number, before it is packed. -/
def IsRounded (f : UnpackedFloat) (sign : UnpackedFloat.Sign) (t : ℚ) : Prop :=
  ∃ (u : ℤ) (m : ℕ), Rounds t u m ∧ HasValue f sign (m * 2 ^ u)

/-- **Rounding** gives the nearest double. -/
lemma isRounded_roundWithAccuracy (sign : UnpackedFloat.Sign) {q : ℕ} {e : ℤ} {accuracy : Accuracy}
    {t : ℚ} (h : Represents (.ofMantissaAndAccuracy q accuracy) t)
    (he : e ≤ Format.binary64.targetExponent (totalExponent q e)) :
    IsRounded (roundWithAccuracy Format.binary64 sign q e accuracy) sign (t * 2 ^ e) := by
  obtain ⟨em, u, hcut, hround⟩ := h.rounds he
  obtain ⟨em', e', hshift, hdouble, hvalue⟩ := hround.exists_shift
  refine ⟨u, em.roundedMantissa, hround, ?_⟩
  rw [← hvalue, roundWithAccuracy, hcut]
  dsimp only
  rw [hshift]
  by_cases hzero : em'.mantissa = 0
  · refine .inl ⟨dif_pos hzero, ?_⟩
    rw [hzero, Nat.cast_zero, zero_mul]
  · exact .inr ⟨em'.mantissa, e', Nat.pos_of_ne_zero hzero, dif_neg hzero, hdouble, rfl⟩

/-- A double with a sign and a size whose mantissa is full. -/
def IsFull (f : UnpackedFloat) (sign : UnpackedFloat.Sign) (r : ℚ) : Prop :=
  ∃ (m : ℕ) (e : ℤ) (hm : 0 < m), f = .finite sign m e hm ∧ (2 ^ 52 ≤ m ∧ m < 2 ^ 53) ∧
    (-1074 ≤ e ∧ e ≤ 971) ∧ r = m * 2 ^ e

lemma IsFull.hasValue {f : UnpackedFloat} {sign : UnpackedFloat.Sign} {r : ℚ}
    (h : IsFull f sign r) : HasValue f sign r := by
  obtain ⟨m, e, hm, hf, hfull, he, hr⟩ := h
  exact .inr ⟨m, e, hm, hf, ⟨hfull.2, he.1, .inl hfull.1⟩, hr⟩

/-- What is neither next to zero nor out of range is rounded to a full double. -/
lemma IsRounded.exists_full {f : UnpackedFloat} {sign : UnpackedFloat.Sign} {t : ℚ}
    (h : IsRounded f sign t) (hlow : 2 ^ (-1000 : ℤ) ≤ t) (hup : t ≤ 2 ^ (1000 : ℤ)) :
    ∃ r, IsFull f sign r ∧ Nearest t r := by
  obtain ⟨u, m, hround, hvalue⟩ := h
  have hleast : (2 : ℚ) ^ 52 * 2 ^ (-1074 : ℤ) ≤ t := by
    refine le_trans ?_ hlow
    rw [two_pow_mul_unit]
    exact zpow_le_zpow_right₀ one_le_two (by norm_num)
  have hto := hround.roundsTo hleast
  have hu : (2 : ℚ) ^ 52 * 2 ^ u ≤ 2 ^ (1000 : ℤ) := hto.lower.trans hup
  rw [two_pow_mul_unit, zpow_le_zpow_iff_right₀ one_lt_two] at hu
  push_cast at hu
  have hm := hto.bounds
  obtain ⟨-, hzero⟩ | ⟨m', e', hm', rfl, hdouble, heq⟩ := hvalue
  · have hpos : (0 : ℚ) < m := by exact_mod_cast Nat.lt_of_lt_of_le (by decide) hm.1
    exact absurd hzero (mul_pos hpos (unit_pos u)).ne'
  · have hvalue := mul_unit_le u hm.1
    have hvalue' := mul_unit_le u hm.2
    rw [Nat.cast_pow, Nat.cast_ofNat, heq] at hvalue hvalue'
    have he : e' ≤ u + 1 := by
      obtain hfull | hleast := hdouble.full
      · have hlt := (mul_unit_le e' hfull).trans hvalue'
        rw [Nat.cast_pow, Nat.cast_ofNat, two_pow_mul_unit, two_pow_mul_unit,
          zpow_le_zpow_iff_right₀ one_lt_two] at hlt
        push_cast at hlt
        omega
      · have := hround.least
        omega
    have hfull : 2 ^ 52 ≤ m' := by
      obtain hfull | rfl := hdouble.full
      · exact hfull
      · have hunit : (2 : ℚ) ^ (-1074 : ℤ) ≤ 2 ^ u :=
          zpow_le_zpow_right₀ one_le_two hround.least
        have hle : (2 : ℚ) ^ 52 * 2 ^ (-1074 : ℤ) ≤ m' * 2 ^ (-1074 : ℤ) :=
          le_trans (mul_le_mul_of_nonneg_left hunit (by norm_num)) hvalue
        exact_mod_cast le_of_mul_le_mul_right hle (unit_pos _)
    exact ⟨_, ⟨m', e', hm', rfl, ⟨hfull, hdouble.upper⟩, ⟨hdouble.least, by omega⟩, rfl⟩, u, m,
      hto, heq.symm⟩

/-! ## Products -/

/-- **Multiplication** gives the nearest double, if the product has enough digits. -/
lemma isRounded_mul {m m' : ℕ} (hm : 0 < m) (hm' : 0 < m') (e e' : ℤ)
    (sign sign' : UnpackedFloat.Sign) (hdigits : 52 ≤ (m * m').log2) :
    IsRounded (UnpackedFloat.mul Format.binary64 (.finite sign m e hm) (.finite sign' m' e' hm'))
      (sign * sign') (m * 2 ^ e * (m' * 2 ^ e')) := by
  have hexact : (m * 2 ^ e * (m' * 2 ^ e') : ℚ) = (m * m' : ℕ) * 2 ^ (e + e') := by
    rw [zpow_add₀ two_ne_zero]
    push_cast
    ring
  rw [hexact]
  refine isRounded_roundWithAccuracy (sign * sign') (represents_exact (m * m')) ?_
  rw [targetExponent_eq, totalExponent]
  omega

/-! ## Division -/

lemma log2_mul_two_pow {m : ℕ} (hm : 0 < m) (n : ℕ) : (m * 2 ^ n).log2 = m.log2 + n := by
  rw [Nat.log2_eq_iff (Nat.mul_pos hm n.two_pow_pos).ne', Nat.add_right_comm, pow_add,
    pow_add 2 (m.log2 + 1)]
  exact ⟨Nat.mul_le_mul_right _ (Nat.log2_self_le hm.ne'),
    Nat.mul_lt_mul_of_pos_right Nat.lt_log2_self n.two_pow_pos⟩

/-- How many binary digits a quotient of whole numbers has at least. -/
lemma le_log2_div {n d k : ℕ} (hd : 0 < d) (h : n.log2 = d.log2 + k + 1) : k ≤ (n / d).log2 := by
  have hn0 : n ≠ 0 := by
    rintro rfl
    simp at h
  obtain ⟨hnlow, -⟩ := (Nat.log2_eq_iff hn0).mp h
  obtain ⟨-, hdup⟩ := (Nat.log2_eq_iff hd.ne').mp (Eq.refl d.log2)
  have hlow : 2 ^ k ≤ n / d := by
    rw [Nat.le_div_iff_mul_le hd]
    refine le_trans ?_ hnlow
    rw [show d.log2 + k + 1 = k + (d.log2 + 1) by omega, pow_add 2 k]
    exact Nat.mul_le_mul_left _ hdup.le
  exact (Nat.le_log2 (Nat.two_pow_pos k |>.trans_le hlow).ne').mpr hlow

/-- **Division** gives the double nearest to the exact quotient. -/
lemma isRounded_div {m m' : ℕ} (hm : 0 < m) (hm' : 0 < m') (e e' : ℤ)
    (sign sign' : UnpackedFloat.Sign) :
    IsRounded (UnpackedFloat.div Format.binary64 (.finite sign m e hm) (.finite sign' m' e' hm'))
      (sign / sign') (m * 2 ^ e / (m' * 2 ^ e')) := by
  have htarget : Format.binary64.targetExponent (totalExponent m e - totalExponent m' e') =
      max (m.log2 + e - (m'.log2 + e') - 53) (-1074) := by
    rw [targetExponent_eq, totalExponent, totalExponent]
    congr 1
    omega
  -- The dividend is lengthened until the quotient has enough digits.
  obtain ⟨target, htarget'⟩ : ∃ target,
      target = min (e - e') (max (m.log2 + e - (m'.log2 + e') - 53) (-1074)) := ⟨_, rfl⟩
  obtain ⟨n, hn⟩ : ∃ n : ℕ, e - e' - target = n := ⟨(e - e' - target).toNat, by omega⟩
  have hcore : divCore Format.binary64 m e m' e' =
      (m * 2 ^ n / m', target, accuracyOfFraction (m * 2 ^ n % m') m') := by
    rw [divCore, htarget, ← htarget', hn, Int.toNat_natCast, Nat.shiftLeft_eq]
  have hpower : (2 : ℚ) ^ target = 2 ^ e / 2 ^ e' / 2 ^ n := by
    rw [← zpow_natCast, ← zpow_sub₀ two_ne_zero, ← zpow_sub₀ two_ne_zero]
    congr 1
    omega
  have hexact : (m * 2 ^ n : ℕ) / (m' : ℚ) * 2 ^ target = m * 2 ^ e / (m' * 2 ^ e') := by
    rw [hpower]
    push_cast
    field_simp
  rw [← hexact]
  show IsRounded (roundWithAccuracy Format.binary64 (sign / sign') (divCore _ m e m' e').1
    (divCore _ m e m' e').2.1 (divCore _ m e m' e').2.2) (sign / sign') _
  rw [hcore]
  dsimp only
  refine isRounded_roundWithAccuracy (sign / sign') (represents_quotient (m * 2 ^ n) hm') ?_
  rw [targetExponent_eq, totalExponent]
  obtain hfew | hmany := Nat.lt_or_ge m'.log2 (m.log2 + n)
  · obtain ⟨k, hk⟩ : ∃ k, m.log2 + n = m'.log2 + k + 1 := ⟨m.log2 + n - m'.log2 - 1, by omega⟩
    have hlow := le_log2_div hm' ((log2_mul_two_pow hm n).trans hk)
    omega
  · omega

end TableFormula.Number
