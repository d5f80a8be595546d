import TableFormula.Number.Numeral
import TableFormula.Proofs.Number.Sizes

/-!
# Decimals as doubles

A decimal is read as the double nearest to it (`isNearest_ofScientific`), whatever its digits and
its exponent are.  So are whole numbers, and numerals with their signs (`Numeral.isValue_toFloat`).

Few digits with a small exponent are read by one operation on two doubles, of which one is a power
of ten.  All other decimals are products or quotients of whole numbers, which are rounded once.  Two
kinds of exponents are told apart before that, and the powers of ten need not be computed: the
decimal is out of the range of doubles, or it is nearer to zero than to any other double.
-/

namespace TableFormula.Number

open Float.Model Float.Model.UnpackedFloat

/-! ## Whole numbers of one word -/

/-- A whole number of at most fifty-three digits is a double. -/
lemma hasSize_toFloat {n : ℕ} (hn : 0 < n) (hmax : n < 2 ^ 53) :
    HasSize n.toUInt64.toFloat .positive n := by
  have hlog : n.log2 < 53 := (Nat.log2_lt hn.ne').mpr hmax
  obtain ⟨k, hk⟩ := Nat.exists_eq_add_of_le (Nat.lt_succ_iff.mp hlog)
  have hword : n.toUInt64.toNat = n := by
    rw [Nat.toUInt64, UInt64.toNat_ofNat', Nat.mod_eq_of_lt (hmax.trans (by decide))]
  have htarget : Format.binary64.targetExponent (totalExponent n 0) = n.log2 - 52 := by
    rw [targetExponent_eq, totalExponent]
    omega
  have hshift : (-((n.log2 : ℤ) - 52)).toNat = k := by omega
  have hround : UnpackedFloat.ofUInt64 Format.binary64 n.toUInt64 =
      roundWithAccuracy Format.binary64 .positive (n * 2 ^ k) (-k) .exact := by
    rw [UnpackedFloat.ofUInt64, hword, UnpackedFloat.ofNat, UnpackedFloat.ofInt,
      UnpackedFloat.normalize, compare_gt_iff_gt.mpr (by exact_mod_cast hn)]
    simp only [UnpackedFloat.round, Int.toNat_natCast, htarget, decreaseExponent, zero_sub, hshift,
      Nat.shiftLeft_eq]
  -- A whole number that is lengthened to a full mantissa is not changed by rounding.
  have hvalue : ((n * 2 ^ k : ℕ) * 2 ^ (-k : ℤ) : ℚ) = n := by
    rw [zpow_neg, zpow_natCast]
    push_cast
    field_simp
  have hnearest : IsNearest n.toUInt64.toFloat .positive n := by
    show IsNearest (.ofModel (Float.Model.pack (UnpackedFloat.ofUInt64 Format.binary64
      n.toUInt64))) .positive n
    rw [hround, ← hvalue]
    refine (isRounded_roundWithAccuracy .positive (represents_exact _) ?_).isNearest
    rw [targetExponent_eq, totalExponent, log2_mul_two_pow hn]
    omega
  exact hnearest.hasSize_nat hn hmax

/-! ## Powers of ten -/

/-- A positive fraction that a double stands for is what the double is taken apart into. -/
lemma unpack_of_kind {x : Float} {m : ℕ} {e : ℤ} (h : kind x = .finite ⟨false, m, e⟩)
    (hm : 0 < m) : x.toModel.unpack = .finite .positive m e hm := by
  rw [kind_eq] at h
  generalize x.toModel.unpack = f at h
  cases f with
  | infinity | notANumber => cases h
  | zero sign =>
    cases sign with
    | positive =>
      cases h
      exact absurd hm (Nat.lt_irrefl 0)
    | negative => cases h
  | finite sign m' e' hm' =>
    cases sign with
    | positive =>
      cases h
      rfl
    | negative => cases h

/-- The table of powers of ten holds them as full mantissas with their exponents. -/
lemma kind_powerOfTen (e : Fin 23) :
    kind Float.exactlyRepresentablePowersOfTen[e.val] = .finite
        ⟨false, 10 ^ e.val * 2 ^ 52 / 2 ^ (10 ^ e.val).log2, ((10 ^ e.val).log2 : ℤ) - 52⟩ ∧
      2 ^ (10 ^ e.val).log2 ∣ 10 ^ e.val * 2 ^ 52 ∧ (10 ^ e.val).log2 < 100 := by
  revert e
  decide +kernel

/-- The powers of ten in the table are exact. -/
lemma hasSize_powerOfTen {e : ℕ} (he : e < 23) :
    HasSize Float.exactlyRepresentablePowersOfTen[e] .positive (10 ^ e) := by
  obtain ⟨hkind, ⟨m, hm⟩, hsmall⟩ := kind_powerOfTen ⟨e, he⟩
  dsimp only at hkind hm hsmall
  have hpos : 10 ^ e ≠ 0 := (Nat.pow_pos (by decide)).ne'
  obtain ⟨l, hl⟩ : ∃ l, l = (10 ^ e).log2 := ⟨_, rfl⟩
  obtain ⟨hlow, hup⟩ := (Nat.log2_eq_iff hpos).mp hl.symm
  rw [← hl] at hkind hm hsmall
  rw [hm, Nat.mul_div_cancel_left m l.two_pow_pos] at hkind
  have hfull : 2 ^ 52 ≤ m := by
    refine Nat.le_of_mul_le_mul_left ?_ l.two_pow_pos
    rw [← hm]
    exact Nat.mul_le_mul_right _ hlow
  have hupper : m < 2 ^ 53 := by
    refine Nat.lt_of_mul_lt_mul_left (a := 2 ^ l) ?_
    rw [← hm, show 2 ^ l * 2 ^ 53 = 2 ^ (l + 1) * 2 ^ 52 by ring]
    exact Nat.mul_lt_mul_of_pos_right hup (by decide)
  have hvalue : (10 : ℚ) ^ e * 2 ^ 52 = 2 ^ l * m := by exact_mod_cast hm
  refine ⟨m, (l : ℤ) - 52, Nat.lt_of_lt_of_le (by decide) hfull, unpack_of_kind hkind _,
    ⟨hfull, hupper⟩, by omega, ?_⟩
  rw [zpow_sub₀ two_ne_zero, zpow_natCast, zpow_ofNat]
  field_simp
  linarith

/-! ## What is next to zero, and what is out of range -/

/-- A number that is not above half of the least double is rounded to zero. -/
lemma rounds_zero {t : ℚ} (hnonneg : 0 ≤ t) (ht : t ≤ 2 ^ (-1075 : ℤ)) : Rounds t (-1074) 0 := by
  have hunit := unit_pos (-1074)
  have hhalf : (2 : ℚ) ^ (-1074 : ℤ) / 2 = 2 ^ (-1075 : ℤ) := by
    rw [div_eq_iff two_ne_zero, ← zpow_add_one₀ two_ne_zero]
    rfl
  have hbound : t ≤ 2 ^ (-1074 : ℤ) / 2 := ht.trans_eq hhalf.symm
  refine ⟨⟨?_, fun _ => Even.zero⟩, le_rfl, .inr rfl, ?_⟩
  · rwa [Nat.cast_zero, zero_mul, sub_zero, abs_of_nonneg hnonneg]
  · generalize (2 : ℚ) ^ (-1074 : ℤ) = unit at *
    linarith

lemma isNearest_of_unpack_zero {x : Float} {sign : UnpackedFloat.Sign} {t : ℚ}
    (hx : x.toModel.unpack = .zero sign) (hnonneg : 0 ≤ t) (ht : t ≤ 2 ^ (-1075 : ℤ)) :
    IsNearest x sign t := by
  refine ⟨-1074, 0, rounds_zero hnonneg ht, .inl ⟨.inl ⟨hx, ?_⟩, ?_⟩⟩
  · rw [Nat.cast_zero, zero_mul]
  · rw [Nat.cast_zero, zero_mul]
    exact pow_pos two_pos _

lemma unpack_pack_zero (sign : UnpackedFloat.Sign) :
    (Float.Model.pack (.zero sign)).unpack = .zero sign :=
  HasValue.unpack_pack (.inl ⟨rfl, rfl⟩) (pow_pos two_pos _)

/-- Zero stays zero by a product or a quotient. -/
lemma HasSize.isNearest_zero_mul {x : Float} {r : ℚ} (h : HasSize x .positive r) :
    IsNearest ((0).toUInt64.toFloat * x) .positive 0 := by
  obtain ⟨m, e, hm, hx, -⟩ := h
  refine isNearest_of_unpack_zero ?_ le_rfl (unit_pos _).le
  show (Float.Model.pack (UnpackedFloat.mul Format.binary64 (.zero .positive)
    x.toModel.unpack)).unpack = _
  rw [hx]
  exact unpack_pack_zero .positive

lemma HasSize.isNearest_zero_div {x : Float} {r : ℚ} (h : HasSize x .positive r) :
    IsNearest ((0).toUInt64.toFloat / x) .positive 0 := by
  obtain ⟨m, e, hm, hx, -⟩ := h
  refine isNearest_of_unpack_zero ?_ le_rfl (unit_pos _).le
  show (Float.Model.pack (UnpackedFloat.div Format.binary64 (.zero .positive)
    x.toModel.unpack)).unpack = _
  rw [hx]
  exact unpack_pack_zero .positive

lemma isNearest_of_unpack_infinity {x : Float} {sign : UnpackedFloat.Sign} {t : ℚ} {u : ℤ} {m : ℕ}
    (hx : x.toModel.unpack = .infinity sign) (hround : Rounds t u m) (ht : 2 ^ 1024 ≤ t) :
    IsNearest x sign t := by
  refine ⟨u, m, hround, .inr ⟨hx, hround.two_pow_le_iff.mpr (le_trans ?_ ht)⟩⟩
  exact sub_le_self _ (pow_pos two_pos _).le

/-! ## Decimals -/

lemma zpow_ten_toNat {e : ℤ} (he : 0 ≤ e) : (10 : ℚ) ^ e = 10 ^ e.toNat := by
  rw [← zpow_natCast, Int.toNat_of_nonneg he]

/-- A decimal without places behind the point is a product of whole numbers, if the digits are
lengthened by enough zeros. -/
lemma isRounded_ofScientific_up {n b : ℕ} (hn : 0 < n) {e : ℤ} (he : 0 ≤ e) (hb : 52 ≤ b)
    (hn' : 0 < n <<< b) (hpower : 0 < 10 ^ e.toNat) :
    IsRounded (UnpackedFloat.mul Format.binary64 (.finite .positive (n <<< b) (-b) hn')
      (.finite .positive (10 ^ e.toNat) 0 hpower)) .positive (n * 10 ^ e) := by
  have hdigits : 52 ≤ (n <<< b * 10 ^ e.toNat).log2 := by
    rw [Nat.le_log2 (Nat.mul_pos hn' hpower).ne', Nat.shiftLeft_eq]
    exact ((Nat.pow_le_pow_right (by decide) hb).trans (Nat.le_mul_of_pos_left _ hn)).trans
      (Nat.le_mul_of_pos_right _ hpower)
  have hvalue : ((n <<< b : ℕ) * 2 ^ (-b : ℤ) * ((10 ^ e.toNat : ℕ) * 2 ^ (0 : ℤ)) : ℚ) =
      n * 10 ^ e := by
    rw [Nat.shiftLeft_eq, zpow_ten_toNat he, zpow_zero, zpow_neg, zpow_natCast]
    push_cast
    field_simp
  have h := isRounded_mul hn' hpower (-b) 0 .positive .positive hdigits
  rwa [hvalue] at h

/-- A decimal with places behind the point is a quotient of whole numbers. -/
lemma isRounded_ofScientific_down {n : ℕ} (hn : 0 < n) {e : ℤ} (he : e < 0)
    (hpower : 0 < 10 ^ (-e).toNat) :
    IsRounded (UnpackedFloat.div Format.binary64 (.finite .positive n 0 hn)
      (.finite .positive (10 ^ (-e).toNat) 0 hpower)) .positive (n * 10 ^ e) := by
  have hvalue : (n * 2 ^ (0 : ℤ) / ((10 ^ (-e).toNat : ℕ) * 2 ^ (0 : ℤ)) : ℚ) = n * 10 ^ e := by
    have hneg := zpow_ten_toNat (e := -e) (by omega)
    rw [zpow_neg] at hneg
    rw [Nat.cast_pow, Nat.cast_ofNat, zpow_zero, mul_one, mul_one, ← hneg, div_inv_eq_mul]
  have h := isRounded_div hn hpower 0 0 .positive .positive
  rwa [hvalue] at h

/-- A decimal is small if the point stands far in front of its digits. -/
lemma decimal_le_of_lt {n : ℕ} {e : ℤ} (he : e < -(2048 + (n.log2 : ℤ))) :
    (n * 10 ^ e : ℚ) ≤ 2 ^ (-1075 : ℤ) := by
  have hdigits : (n : ℚ) ≤ 2 ^ ((n.log2 : ℤ) + 1) := by
    rw [← Nat.cast_succ, zpow_natCast]
    exact_mod_cast Nat.lt_log2_self.le
  have hpower : (10 : ℚ) ^ e ≤ 2 ^ (-(2049 + (n.log2 : ℤ))) := by
    obtain ⟨k, rfl⟩ : ∃ k : ℕ, e = -k := ⟨(-e).toNat, by omega⟩
    calc (10 : ℚ) ^ (-k : ℤ) ≤ 2 ^ (-k : ℤ) := by
          rw [zpow_neg, zpow_neg, zpow_natCast, zpow_natCast]
          exact inv_anti₀ (pow_pos two_pos k) (pow_le_pow_left₀ two_pos.le (by norm_num) k)
      _ ≤ 2 ^ (-(2049 + (n.log2 : ℤ))) := zpow_le_zpow_right₀ one_le_two (by omega)
  calc (n * 10 ^ e : ℚ) ≤ 2 ^ ((n.log2 : ℤ) + 1) * 2 ^ (-(2049 + (n.log2 : ℤ))) :=
        mul_le_mul hdigits hpower (zpow_pos (by norm_num) e).le (unit_pos _).le
    _ = 2 ^ (-2048 : ℤ) := by
        rw [← zpow_add₀ two_ne_zero]
        congr 1
        omega
    _ ≤ 2 ^ (-1075 : ℤ) := zpow_le_zpow_right₀ one_le_two (by decide)

/-- A decimal is large if the point stands far behind its digits. -/
lemma two_pow_le_decimal {n k : ℕ} {e : ℤ} (hn : 0 < n) (he : k ≤ e) :
    (2 : ℚ) ^ k ≤ n * 10 ^ e := by
  have hone : (1 : ℚ) ≤ n := by exact_mod_cast hn
  calc (2 : ℚ) ^ k ≤ 10 ^ k := pow_le_pow_left₀ two_pos.le (by norm_num) k
    _ ≤ 10 ^ e := by
        rw [← zpow_natCast]
        exact zpow_le_zpow_right₀ (by norm_num) he
    _ ≤ n * 10 ^ e := le_mul_of_one_le_left (by positivity) hone

/-- All decimals are read as the nearest double, if they are multiplied or divided first. -/
lemma isNearest_ofModel_ofScientific (n : ℕ) (e : ℤ) :
    IsNearest (.ofModel (Float.Model.ofScientific n e)) .positive (n * 10 ^ e) := by
  have hnonneg : (0 : ℚ) ≤ n * 10 ^ e := by positivity
  have hinfinity : Float.Model.unpack (Float.Model.pack (.infinity .positive)) =
      .infinity .positive := rfl
  have hread : ∀ {f}, UnpackedFloat.ofScientific Format.binary64 n e = f →
      IsNearest (.ofModel (Float.Model.pack f)) .positive (n * 10 ^ e) →
      IsNearest (.ofModel (Float.Model.ofScientific n e)) .positive (n * 10 ^ e) := by
    rintro f rfl hnear
    exact hnear
  by_cases hn : n = 0
  · refine hread (dif_pos hn) (isNearest_of_unpack_zero (unpack_pack_zero _) hnonneg ?_)
    rw [hn, Nat.cast_zero, zero_mul]
    exact (unit_pos _).le
  have hpos : 0 < n := Nat.pos_of_ne_zero hn
  by_cases hlarge : 2048 < e
  · obtain ⟨u, m, hround, -⟩ := isRounded_ofScientific_up hpos (e := e) (by omega) le_rfl
      (by rw [Nat.shiftLeft_eq]; positivity) (by positivity)
    refine hread ((dif_neg hn).trans (if_pos hlarge))
      (isNearest_of_unpack_infinity hinfinity hround ?_)
    exact two_pow_le_decimal hpos (by push_cast; omega)
  by_cases hsmall : e < -(2048 + (n.log2 : ℤ))
  · exact hread ((dif_neg hn).trans ((if_neg hlarge).trans (if_pos hsmall)))
      (isNearest_of_unpack_zero (unpack_pack_zero _) hnonneg (decimal_le_of_lt hsmall))
  by_cases he : 0 ≤ e
  · exact hread ((dif_neg hn).trans ((if_neg hlarge).trans ((if_neg hsmall).trans (if_pos he))))
      (isRounded_ofScientific_up hpos he (by decide) _ _).isNearest
  · exact hread ((dif_neg hn).trans ((if_neg hlarge).trans ((if_neg hsmall).trans (if_neg he))))
      (isRounded_ofScientific_down hpos (not_le.mp he) _).isNearest

/-- Few digits with a small exponent are read by an operation on two doubles. -/
lemma isNearest_ofScientific_few {n e : ℕ} (h : n < 2 ^ 53 ∧ e ≤ 22) :
    IsNearest (Float.ofScientific n false e) .positive (n * 10 ^ e) ∧
      IsNearest (Float.ofScientific n true e) .positive (n / 10 ^ e) := by
  have hpower := hasSize_powerOfTen (Nat.lt_succ_of_le h.2)
  rw [Float.ofScientific, Float.ofScientific, dif_pos h, dif_pos h]
  obtain rfl | hn := Nat.eq_zero_or_pos n
  · rw [Nat.cast_zero, zero_mul, zero_div]
    exact ⟨hpower.isNearest_zero_mul, hpower.isNearest_zero_div⟩
  · have hdigits := hasSize_toFloat hn h.1
    exact ⟨hdigits.isNearest_mul hpower, hdigits.isNearest_div hpower⟩

/-- **Decimals** are read as the nearest double. -/
lemma isNearest_ofScientific (n : ℕ) (e : ℤ) :
    IsNearest (Float.ofScientific n (e < 0) e.natAbs) .positive (n * 10 ^ e) := by
  by_cases hfew : n < 2 ^ 53 ∧ e.natAbs ≤ 22
  · obtain ⟨hup, hdown⟩ := isNearest_ofScientific_few hfew
    by_cases he : e < 0
    · rw [decide_eq_true he]
      rwa [← zpow_natCast, Int.ofNat_natAbs_of_nonpos he.le, zpow_neg, div_inv_eq_mul] at hdown
    · rw [decide_eq_false he]
      rwa [← zpow_natCast, Int.natAbs_of_nonneg (not_lt.mp he)] at hup
  · have hexponent : (if decide (e < 0) = true then Int.negOfNat e.natAbs else Int.ofNat e.natAbs) =
        e := by
      split <;> rename_i he <;> simp only [decide_eq_true_eq] at he
      · rw [Int.negOfNat_eq, Int.ofNat_eq_natCast]
        omega
      · rw [Int.ofNat_eq_natCast]
        omega
    rw [Float.ofScientific, dif_neg hfew]
    dsimp only
    rw [hexponent]
    exact isNearest_ofModel_ofScientific n e

/-! ## Whole numbers -/

/-- A natural number is read as the nearest double. -/
lemma isNearest_ofNat (n : ℕ) : IsNearest (Float.ofNat n) .positive n := by
  have h := isNearest_ofScientific n 0
  rwa [zpow_zero, mul_one] at h

/-- So is an integer. -/
lemma isNearest_ofInt (n : ℤ) :
    IsNearest (Float.ofInt n) (if n < 0 then .negative else .positive) n.natAbs := by
  cases n with
  | ofNat n => exact isNearest_ofNat n
  | negSucc n =>
    rw [if_pos (Int.negSucc_lt_zero n)]
    exact (isNearest_ofNat n.succ).neg

/-- A natural number is out of the range of doubles from half-way between the greatest double and
the next power of two. -/
lemma cast_limit_le_iff (n : ℕ) : (2 : ℚ) ^ 1024 - 2 ^ 970 ≤ n ↔ 2 ^ 1024 - 2 ^ 970 ≤ n := by
  have hpow : (2 : ℕ) ^ 970 ≤ 2 ^ 1024 := pow_le_pow_right₀ one_le_two (by decide)
  have hcast : ((2 ^ 1024 - 2 ^ 970 : ℕ) : ℚ) = 2 ^ 1024 - 2 ^ 970 := by
    rw [Nat.cast_sub hpow, Nat.cast_pow, Nat.cast_pow, Nat.cast_ofNat]
  rw [← hcast, Nat.cast_le]

/-! ## Numerals -/

namespace Numeral

/-- The sign of a numeral. -/
def sign (numeral : Numeral) : UnpackedFloat.Sign :=
  if numeral.negative then .negative else .positive

/-- The double that a numeral is worth: the nearest one, or an infinite one. -/
def IsValue (numeral : Numeral) (x : Float) : Prop :=
  match numeral.size with
  | .infinite => x.toModel.unpack = .infinity numeral.sign
  | .decimal digits exponent => IsNearest x numeral.sign (digits * 10 ^ exponent)

/-- A numeral is read as the double that it is worth. -/
lemma isValue_toFloat (numeral : Numeral) : numeral.IsValue numeral.toFloat := by
  obtain ⟨negative, _ | ⟨digits, exponent⟩⟩ := numeral
  · cases negative <;> rfl
  · have hnearest := isNearest_ofScientific digits exponent
    cases negative with
    | false => exact hnearest
    | true => exact hnearest.neg

lemma IsValue.isNaN_eq_false {numeral : Numeral} {x : Float} (h : numeral.IsValue x) :
    x.isNaN = false := by
  obtain ⟨negative, _ | ⟨digits, exponent⟩⟩ := numeral
  · show x.toModel.unpack.isNaN = false
    rw [show x.toModel.unpack = _ from h]
    rfl
  · exact IsNearest.isNaN_eq_false h

end Numeral

end TableFormula.Number
