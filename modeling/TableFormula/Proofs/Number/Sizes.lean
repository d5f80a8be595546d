import Mathlib.Data.Rat.Floor
import TableFormula.Proofs.Number.Bits

/-!
# The sizes of doubles

The arithmetic of the language, said with exact numbers.  A quotient and a product are the doubles
nearest to the exact ones (`IsNearest`), over the whole range of doubles: what is too large is
infinite, and what is small has fewer digits.  A double that is neither next to zero nor infinite has
a sign and a size (`HasSize`).  The floor is taken of the exact number that a double stands for.
-/

namespace TableFormula.Number

open Float.Model Float.Model.UnpackedFloat

/-- The value of a fraction, from whole numbers and from its mantissa and exponent. -/
lemma BinaryFraction.numerator_div_denominator (d : BinaryFraction) :
    (d.numerator : ℚ) / d.denominator =
      if d.negative then -((d.mantissa : ℚ) * 2 ^ d.exponent)
        else (d.mantissa : ℚ) * 2 ^ d.exponent := by
  have hpower : (2 : ℚ) ^ d.exponent.toNat / 2 ^ (-d.exponent).toNat = 2 ^ d.exponent := by
    rw [← zpow_natCast, ← zpow_natCast, ← zpow_sub₀ (by norm_num)]
    congr 1
    omega
  rw [← hpower, numerator, denominator]
  split <;> push_cast [Nat.pow_eq] <;> ring

/-- The floor of a fraction, computed on whole numbers, is the floor of its value. -/
lemma BinaryFraction.floor_eq (d : BinaryFraction) : d.floor =
    ⌊if d.negative then -((d.mantissa : ℚ) * 2 ^ d.exponent)
      else (d.mantissa : ℚ) * 2 ^ d.exponent⌋ := by
  rw [floor, Int.fdiv_eq_ediv_of_nonneg _ (Int.natCast_nonneg _), ← d.numerator_div_denominator,
    Rat.floor_intCast_div_natCast]

/-! ## Equality of doubles -/

/-- Parts that compare as equal are the same, or both are zero. -/
lemma eq_or_zero_of_compare_eq {f g : UnpackedFloat} (h : f.compare g = some .eq) :
    f = g ∨ ∃ sign sign', f = .zero sign ∧ g = .zero sign' := by
  cases f with
  | notANumber => cases g <;> cases h
  | zero sign =>
    cases g with
    | zero sign' => exact .inr ⟨sign, sign', rfl, rfl⟩
    | notANumber => cases h
    | infinity sign' | finite sign' => cases sign' <;> cases h
  | infinity sign =>
    cases g with
    | infinity sign' => cases sign <;> cases sign' <;> first | exact .inl rfl | cases h
    | notANumber => cases h
    | zero | finite => cases sign <;> cases h
  | finite sign m e hm =>
    cases g with
    | finite sign' m' e' hm' =>
      have hparts : sign = sign' ∧ (compare e e').then (compare m m') = .eq := by
        cases sign <;> cases sign'
        · exact ⟨rfl, Ordering.swap_inj.mp (Option.some.inj h)⟩
        · cases h
        · cases h
        · exact ⟨rfl, Option.some.inj h⟩
      rw [Ordering.then_eq_eq, compare_eq_iff_eq, compare_eq_iff_eq] at hparts
      obtain ⟨rfl, rfl, rfl⟩ := hparts
      exact .inl rfl
    | notANumber => cases h
    | zero => cases sign <;> cases h
    | infinity sign' => cases sign <;> cases sign' <;> cases h

lemma compare_self {f : UnpackedFloat} (h : f.isNaN = false) : f.compare f = some .eq := by
  cases f with
  | notANumber => cases h
  | zero sign => rfl
  | infinity sign => cases sign <;> rfl
  | finite sign m e hm =>
    have hsame : (compare e e).then (compare m m) = .eq := by
      rw [Ordering.then_eq_eq, compare_eq_iff_eq, compare_eq_iff_eq]
      exact ⟨rfl, rfl⟩
    cases sign
    · exact congrArg (some ∘ Ordering.swap) hsame
    · exact congrArg some hsame

/-- Parts compare as equal if they are the same and a number, or if both are zero. -/
lemma compare_eq_iff (f g : UnpackedFloat) : f.compare g = some .eq ↔
    f = g ∧ f.isNaN = false ∨ ∃ sign sign', f = .zero sign ∧ g = .zero sign' := by
  constructor
  · intro h
    obtain rfl | hzeros := eq_or_zero_of_compare_eq h
    · refine .inl ⟨rfl, ?_⟩
      cases f with
      | notANumber => cases h
      | _ => rfl
    · exact .inr hzeros
  · rintro (⟨rfl, hnan⟩ | ⟨sign, sign', rfl, rfl⟩)
    · exact compare_self hnan
    · rfl

lemma beq_float_iff (x y : Float) : (x == y) = true ↔
    x.toModel.unpack = y.toModel.unpack ∧ x.isNaN = false ∨
      ∃ sign sign', x.toModel.unpack = .zero sign ∧ y.toModel.unpack = .zero sign' := by
  have hbeq : (x == y) = (x.toModel.unpack.compare y.toModel.unpack == some .eq) := rfl
  rw [hbeq, beq_iff_eq, compare_eq_iff]
  rfl

/-- Equality of doubles is symmetric. -/
lemma beq_float_comm (x y : Float) : (x == y) = (y == x) := by
  have hswap : ∀ x y : Float, (x == y) = true → (y == x) = true := by
    intro x y h
    rw [beq_float_iff] at h ⊢
    obtain ⟨heq, hnan⟩ | ⟨sign, sign', hx, hy⟩ := h
    · refine .inl ⟨heq.symm, ?_⟩
      show y.toModel.unpack.isNaN = false
      rw [← heq]
      exact hnan
    · exact .inr ⟨sign', sign, hy, hx⟩
  exact Bool.eq_iff_iff.mpr ⟨hswap x y, hswap y x⟩

/-- Equality of doubles is reflexive except on what is no number. -/
lemma beq_float_self {x : Float} (h : x.isNaN = false) : (x == x) = true :=
  (beq_float_iff x x).mpr (.inl ⟨rfl, h⟩)

/-! ## The nearest double -/

/-- A double is the one nearest to a number that is not negative, apart from its sign: where the
number is rounded out of the range of doubles it is infinite. -/
def IsNearest (x : Float) (sign : UnpackedFloat.Sign) (t : ℚ) : Prop :=
  ∃ (u : ℤ) (m : ℕ), Rounds t u m ∧
    (HasValue x.toModel.unpack sign (m * 2 ^ u) ∧ (m : ℚ) * 2 ^ u < 2 ^ 1024 ∨
      x.toModel.unpack = .infinity sign ∧ 2 ^ 1024 ≤ (m : ℚ) * 2 ^ u)

/-- What is rounded is packed into the nearest double. -/
lemma IsRounded.isNearest {f : UnpackedFloat} {sign : UnpackedFloat.Sign} {t : ℚ}
    (h : IsRounded f sign t) : IsNearest (.ofModel (Float.Model.pack f)) sign t := by
  obtain ⟨u, m, hround, hvalue⟩ := h
  refine ⟨u, m, hround, ?_⟩
  obtain hlt | hle := lt_or_ge ((m : ℚ) * 2 ^ u) (2 ^ 1024)
  · refine .inl ⟨?_, hlt⟩
    show HasValue (Float.Model.pack f).unpack sign _
    rwa [hvalue.unpack_pack hlt]
  · exact .inr ⟨hvalue.unpack_pack_of_le hle, hle⟩

/-- A double has a sign and a size, and its mantissa is full. -/
def HasSize (x : Float) (sign : UnpackedFloat.Sign) (r : ℚ) : Prop :=
  IsFull x.toModel.unpack sign r

namespace IsNearest

variable {x y : Float} {sign : UnpackedFloat.Sign} {t : ℚ} (h : IsNearest x sign t)

include h

lemma isNaN_eq_false : x.isNaN = false := by
  show x.toModel.unpack.isNaN = false
  obtain ⟨u, m, -, ⟨⟨hx, -⟩ | ⟨m', e', hm', hx, -⟩, -⟩ | ⟨hx, -⟩⟩ := h <;> rw [hx] <;> rfl

/-- The nearest double is infinite from half-way between the greatest double and the next power of
two. -/
lemma isInf_iff : x.isInf = true ↔ 2 ^ 1024 - 2 ^ 970 ≤ t := by
  have hinf : x.isInf = x.toModel.unpack.isInf := rfl
  obtain ⟨u, m, hround, ⟨hvalue, hlt⟩ | ⟨hx, hle⟩⟩ := h
  · have hfinite : x.toModel.unpack.isInf = false := by
      obtain ⟨hx, -⟩ | ⟨m', e', hm', hx, -⟩ := hvalue <;> rw [hx] <;> rfl
    rw [hinf, hfinite, ← hround.two_pow_le_iff]
    exact iff_of_false Bool.false_ne_true hlt.not_ge
  · rw [hinf, hx]
    exact iff_of_true rfl (hround.two_pow_le_iff.mp hle)

/-- The nearest double to a number that is not below one is not zero. -/
lemma beq_zero (ht : 1 ≤ t) : (x == 0.0) = false := by
  have hne : ∀ sign', x.toModel.unpack ≠ .zero sign' := by
    intro sign' hzero
    obtain ⟨u, m, hround, ⟨⟨-, hvalue⟩ | ⟨m', e', hm', hx, -⟩, -⟩ | ⟨hx, -⟩⟩ := h
    · have hpos : (0 : ℚ) < m := by exact_mod_cast hround.mantissa_pos ht
      exact absurd hvalue (mul_pos hpos (unit_pos u)).ne'
    · rw [hx] at hzero
      cases hzero
    · rw [hx] at hzero
      cases hzero
  rw [← Bool.not_eq_true, beq_float_iff]
  rintro (⟨hx, -⟩ | ⟨sign', -, hx, -⟩)
  · exact hne .positive hx
  · exact hne sign' hx

/-- There is one nearest double. -/
lemma unpack_eq (h' : IsNearest y sign t) : x.toModel.unpack = y.toModel.unpack := by
  obtain ⟨u, m, hround, hx⟩ := h
  obtain ⟨u', m', hround', hy⟩ := h'
  obtain ⟨rfl, rfl⟩ := hround.unique hround'
  obtain ⟨hx, hlt⟩ | ⟨hx, hle⟩ := hx
  · obtain ⟨hy, -⟩ | ⟨-, hle⟩ := hy
    · exact hx.unique hy
    · exact absurd hle hlt.not_ge
  · obtain ⟨-, hlt⟩ | ⟨hy, -⟩ := hy
    · exact absurd hle hlt.not_ge
    · rw [hx, hy]

lemma beq (h' : IsNearest y sign t) : (x == y) = true :=
  (beq_float_iff x y).mpr (.inl ⟨h.unpack_eq h', h.isNaN_eq_false⟩)

/-- The nearest double to a number below zero. -/
lemma neg : IsNearest (-x) (-sign) t := by
  obtain ⟨u, m, hround, ⟨hvalue, hlt⟩ | ⟨hx, hle⟩⟩ := h
  · have hneg : HasValue x.toModel.unpack.neg (-sign) (m * 2 ^ u) := by
      obtain ⟨hx, hzero⟩ | ⟨m', e', hm', hx, hrest⟩ := hvalue
      · exact .inl ⟨congrArg UnpackedFloat.neg hx, hzero⟩
      · exact .inr ⟨m', e', hm', congrArg UnpackedFloat.neg hx, hrest⟩
    refine ⟨u, m, hround, .inl ⟨?_, hlt⟩⟩
    show HasValue (Float.Model.pack x.toModel.unpack.neg).unpack (-sign) _
    rwa [hneg.unpack_pack hlt]
  · refine ⟨u, m, hround, .inr ⟨?_, hle⟩⟩
    show (Float.Model.pack x.toModel.unpack.neg).unpack = _
    rw [hx]
    cases sign <;> rfl

/-- The nearest double to a number that is neither next to zero nor out of range has a size. -/
lemma exists_hasSize (hlow : 2 ^ (-1000 : ℤ) ≤ t) (hup : t ≤ 2 ^ (1000 : ℤ)) :
    ∃ r, HasSize x sign r ∧ Nearest t r := by
  obtain ⟨u, m, hround, ⟨hvalue, -⟩ | ⟨-, hlarge⟩⟩ := h
  · exact IsRounded.exists_full ⟨u, m, hround, hvalue⟩ hlow hup
  · -- The infinite numbers begin above `2 ^ 1000`.
    have hspan : (2 : ℚ) ^ 970 ≤ 2 ^ 1000 ∧ (2 : ℚ) ^ 1002 ≤ 2 ^ 1024 :=
      ⟨pow_le_pow_right₀ one_le_two (by decide), pow_le_pow_right₀ one_le_two (by decide)⟩
    rw [hround.two_pow_le_iff] at hlarge
    rw [zpow_ofNat] at hup
    rw [pow_add (2 : ℚ) 1000 2] at hspan
    have hpos : (0 : ℚ) < 2 ^ 1000 := pow_pos two_pos _
    generalize (2 : ℚ) ^ 1000 = low at *
    generalize (2 : ℚ) ^ 1024 = limit at *
    generalize (2 : ℚ) ^ 970 = half at *
    linarith

end IsNearest

/-- The nearest double to a whole number of at most fifty-three digits is this number. -/
lemma IsNearest.hasSize_nat {x : Float} {sign : UnpackedFloat.Sign} {n : ℕ} (h : IsNearest x sign n)
    (hn : 0 < n) (hmax : n < 2 ^ 53) : HasSize x sign n := by
  have hleast : (1 : ℚ) ≤ n := by exact_mod_cast hn
  have hmost : (n : ℚ) < 2 ^ 53 := by exact_mod_cast hmax
  have hlow : (2 : ℚ) ^ (-1000 : ℤ) ≤ 1 := zpow_le_one_of_nonpos₀ one_le_two (by decide)
  have hup : (2 : ℚ) ^ 53 ≤ 2 ^ (1000 : ℤ) := by
    rw [zpow_ofNat]
    exact pow_le_pow_right₀ one_le_two (by decide)
  obtain ⟨r, hsize, hnearest⟩ := h.exists_hasSize (hlow.trans hleast) (hmost.le.trans hup)
  obtain rfl : r = n := hnearest.eq_nat hmost rfl
  exact hsize

namespace HasSize

variable {x y : Float} {sign sign' : UnpackedFloat.Sign} {r r' : ℚ}

lemma pos (h : HasSize x sign r) : 0 < r := by
  obtain ⟨m, e, hm, -, -, -, rfl⟩ := h
  exact mul_pos (by exact_mod_cast hm) (unit_pos e)

/-- The quotient of two doubles is the double nearest to the exact one. -/
lemma isNearest_div (h : HasSize x sign r) (h' : HasSize y sign' r') :
    IsNearest (x / y) (sign / sign') (r / r') := by
  obtain ⟨m, e, hm, hx, -, -, rfl⟩ := h
  obtain ⟨m', e', hm', hy, -, -, rfl⟩ := h'
  show IsNearest (.ofModel (Float.Model.pack (UnpackedFloat.div Format.binary64 x.toModel.unpack
    y.toModel.unpack))) (sign / sign') _
  rw [hx, hy]
  exact (isRounded_div hm hm' e e' sign sign').isNearest

/-- The product of two doubles is the double nearest to the exact one. -/
lemma isNearest_mul (h : HasSize x sign r) (h' : HasSize y sign' r') :
    IsNearest (x * y) (sign * sign') (r * r') := by
  obtain ⟨m, e, hm, hx, hfull, -, rfl⟩ := h
  obtain ⟨m', e', hm', hy, hfull', -, rfl⟩ := h'
  have hdigits : 52 ≤ (m * m').log2 := by
    rw [Nat.le_log2 (Nat.mul_pos hm hm').ne']
    exact hfull.1.trans (Nat.le_mul_of_pos_right m hm')
  show IsNearest (.ofModel (Float.Model.pack (UnpackedFloat.mul Format.binary64 x.toModel.unpack
    y.toModel.unpack))) (sign * sign') _
  rw [hx, hy]
  exact (isRounded_mul hm hm' e e' sign sign' hdigits).isNearest

/-- A quotient that is neither next to zero nor out of range has a size. -/
lemma exists_div (h : HasSize x sign r) (h' : HasSize y sign' r')
    (hrange : 2 ^ (-100 : ℤ) ≤ r / r' ∧ r / r' ≤ 2 ^ (100 : ℤ)) :
    ∃ q, HasSize (x / y) (sign / sign') q ∧ Nearest (r / r') q :=
  (h.isNearest_div h').exists_hasSize
    ((zpow_le_zpow_right₀ one_le_two (by decide)).trans hrange.1)
    (hrange.2.trans (zpow_le_zpow_right₀ one_le_two (by decide)))

lemma neg (h : HasSize x sign r) : HasSize (-x) (-sign) r := by
  have hneg : IsFull x.toModel.unpack.neg (-sign) r := by
    obtain ⟨m, e, hm, hx, hrest⟩ := h
    exact ⟨m, e, hm, congrArg UnpackedFloat.neg hx, hrest⟩
  show IsFull (Float.Model.pack x.toModel.unpack.neg).unpack (-sign) r
  rwa [unpack_pack hneg]

/-- The floor of a double is the floor of the number that it stands for. -/
lemma floor_eq (h : HasSize x sign r) :
    Number.floor x = .ok ⌊if isNegative sign then -r else r⌋ := by
  obtain ⟨m, e, hm, hx, -, -, rfl⟩ := h
  rw [Number.floor, rounded, kind_eq, hx]
  exact congrArg Except.ok (BinaryFraction.floor_eq _)

end HasSize

end TableFormula.Number
