import TableFormula.Number.Shortest
import TableFormula.Proofs.Number.Sizes

/-!
# Digits that identify a double

The digits that are written for a double are some that it is the nearest double to, so nothing is
lost by writing them (`isNearest_shortest`).

Which decimals a double is nearest to is tested in natural numbers, with an interval around it: to
its neighbours it reaches half-way.  Only the lower neighbour of a power of two is closer than the
upper one, and a decimal between them has another unit in the last place; it is rounded up to the
power of two all the same.
-/

namespace TableFormula.Number

open Float.Model Float.Model.UnpackedFloat

/-! ## Decimals and binary fractions -/

/-- The value of a decimal. -/
def Scientific.value (s : Scientific) : ℚ :=
  s.digits * 10 ^ s.exponent

/-- A power in two parts, of which one is one. -/
lemma zpow_mul_toNat {b : ℚ} (hb : b ≠ 0) (i : ℤ) : b ^ i * b ^ (-i).toNat = b ^ i.toNat := by
  rw [← zpow_natCast, ← zpow_natCast, ← zpow_add₀ hb]
  congr 1
  omega

/-- Decimals and binary fractions are compared as what they are multiplied to. -/
lemma exists_compareScaled_eq (a : ℕ) (i : ℤ) (b : ℕ) (j : ℤ) : ∃ (A B : ℕ) (scale : ℚ), 0 < scale ∧
    compareScaled a i b j = compare A B ∧ (A : ℚ) = a * 10 ^ i * scale ∧
      (B : ℚ) = b * 2 ^ j * scale := by
  refine ⟨_, _, 10 ^ (-i).toNat * 2 ^ (-j).toNat, by positivity, rfl, ?_, ?_⟩
  · rw [Nat.pow_eq, Nat.pow_eq]
    push_cast
    rw [← zpow_mul_toNat (by norm_num) i]
    ring
  · rw [Nat.pow_eq, Nat.pow_eq]
    push_cast
    rw [← zpow_mul_toNat two_ne_zero j]
    ring

section

variable (a : ℕ) (i : ℤ) (b : ℕ) (j : ℤ)

lemma compareScaled_eq_lt : compareScaled a i b j = .lt ↔ (a * 10 ^ i : ℚ) < b * 2 ^ j := by
  obtain ⟨A, B, scale, hscale, heq, hA, hB⟩ := exists_compareScaled_eq a i b j
  rw [heq, compare_lt_iff_lt, ← Nat.cast_lt (α := ℚ), hA, hB, mul_lt_mul_iff_left₀ hscale]

lemma compareScaled_eq_eq : compareScaled a i b j = .eq ↔ (a * 10 ^ i : ℚ) = b * 2 ^ j := by
  obtain ⟨A, B, scale, hscale, heq, hA, hB⟩ := exists_compareScaled_eq a i b j
  rw [heq, compare_eq_iff_eq, ← Nat.cast_inj (R := ℚ), hA, hB, mul_left_inj' hscale.ne']

lemma compareScaled_eq_gt : compareScaled a i b j = .gt ↔ (b * 2 ^ j : ℚ) < a * 10 ^ i := by
  obtain ⟨A, B, scale, hscale, heq, hA, hB⟩ := exists_compareScaled_eq a i b j
  rw [heq, compare_gt_iff_gt, ← Nat.cast_lt (α := ℚ), hA, hB, mul_lt_mul_iff_left₀ hscale]

end

/-! ## The interval around a double -/

namespace BinaryFraction

variable {d : BinaryFraction} {s : Scientific}

/-- How far the interval reaches down, in quarters of a unit. -/
def reachBelow (d : BinaryFraction) : ℕ :=
  if d.narrowBelow then 1 else 2

lemma reachBelow_le (d : BinaryFraction) : d.reachBelow ≤ 2 := by
  unfold reachBelow
  split <;> decide

lemma reachBelow_mul_le (d : BinaryFraction) :
    (d.reachBelow * (2 ^ d.exponent / 4) : ℚ) ≤ 2 ^ d.exponent / 2 := by
  have hreach : (d.reachBelow : ℚ) ≤ 2 := by exact_mod_cast d.reachBelow_le
  have hunit := unit_pos d.exponent
  linarith [mul_le_mul_of_nonneg_right hreach (by positivity : 0 ≤ (2 : ℚ) ^ d.exponent / 4)]

/-- What is tested of a decimal: it lies in the interval, and at an end of it only if the last digit
of the double is even. -/
lemma bounds_of_readsBack (hm : 0 < d.mantissa) (h : d.readsBack s = true) :
    -(d.reachBelow * (2 ^ d.exponent / 4)) ≤ s.value - d.mantissa * 2 ^ d.exponent ∧
    s.value - d.mantissa * 2 ^ d.exponent ≤ 2 ^ d.exponent / 2 ∧
    (s.value - d.mantissa * 2 ^ d.exponent = -(d.reachBelow * (2 ^ d.exponent / 4)) ∨
      s.value - d.mantissa * 2 ^ d.exponent = 2 ^ d.exponent / 2 → Even d.mantissa) := by
  have hreach := d.reachBelow_le
  have hlower : (if d.narrowBelow then 4 * d.mantissa - 1 else 4 * d.mantissa - 2) =
      4 * d.mantissa - d.reachBelow := by
    unfold reachBelow
    split <;> rfl
  have hquarter : (2 : ℚ) ^ (d.exponent - 2) = 2 ^ d.exponent / 4 := by
    rw [zpow_sub₀ two_ne_zero]
    norm_num
  have hbelow : ((4 * d.mantissa - d.reachBelow : ℕ) : ℚ) = 4 * d.mantissa - d.reachBelow := by
    rw [Nat.cast_sub (by omega)]
    push_cast
    rfl
  have habove : ((4 * d.mantissa + 2 : ℕ) : ℚ) = 4 * d.mantissa + 2 := by
    push_cast
    rfl
  have hunit := unit_pos d.exponent
  simp only [readsBack, hlower, Bool.and_eq_true, Bool.or_eq_true, beq_iff_eq, compareScaled_eq_gt,
    compareScaled_eq_lt, compareScaled_eq_eq, hquarter, hbelow, habove, ← Nat.even_iff] at h
  change (_ < s.value ∨ _ ∧ s.value = _) ∧ (s.value < _ ∨ _ ∧ s.value = _) at h
  generalize (2 : ℚ) ^ d.exponent = unit at *
  obtain ⟨hlow, hup⟩ := h
  refine ⟨?_, ?_, ?_⟩
  · obtain hlt | ⟨-, heq⟩ := hlow <;> linarith
  · obtain hlt | ⟨-, heq⟩ := hup <;> linarith
  · rintro (hend | hend)
    · obtain hlt | ⟨heven, -⟩ := hlow
      · linarith
      · exact heven
    · obtain hlt | ⟨heven, -⟩ := hup
      · linarith
      · exact heven

/-- A decimal in the interval with the unit of the double is rounded to it. -/
lemma rounds_of_readsBack (hd : IsDouble d.mantissa d.exponent) (hm : 0 < d.mantissa)
    (h : d.readsBack s = true) (hfull : 2 ^ 52 * 2 ^ d.exponent ≤ s.value ∨ d.exponent = -1074) :
    Rounds s.value d.exponent d.mantissa := by
  obtain ⟨hlow, hup, heven⟩ := bounds_of_readsBack hm h
  have hunit := unit_pos d.exponent
  have hhalf := d.reachBelow_mul_le
  have hmost : (d.mantissa : ℚ) + 1 ≤ 2 ^ 53 := by exact_mod_cast hd.upper
  have hmost' := mul_le_mul_of_nonneg_right hmost hunit.le
  refine ⟨⟨?_, fun htie => heven ?_⟩, hd.least, hfull, ?_⟩
  · rw [abs_le]
    constructor <;> linarith
  · obtain hend | hend := (abs_eq (by positivity)).mp htie
    · exact .inr hend
    · exact .inl (le_antisymm (by linarith) hlow)
  · linarith

/-- Half-way or less below a power of two, the unit is smaller, and a decimal is rounded up to the
power of two. -/
lemma rounds_below_of_readsBack (hd : IsDouble d.mantissa d.exponent) (hm : 0 < d.mantissa)
    (h : d.readsBack s = true) (hlt : s.value < 2 ^ 52 * 2 ^ d.exponent)
    (hleast : d.exponent ≠ -1074) :
    d.mantissa = 2 ^ 52 ∧ Rounds s.value (d.exponent - 1) (2 ^ 53) := by
  obtain ⟨hlow, -, -⟩ := bounds_of_readsBack hm h
  have hunit := unit_pos d.exponent
  have hfull : 2 ^ 52 ≤ d.mantissa := hd.full.resolve_right hleast
  have hpower : d.mantissa = 2 ^ 52 := by
    by_contra hne
    have hsucc := succ_mul_unit_le d.exponent (Nat.lt_of_le_of_ne hfull (Ne.symm hne))
    have hhalf := d.reachBelow_mul_le
    push_cast at hsucc
    linarith
  have hnarrow : d.reachBelow = 1 := by
    have hleast' : -1074 < d.exponent := lt_of_le_of_ne hd.least (Ne.symm hleast)
    rw [reachBelow, narrowBelow, hpower]
    simp [hleast']
  have hsmaller : (2 : ℚ) ^ (d.exponent - 1) = 2 ^ d.exponent / 2 := zpow_sub_one₀ two_ne_zero _
  have hleast' := hd.least
  rw [hpower, hnarrow] at hlow
  push_cast at hlow
  refine ⟨hpower, ⟨?_, fun _ => even_two.pow_of_ne_zero (by decide)⟩, by omega, .inl ?_, ?_⟩
  · rw [hsmaller]
    push_cast
    rw [abs_le]
    constructor <;> linarith
  · rw [hsmaller]
    linarith
  · rw [hsmaller]
    linarith

/-- A decimal in the interval is rounded to the double. -/
lemma exists_rounds_of_readsBack (hd : IsDouble d.mantissa d.exponent) (hm : 0 < d.mantissa)
    (h : d.readsBack s = true) :
    ∃ u m, Rounds s.value u m ∧ (m : ℚ) * 2 ^ u = d.mantissa * 2 ^ d.exponent := by
  by_cases hfull : 2 ^ 52 * 2 ^ d.exponent ≤ s.value ∨ d.exponent = -1074
  · exact ⟨_, _, rounds_of_readsBack hd hm h hfull, rfl⟩
  · rw [not_or, not_le] at hfull
    obtain ⟨hpower, hround⟩ := rounds_below_of_readsBack hd hm h hfull.1 hfull.2
    refine ⟨_, _, hround, ?_⟩
    rw [hpower, zpow_sub_one₀ two_ne_zero]
    push_cast
    ring

/-! ## The digits that are chosen -/

lemma readsBack_of_onGrid? {grid : ℤ} (h : d.onGrid? grid = some s) : d.readsBack s = true := by
  unfold onGrid? at h
  dsimp only at h
  split at h
  case h_1 => cases h
  case h_2 hlow _ =>
    cases h
    exact hlow
  case h_3 _ hhigh =>
    cases h
    exact hhigh
  case h_4 hlow hhigh =>
    split at h
    · cases h
      exact hlow
    · cases h
      exact hhigh
    · split at h <;> cases h
      · exact hlow
      · exact hhigh

lemma value_exactDigits (d : BinaryFraction) :
    d.exactDigits.value = d.mantissa * 2 ^ d.exponent := by
  have hpower := zpow_mul_toNat (b := 2) two_ne_zero d.exponent
  rw [exactDigits, Scientific.value, zpow_neg, zpow_natCast, Nat.pow_eq, Nat.pow_eq]
  push_cast
  rw [← hpower, show (10 : ℚ) = 2 * 5 by norm_num, mul_pow]
  field_simp

/-- **The digits that are chosen** are rounded to the double. -/
lemma exists_rounds_shortest (hd : IsDouble d.mantissa d.exponent) (hm : 0 < d.mantissa) :
    ∃ u m, Rounds d.shortest.value u m ∧ (m : ℚ) * 2 ^ u = d.mantissa * 2 ^ d.exponent := by
  unfold shortest
  dsimp only
  cases hfind : (List.range 17).findSome? fun (n : ℕ) => d.onGrid? (d.scale - (n + 1)) with
  | none =>
    rw [Option.getD_none, value_exactDigits]
    exact ⟨_, _, hd.rounds, rfl⟩
  | some s =>
    obtain ⟨n, -, hgrid⟩ := List.exists_of_findSome?_eq_some hfind
    rw [Option.getD_some]
    exact exists_rounds_of_readsBack hd hm (readsBack_of_onGrid? hgrid)

end BinaryFraction

lemma Scientific.value_stripZeros (s : Scientific) (fuel : ℕ) :
    (s.stripZeros fuel).value = s.value := by
  induction fuel generalizing s with
  | zero => rfl
  | succ fuel ih =>
    rw [Scientific.stripZeros]
    split
    · rename_i hzero
      have hdigits : (s.digits : ℚ) = 10 * (s.digits / 10 : ℕ) := by
        exact_mod_cast (Nat.mul_div_cancel' (Nat.dvd_of_mod_eq_zero hzero)).symm
      rw [ih, Scientific.value, Scientific.value, hdigits, zpow_add_one₀ (by norm_num)]
      ring
    · rfl

/-! ## Doubles and their digits -/

/-- A double is the nearest one to what it stands for. -/
lemma isNearest_of_unpack {x : Float} {sign : UnpackedFloat.Sign} {m : ℕ} {e : ℤ} {hm : 0 < m}
    {t : ℚ} {u : ℤ} {m' : ℕ} (hx : x.toModel.unpack = .finite sign m e hm) (hround : Rounds t u m')
    (hvalue : (m' : ℚ) * 2 ^ u = m * 2 ^ e) : IsNearest x sign t := by
  obtain ⟨hdouble, he⟩ := isDouble_of_unpack hx
  refine ⟨u, m', hround, .inl ⟨.inr ⟨m, e, hm, hx, hdouble, hvalue⟩, ?_⟩⟩
  rw [hvalue]
  exact hdouble.lt_of_le he

/-- The digits that are written for a double lead back to it. -/
lemma isNearest_shortest {x : Float} {sign : UnpackedFloat.Sign} {m : ℕ} {e : ℤ} {hm : 0 < m}
    (hx : x.toModel.unpack = .finite sign m e hm) (negative : Bool) (fuel : ℕ) :
    IsNearest x sign ((BinaryFraction.shortest ⟨negative, m, e⟩).stripZeros fuel).value := by
  obtain ⟨u, m', hround, hvalue⟩ := BinaryFraction.exists_rounds_shortest
    (d := ⟨negative, m, e⟩) (isDouble_of_unpack hx).1 hm
  rw [Scientific.value_stripZeros]
  exact isNearest_of_unpack hx hround hvalue

end TableFormula.Number
