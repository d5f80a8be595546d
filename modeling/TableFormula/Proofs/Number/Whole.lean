import TableFormula.Function.Text
import TableFormula.Proofs.Number.Decimals

/-!
# Whole numbers as doubles

Functions that count take their counts as doubles and leave out what follows the point.  A whole
number of at most fifty-three binary digits passes through that unchanged: it is a double itself, and
nothing follows its point.
-/

namespace TableFormula

namespace Number

open Float.Model Float.Model.UnpackedFloat

/-! ## Doubles without fraction -/

namespace HasSize

variable {x : Float} {sign : UnpackedFloat.Sign} {r : ℚ}

/-- A double that is a whole number is left as it is by what cuts the rest off. -/
lemma truncate_eq {n : ℤ} (h : HasSize x sign r) (hn : (if isNegative sign then -r else r) = n) :
    Number.truncate x = .ok n := by
  obtain ⟨m, e, hm, hx, -, -, rfl⟩ := h
  rw [Number.truncate, rounded, kind_eq, hx]
  apply congrArg Except.ok
  have hvalue := BinaryFraction.numerator_div_denominator ⟨isNegative sign, m, e⟩
  have hpos := BinaryFraction.denominator_pos ⟨isNegative sign, m, e⟩
  have hnumerator : BinaryFraction.numerator ⟨isNegative sign, m, e⟩ =
      n * (BinaryFraction.denominator ⟨isNegative sign, m, e⟩ : ℕ) := by
    rw [hn, div_eq_iff (by exact_mod_cast hpos.ne')] at hvalue
    exact_mod_cast hvalue
  rw [BinaryFraction.truncate, hnumerator]
  exact Int.mul_tdiv_cancel n (by exact_mod_cast hpos.ne')

lemma isInf_eq_false (h : HasSize x sign r) : x.isInf = false := by
  obtain ⟨m, e, hm, hx, -⟩ := h
  show x.toModel.unpack.isInf = false
  rw [hx]
  rfl

lemma isNaN_eq_false (h : HasSize x sign r) : x.isNaN = false := by
  obtain ⟨m, e, hm, hx, -⟩ := h
  show x.toModel.unpack.isNaN = false
  rw [hx]
  rfl

end HasSize

/-! ## Doubles of whole numbers -/

/-- A positive whole number is read as the double that it is. -/
lemma hasSize_ofNat {n : ℕ} (hn : 0 < n) (hmax : n < 2 ^ 53) :
    HasSize (Float.ofNat n) .positive n :=
  (isNearest_ofNat n).hasSize_nat hn hmax

/-- A whole number other than zero is read as the double that it is. -/
lemma exists_hasSize_ofInt {n : ℤ} (hn : n ≠ 0) (hmax : n.natAbs < 2 ^ 53) :
    ∃ sign r, HasSize (Float.ofInt n) sign r ∧ (if isNegative sign then -r else r) = n := by
  cases n with
  | ofNat n =>
    have hpos : 0 < n := Nat.pos_of_ne_zero fun hzero => hn (congrArg Int.ofNat hzero)
    exact ⟨.positive, n, hasSize_ofNat hpos hmax, rfl⟩
  | negSucc n =>
    have hsize := hasSize_ofNat n.succ_pos hmax
    refine ⟨.negative, n.succ, hsize.neg, ?_⟩
    rw [Int.cast_negSucc]
    rfl

lemma truncate_zero : truncate (Float.ofInt 0) = .ok 0 := by
  have hkind : kind (Float.ofInt 0) = .finite ⟨false, 0, -1074⟩ := rfl
  rw [truncate, rounded, hkind]
  apply congrArg Except.ok
  rw [BinaryFraction.truncate, BinaryFraction.numerator, Nat.zero_mul]
  exact Int.zero_tdiv _

variable {n : ℤ} (hmax : n.natAbs < 2 ^ 53)

include hmax

lemma truncate_ofInt : truncate (Float.ofInt n) = .ok n := by
  by_cases hn : n = 0
  · subst hn
    exact truncate_zero
  · obtain ⟨sign, r, hsize, hvalue⟩ := exists_hasSize_ofInt hn hmax
    exact hsize.truncate_eq hvalue

lemma isInf_ofInt : (Float.ofInt n).isInf = false := by
  by_cases hn : n = 0
  · subst hn
    rfl
  · obtain ⟨sign, r, hsize, -⟩ := exists_hasSize_ofInt hn hmax
    exact hsize.isInf_eq_false

lemma isNaN_ofInt : (Float.ofInt n).isNaN = false := by
  by_cases hn : n = 0
  · subst hn
    rfl
  · obtain ⟨sign, r, hsize, -⟩ := exists_hasSize_ofInt hn hmax
    exact hsize.isNaN_eq_false

end Number

namespace Function

variable {n : ℤ} (hmax : n.natAbs < 2 ^ 53)

include hmax

/-- An integer counts as itself. -/
lemma wholeNumber_integer : wholeNumber (.integer n) = .ok n := by
  have hread : (Value.integer n).toNumber = .ok (Float.ofInt n) := by
    rw [Value.toNumber, Number.ofInt, Number.isInf_ofInt hmax]
    rfl
  rw [wholeNumber, hread]
  exact Number.truncate_ofInt hmax

/-- So does the float of an integer. -/
lemma wholeNumber_float : wholeNumber (.float (Float.ofInt n)) = .ok n := by
  have hread : (Value.float (Float.ofInt n)).toNumber = .ok (Float.ofInt n) := by
    rw [Value.toNumber, Value.orZero, Number.isNaN_ofInt hmax]
    rfl
  rw [wholeNumber, hread]
  exact Number.truncate_ofInt hmax

end Function

end TableFormula
