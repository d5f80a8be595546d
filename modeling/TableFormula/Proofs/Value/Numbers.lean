import TableFormula.Proofs.Number.Decimals
import TableFormula.Proofs.Number.Numerals
import TableFormula.Value.Reading

/-!
# Values as numbers

Every value is read as a number, or it is one of three kinds of values that have none (`Numberless`).
What is read is never NaN.

A text is worth the longest numeral that it begins with, after its signs of currency, its separators
and its blanks are dropped.
-/

namespace TableFormula

open Number

namespace Value

/-- The values without a number, and how their reading fails: whole numbers out of the range of
doubles, decimals that refuse to be read, and lists that cannot be shown. -/
inductive Numberless : Value → Fault → Prop where
  | large {n : ℤ} (h : 2 ^ 1024 - 2 ^ 970 ≤ n.natAbs) : Numberless (.integer n) (.outOfRange .double)
  | signalling (negative : Bool) (payload : ℕ) :
      Numberless (.decimal (.nan negative true payload)) (.noValue .signalling)
  | hidden {items : List Value} (h : haveTexts items = false) :
      Numberless (.list items) (.noValue .digits)

/-! ## Numbers -/

lemma isInf_ofInt_iff (n : ℤ) : (Float.ofInt n).isInf = true ↔ 2 ^ 1024 - 2 ^ 970 ≤ n.natAbs := by
  rw [(isNearest_ofInt n).isInf_iff, cast_limit_le_iff]

/-- A whole number in the range of doubles is read as the nearest one. -/
lemma toNumber_integer {n : ℤ} (h : n.natAbs < 2 ^ 1024 - 2 ^ 970) :
    (integer n).toNumber = .ok (Float.ofInt n) := by
  rw [toNumber, ofInt, if_neg fun hinf => ((isInf_ofInt_iff n).mp hinf).not_gt h]

lemma orZero_of_isNaN_eq_false {x : Float} (h : x.isNaN = false) : orZero x = x := by
  rw [orZero, h, if_neg Bool.false_ne_true]

lemma isNaN_orZero (x : Float) : (orZero x).isNaN = false := by
  unfold orZero
  split
  · rfl
  · rename_i h
    exact Bool.eq_false_iff.mpr h

lemma isNaN_numberOfText (cs : List Char) : (numberOfText cs).isNaN = false := by
  unfold numberOfText
  split
  · exact (Numeral.isValue_toFloat _).isNaN_eq_false
  · rfl

/-- Every value is read as a number that is not NaN, or it has none. -/
lemma toNumber_cases (v : Value) :
    (∃ x, v.toNumber = .ok x ∧ x.isNaN = false ∧ ∀ fault, ¬ v.Numberless fault) ∨
      ∃ fault, v.toNumber = .error fault ∧ ∀ fault', v.Numberless fault' ↔ fault' = fault := by
  cases v with
  | blank => exact .inl ⟨_, rfl, rfl, nofun⟩
  | truth b => exact .inl ⟨_, rfl, by cases b <;> rfl, nofun⟩
  | text s => exact .inl ⟨_, rfl, isNaN_numberOfText _, nofun⟩
  | integer n =>
    rw [toNumber, ofInt]
    split
    · rename_i hinf
      refine .inr ⟨_, rfl, fun fault' => ⟨fun h => by cases h; rfl, ?_⟩⟩
      rintro rfl
      exact .large ((isInf_ofInt_iff n).mp hinf)
    · rename_i hinf
      refine .inl ⟨_, rfl, (isNearest_ofInt n).isNaN_eq_false, ?_⟩
      rintro _ ⟨h⟩
      exact hinf ((isInf_ofInt_iff n).mpr h)
  | float x => exact .inl ⟨_, rfl, isNaN_orZero x, nofun⟩
  | decimal d =>
    cases d with
    | finite => exact .inl ⟨_, rfl, isNaN_orZero _, nofun⟩
    | infinite => exact .inl ⟨_, rfl, isNaN_orZero _, nofun⟩
    | nan negative signalling payload =>
      cases signalling with
      | false => exact .inl ⟨_, rfl, isNaN_orZero _, nofun⟩
      | true =>
        refine .inr ⟨_, rfl, fun fault' => ⟨fun h => by cases h; rfl, ?_⟩⟩
        rintro rfl
        exact .signalling negative payload
  | date d => exact .inl ⟨_, rfl, (isNearest_ofNat _).isNaN_eq_false, nofun⟩
  | stamp s => exact .inl ⟨_, rfl, (isNearest_ofNat _).isNaN_eq_false, nofun⟩
  | list items =>
    rw [toNumber, toText]
    cases hitems : (list items).hasText with
    | true =>
      refine .inl ⟨0.0, rfl, rfl, ?_⟩
      intro fault hfault
      cases hfault with
      | hidden h => exact absurd (hitems.symm.trans h) (by decide)
    | false =>
      refine .inr ⟨_, rfl, fun fault' => ⟨fun h => by cases h; rfl, ?_⟩⟩
      rintro rfl
      exact .hidden hitems

/-- What a value is read as is never NaN. -/
lemma isNaN_eq_false_of_toNumber {v : Value} {x : Float} (h : v.toNumber = .ok x) :
    x.isNaN = false := by
  obtain ⟨y, hy, hnan, -⟩ | ⟨fault, hfault, -⟩ := v.toNumber_cases
  · rw [hy] at h
    cases h
    exact hnan
  · rw [hfault] at h
    cases h

lemma two_pow_le_ten_pow {k l : ℕ} (h : k ≤ l) : 2 ^ k ≤ 10 ^ l :=
  (Nat.pow_le_pow_right (by decide) h).trans (Nat.pow_le_pow_left (by decide) l)

lemma isShowable_iff (n : ℤ) : isShowable n = true ↔ n.natAbs < 10 ^ digitLimit := by
  rw [isShowable, decide_eq_true_iff, decimalDigits]
  exact Nat.length_toDigits_le_iff (by decide) (by decide)

/-- Whole numbers in the range of doubles have few enough digits. -/
lemma isShowable_of_lt {n : ℤ} (h : n.natAbs < 2 ^ 1024 - 2 ^ 970) : isShowable n = true := by
  have hdigits : 1024 ≤ digitLimit := by decide
  exact (isShowable_iff n).mpr
    (h.trans_le ((Nat.sub_le _ _).trans (two_pow_le_ten_pow hdigits)))

/-- What has a number has a text. -/
lemma hasText_of_toNumber {v : Value} {x : Float} (h : v.toNumber = .ok x) : v.hasText = true := by
  cases v with
  | integer n =>
    refine isShowable_of_lt ?_
    by_contra hlarge
    rw [toNumber, ofInt, if_pos ((isInf_ofInt_iff n).mpr (not_lt.mp hlarge))] at h
    cases h
  | list items =>
    by_contra hnone
    rw [toNumber, toText, if_neg hnone] at h
    cases h
  | _ => rfl

/-! ## Texts -/

/-- **Values as numbers.**  A text is read as the value of the longest numeral that is left of it
when its noise is dropped, and as zero if no numeral is left.  A value fails to be read exactly if
it is an integer out of the range of doubles, a decimal that refuses to be read or a list that cannot
be shown, and what is read is never NaN. -/
theorem toNumber_eq_longest_numeral :
    (∀ s : String,
      (∃ word numeral x, LongestNumeral (s.toList.filter (!isNoise ·)) word numeral ∧
        (text s).toNumber = .ok x ∧ numeral.IsValue x) ∨
      (∀ word numeral, word <+: s.toList.filter (!isNoise ·) → ¬ SpellsNumeral word numeral) ∧
        (text s).toNumber = .ok 0.0) ∧
    (∀ (v : Value) (fault : Fault), v.toNumber = .error fault ↔ v.Numberless fault) ∧
    (∀ (v : Value) (x : Float), v.toNumber = .ok x → x.isNaN = false) := by
  refine ⟨fun s => ?_, fun v fault => ?_, fun v x hv => ?_⟩
  · have hnumber : (text s).toNumber = .ok (numberOfText s.toList) := rfl
    rw [hnumber, numberOfText]
    obtain ⟨word, rest, numeral, -, hread, hlongest⟩ | ⟨hread, hnone⟩ :=
      longestNumeral_of_read? (s.toList.filter (!isNoise ·))
    · rw [hread]
      exact .inl ⟨word, numeral, _, hlongest, rfl, numeral.isValue_toFloat⟩
    · rw [hread]
      exact .inr ⟨hnone, rfl⟩
  · obtain ⟨x, hv, -, hreadable⟩ | ⟨fault', hv, hnumberless⟩ := v.toNumber_cases
    · rw [hv]
      exact iff_of_false nofun (hreadable fault)
    · rw [hv, hnumberless, Except.error.injEq, eq_comm]
  · exact isNaN_eq_false_of_toNumber hv

end Value

end TableFormula
