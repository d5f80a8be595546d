import Mathlib.Algebra.Order.Field.Rat
import Mathlib.Tactic.FieldSimp
import Mathlib.Tactic.NormNum
import Mathlib.Tactic.Ring
import TableFormula.Number.Decimal
import TableFormula.Proofs.Number.Numerals

/-!
# Written numbers are numerals

Digits are written with or without a point and zeros, in front or behind, and with an exponent where
there would be too many zeros.  Each of these texts is a numeral of the grammar, from its first
character to its last one, and its value is the number that was written.

The digits of a double and the digits of an exact decimal are laid out by rules of their own, which
differ in where an exponent is written and in whether a point is always shown.  What both have in
common is where the point goes (`placed`).
-/

namespace TableFormula.Number

/-! ## Digits -/

lemma natOf_eq_ofDigitChars (cs : List Char) : natOf cs = Nat.ofDigitChars 10 cs 0 :=
  Nat.ofDigitChars_eq_foldl.symm

/-- Zeros in front do not change what digits spell. -/
lemma natOf_padded (width n : Nat) : natOf (padded width n) = n := by
  rw [natOf_eq_ofDigitChars, padded, Nat.ofDigitChars_append, Nat.ofDigitChars_replicate_zero,
    Nat.mul_zero]
  exact Nat.ofDigitChars_ten_toDigits

/-- A number that fits is written with as many digits as asked for. -/
lemma length_padded {width n : Nat} (hwidth : 0 < width) (h : n < 10 ^ width) :
    (padded width n).length = width := by
  have hle : (decimalDigits n).length ≤ width :=
    (Nat.length_toDigits_le_iff (by decide) hwidth).mpr h
  rw [padded, List.length_append, List.length_replicate, Nat.sub_add_cancel hle]

lemma padded_ne_nil (width n : Nat) : padded width n ≠ [] := by
  intro h
  exact Nat.toDigits_ne_nil (List.append_eq_nil_iff.mp h).2

lemma isDigit_of_mem_padded {width n : Nat} {c : Char} (h : c ∈ padded width n) :
    c.isDigit = true := by
  rw [padded, List.mem_append] at h
  obtain h | h := h
  · rw [List.eq_of_mem_replicate h]
    rfl
  · exact Nat.isDigit_of_mem_toDigits (by decide) (by decide) h

lemma padded_zero (n : ℕ) : padded 0 n = decimalDigits n := by
  rw [padded, Nat.zero_sub, List.replicate_zero, List.nil_append]

lemma natOf_replicate_zero_append (k : ℕ) (digits : List Char) :
    natOf (List.replicate k '0' ++ digits) = natOf digits := by
  rw [natOf_eq_ofDigitChars, natOf_eq_ofDigitChars, Nat.ofDigitChars_append,
    Nat.ofDigitChars_replicate_zero, Nat.mul_zero]

/-- Every zero behind digits multiplies the number by ten. -/
lemma natOf_append_replicate_zero (digits : List Char) (k : ℕ) :
    natOf (digits ++ List.replicate k '0') = 10 ^ k * natOf digits := by
  rw [natOf_eq_ofDigitChars, natOf_eq_ofDigitChars, Nat.ofDigitChars_append,
    Nat.ofDigitChars_replicate_zero]

lemma isDigit_of_mem_replicate_zero {k : ℕ} {c : Char} (h : c ∈ List.replicate k '0') :
    c.isDigit = true := by
  rw [List.eq_of_mem_replicate h]
  rfl

lemma forall_isDigit_zero : ∀ c ∈ ['0'], c.isDigit = true :=
  List.forall_mem_singleton.mpr rfl

/-! ## Where the point goes -/

/-- Digits with a point in some place: behind zeros, between the digits, or behind zeros that are
added, where `tail` stands for the point and what follows it. -/
def placed (digits : List Char) (point : ℤ) (tail : List Char) : List Char :=
  if point ≤ 0 then '0' :: '.' :: List.replicate (-point).toNat '0' ++ digits
  else if point.toNat < digits.length then
    digits.take point.toNat ++ '.' :: digits.drop point.toNat
  else digits ++ List.replicate (point.toNat - digits.length) '0' ++ tail

/-- A point may be left out, or shown with a zero behind it. -/
def IsTail (tail : List Char) : Prop :=
  tail = [] ∨ tail = ['.', '0']

/-- Digits with a point spell the number that they are, with the point where it was asked for. -/
lemma exists_spellsPoint_placed {digits tail : List Char} (hdigits : ∀ c ∈ digits, c.isDigit = true)
    (hne : digits ≠ []) (point : ℤ) (htail : IsTail tail) :
    ∃ whole places, SpellsPoint (placed digits point tail) whole places ∧
      (natOf (whole ++ places) * 10 ^ (-places.length : ℤ) : ℚ) =
        natOf digits * 10 ^ (point - digits.length) := by
  unfold placed
  split_ifs with hfront hmiddle
  · have hplaces : ∀ c ∈ List.replicate (-point).toNat '0' ++ digits, c.isDigit = true :=
      List.forall_mem_append.mpr ⟨fun _ => isDigit_of_mem_replicate_zero, hdigits⟩
    refine ⟨['0'], List.replicate (-point).toNat '0' ++ digits,
      .point forall_isDigit_zero (List.cons_ne_nil _ _) hplaces, ?_⟩
    have hnat : natOf (['0'] ++ (List.replicate (-point).toNat '0' ++ digits)) = natOf digits :=
      natOf_replicate_zero_append ((-point).toNat + 1) digits
    rw [hnat, List.length_append, List.length_replicate]
    congr 2
    push_cast
    omega
  · obtain ⟨k, rfl⟩ : ∃ k : ℕ, point = k := ⟨point.toNat, by omega⟩
    rw [Int.toNat_natCast] at hmiddle ⊢
    refine ⟨digits.take k, digits.drop k, .point (fun c hc => hdigits c (List.mem_of_mem_take hc))
      ?_ fun c hc => hdigits c (List.mem_of_mem_drop hc), ?_⟩
    · rw [ne_eq, List.take_eq_nil_iff, not_or]
      exact ⟨by omega, hne⟩
    · rw [List.take_append_drop, List.length_drop]
      congr 2
      omega
  · obtain ⟨k, hk⟩ : ∃ k : ℕ, point.toNat = digits.length + k :=
      ⟨point.toNat - digits.length, by omega⟩
    have hzeros : ∀ c ∈ digits ++ List.replicate k '0', c.isDigit = true :=
      List.forall_mem_append.mpr ⟨hdigits, fun _ => isDigit_of_mem_replicate_zero⟩
    have hne' : digits ++ List.replicate k '0' ≠ [] := List.append_ne_nil_of_left_ne_nil hne _
    have hpoint : point - digits.length = k := by omega
    rw [hk, Nat.add_sub_cancel_left, hpoint, zpow_natCast]
    obtain rfl | rfl := htail
    · refine ⟨digits ++ List.replicate k '0', [], ?_, ?_⟩
      · rw [List.append_nil]
        exact .whole hzeros hne'
      · rw [List.append_nil, natOf_append_replicate_zero]
        push_cast
        rw [List.length_nil, Nat.cast_zero, neg_zero, zpow_zero]
        ring
    · refine ⟨digits ++ List.replicate k '0', ['0'], .point hzeros hne' forall_isDigit_zero, ?_⟩
      have hnat : natOf (digits ++ List.replicate k '0' ++ ['0']) = 10 ^ (k + 1) * natOf digits := by
        rw [← natOf_append_replicate_zero, List.replicate_succ', List.append_assoc]
      rw [hnat]
      push_cast
      rw [List.length_singleton, Nat.cast_one, zpow_neg_one, pow_succ]
      field_simp

/-! ## Sizes -/

/-- A text that spells a number without a sign, from its first character to its last one. -/
def SpellsValue (cs : List Char) (t : ℚ) : Prop :=
  ∃ (digits : ℕ) (exponent : ℤ), SpellsSize cs (.decimal digits exponent) ∧
    (digits * 10 ^ exponent : ℚ) = t

/-- A written exponent. -/
lemma spellsExponent_written {mark : Char} (hmark : mark = 'e' ∨ mark = 'E') (n : ℤ)
    {digits : List Char} (hdigits : ∀ c ∈ digits, c.isDigit = true) (hne : digits ≠ [])
    (hn : natOf digits = n.natAbs) :
    SpellsExponent (mark :: (if n < 0 then '-' else '+') :: digits) n := by
  by_cases hneg : n < 0
  · have h := SpellsExponent.some hmark .minus hdigits hne
    have habs : -(n.natAbs : ℤ) = n := by omega
    rw [hn, if_pos rfl, habs] at h
    rw [if_pos hneg]
    exact h
  · have h := SpellsExponent.some hmark .plus hdigits hne
    have habs : (n.natAbs : ℤ) = n := by omega
    rw [hn, if_neg Bool.false_ne_true, habs] at h
    rw [if_neg hneg]
    exact h

/-- Digits with a point and an exponent behind them. -/
lemma spellsValue_placed {digits tail mark : List Char} {exponent : ℤ}
    (hdigits : ∀ c ∈ digits, c.isDigit = true) (hne : digits ≠ []) (point : ℤ)
    (htail : IsTail tail) (hmark : SpellsExponent mark exponent) :
    SpellsValue (placed digits point tail ++ mark)
      (natOf digits * 10 ^ (point - digits.length + exponent)) := by
  obtain ⟨whole, places, hspells, hvalue⟩ := exists_spellsPoint_placed hdigits hne point htail
  refine ⟨_, _, .decimal hspells hmark, ?_⟩
  rw [zpow_add₀ (by norm_num), ← mul_assoc, ← hvalue, mul_assoc, ← zpow_add₀ (by norm_num)]
  congr 2
  ring

/-! ## The two layouts -/

/-- One digit in front of a point and the others behind it. -/
lemma placed_one {digits : List Char} (hne : digits ≠ []) : placed digits 1 [] =
    digits.take 1 ++ if digits.drop 1 = [] then [] else '.' :: digits.drop 1 := by
  obtain ⟨c, digits, rfl⟩ := List.exists_cons_of_ne_nil hne
  cases digits <;> rfl

section

variable (n : ℕ)

lemma natOf_decimalDigits : natOf (decimalDigits n) = n := by
  rw [← padded_zero, natOf_padded]

lemma decimalDigits_ne_nil : decimalDigits n ≠ [] := by
  rw [← padded_zero]
  exact padded_ne_nil 0 n

lemma isDigit_of_mem_decimalDigits : ∀ c ∈ decimalDigits n, c.isDigit = true := by
  intro c hc
  rw [← padded_zero] at hc
  exact isDigit_of_mem_padded hc

end

/-- The digits of a double are laid out as a numeral of their value. -/
lemma spellsValue_layout (form : Notation) (s : Scientific) :
    SpellsValue (form.layout s) (s.digits * 10 ^ s.exponent) := by
  have hdigits := isDigit_of_mem_decimalDigits s.digits
  have hne := decimalDigits_ne_nil s.digits
  have hnat := natOf_decimalDigits s.digits
  unfold Notation.layout
  dsimp only
  generalize decimalDigits s.digits = digits at *
  split
  · have h := spellsValue_placed hdigits hne (digits.length + s.exponent)
      (.inr rfl : IsTail ['.', '0']) .none
    rw [List.append_nil, hnat, add_zero, add_sub_cancel_left] at h
    exact h
  · have hmark := spellsExponent_written (.inl rfl) (digits.length + s.exponent - 1)
      (fun _ => isDigit_of_mem_padded) (padded_ne_nil form.exponentWidth _)
      (natOf_padded form.exponentWidth _)
    have h := spellsValue_placed hdigits hne 1 (.inl rfl : IsTail []) hmark
    rw [placed_one hne, hnat] at h
    convert h using 3
    ring

/-- So are the digits of an exact decimal. -/
lemma spellsValue_sizeText (digits : ℕ) (exponent : ℤ) :
    SpellsValue (Decimal.sizeText digits exponent) (digits * 10 ^ exponent) := by
  have hdigits := isDigit_of_mem_decimalDigits digits
  have hne := decimalDigits_ne_nil digits
  have hnat := natOf_decimalDigits digits
  rw [Decimal.sizeText]
  generalize decimalDigits digits = ds at *
  generalize (if exponent ≤ 0 ∧ exponent + ds.length > -6 then exponent + (ds.length : ℤ) else 1) =
    point
  have hplain : (if point ≤ 0 then '0' :: '.' :: List.replicate (-point).toNat '0' ++ ds
      else if point.toNat < ds.length then ds.take point.toNat ++ '.' :: ds.drop point.toNat
      else ds ++ List.replicate (point.toNat - ds.length) '0') = placed ds point [] := by
    rw [placed, List.append_nil]
  rw [hplain]
  split
  · rename_i hpoint
    have h := spellsValue_placed hdigits hne point (.inl rfl : IsTail []) .none
    rw [List.append_nil, hnat, add_zero, ← hpoint, add_sub_cancel_right] at h
    rwa [← hpoint]
  · have hmark := spellsExponent_written (.inr rfl) (exponent + ds.length - point)
      (isDigit_of_mem_decimalDigits _) (decimalDigits_ne_nil _) (natOf_decimalDigits _)
    have h := spellsValue_placed hdigits hne point (.inl rfl : IsTail []) hmark
    have hexponent : point - ds.length + (exponent + ds.length - point) = exponent := by ring
    have hless : exponent + ds.length - point < 0 ↔ exponent + ds.length < point := by omega
    rw [hnat, hexponent] at h
    simpa only [hless] using h

/-! ## Integers -/

lemma spellsNumeral_integerText (n : ℤ) :
    SpellsNumeral (integerText n) ⟨n < 0, .decimal n.natAbs 0⟩ := by
  have hwhole := SpellsPoint.whole (isDigit_of_mem_decimalDigits n.natAbs)
    (decimalDigits_ne_nil n.natAbs)
  have hsize := SpellsSize.decimal hwhole .none
  simp only [List.append_nil, natOf_decimalDigits, List.length_nil] at hsize
  unfold integerText
  split
  · rename_i hneg
    rw [decide_eq_true hneg]
    exact .mk .minus hsize
  · rename_i hneg
    rw [decide_eq_false hneg]
    exact .mk .none hsize

end TableFormula.Number
