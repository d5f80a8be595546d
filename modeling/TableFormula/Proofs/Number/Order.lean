import Mathlib.Data.Prod.Lex
import Mathlib.Order.Compare
import TableFormula.Proofs.Number.Sizes

/-!
# The order of doubles

Doubles that are numbers are compared by their signs, then by their exponents and then by their
mantissas.  `rank` makes one place in a linear order of these three; the two zeros share a place.  So
doubles compare as their ranks do wherever neither of them is NaN (`lt_iff_rank`, `le_iff_rank`,
`beq_iff_rank`), and what holds in every linear order holds for them.
-/

namespace TableFormula.Number

open Float.Model Float.Model.UnpackedFloat

/-! ## Comparisons in a lexicographic order -/

lemma compare_toLex {α β : Type} [LinearOrder α] [LinearOrder β] (a a' : α) (b b' : β) :
    compare (toLex (a, b)) (toLex (a', b')) = (compare a a').then (compare b b') := by
  rw [Prod.Lex.compare_def]
  rfl

lemma compare_natCast (m n : ℕ) : compare (m : ℤ) n = compare m n := by
  rw [← cmp_eq_compare, ← cmp_eq_compare, Nat.strictMono_cast.cmp_map_eq]

lemma compare_neg_neg (a b : ℤ) : compare (-a) (-b) = (compare a b).swap := by
  have hanti : StrictAnti fun a : ℤ => -a := fun _ _ h => neg_lt_neg h
  rw [← cmp_eq_compare, ← cmp_eq_compare, cmp_swap]
  exact hanti.cmp_map_eq a b

/-! ## Ranks -/

/-- The place of a double that is taken apart: its sign, with the infinities outside, then its
exponent, then its mantissa. -/
def place : UnpackedFloat → ℤ ×ₗ ℤ ×ₗ ℤ
  | .infinity .negative => toLex (-2, toLex (0, 0))
  | .finite .negative m e _ => toLex (-1, toLex (-e, -m))
  | .zero _ | .notANumber => toLex (0, toLex (0, 0))
  | .finite .positive m e _ => toLex (1, toLex (e, m))
  | .infinity .positive => toLex (2, toLex (0, 0))

/-- The place of a double in the order of numbers. -/
def rank (x : Float) : ℤ ×ₗ ℤ ×ₗ ℤ :=
  place x.toModel.unpack

/-- Parts that are numbers compare as their places do. -/
lemma compare_eq_place {f g : UnpackedFloat} (hf : f.isNaN = false) (hg : g.isNaN = false) :
    f.compare g = some (compare (place f) (place g)) := by
  cases f with
  | notANumber => cases hf
  | zero sign =>
    cases g with
    | notANumber => cases hg
    | zero => rfl
    | infinity sign' | finite sign' => cases sign' <;> rfl
  | infinity sign =>
    cases g with
    | notANumber => cases hg
    | zero => cases sign <;> rfl
    | infinity sign' | finite sign' => cases sign <;> cases sign' <;> rfl
  | finite sign m e hm =>
    cases g with
    | notANumber => cases hg
    | zero => cases sign <;> rfl
    | infinity sign' => cases sign <;> cases sign' <;> rfl
    | finite sign' m' e' hm' =>
      -- Among negative numbers a greater exponent and a greater mantissa come first.
      have hpositive : compare (toLex (e, (m : ℤ))) (toLex (e', (m' : ℤ))) =
          (compare e e').then (compare m m') := by
        rw [compare_toLex, compare_natCast]
      have hnegative : compare (toLex (-e, -(m : ℤ))) (toLex (-e', -(m' : ℤ))) =
          ((compare e e').then (compare m m')).swap := by
        rw [compare_toLex, compare_neg_neg, compare_neg_neg, compare_natCast, Ordering.swap_then]
      have hsame : ∀ (s : ℤ) (b b' : ℤ ×ₗ ℤ),
          compare (toLex (s, b)) (toLex (s, b')) = compare b b' := by
        intro s b b'
        rw [compare_toLex, compare_eq_iff_eq.mpr rfl]
        rfl
      cases sign <;> cases sign'
      · exact congrArg some ((hsame (-1) _ _).trans hnegative).symm
      · rfl
      · rfl
      · exact congrArg some ((hsame 1 _ _).trans hpositive).symm

/-! ## Comparisons of doubles -/

section

variable {x y : Float} (hx : x.isNaN = false) (hy : y.isNaN = false)

include hx hy

lemma lt_iff_rank : x < y ↔ rank x < rank y := by
  have hlt : x < y ↔ (x.toModel.unpack.compare y.toModel.unpack == some .lt) = true :=
    decide_eq_true_iff
  rw [hlt, beq_iff_eq, compare_eq_place hx hy, Option.some_inj, compare_lt_iff_lt]
  rfl

lemma le_iff_rank : x ≤ y ↔ rank x ≤ rank y := by
  have hle : x ≤ y ↔ (x.toModel.unpack.compare y.toModel.unpack).any (·.isLE) = true :=
    decide_eq_true_iff
  rw [hle, compare_eq_place hx hy, Option.any_some, Ordering.isLE_iff_ne_gt]
  exact compare_le_iff_le

/-- Doubles are equal, with no difference made between the zeros, if they share a place. -/
lemma beq_iff_rank : (x == y) = true ↔ rank x = rank y := by
  have hbeq : (x == y) = (x.toModel.unpack.compare y.toModel.unpack == some .eq) := rfl
  rw [hbeq, beq_iff_eq, compare_eq_place hx hy, Option.some_inj, compare_eq_iff_eq]
  rfl

end

end TableFormula.Number
