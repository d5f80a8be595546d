import Mathlib.Tactic.Common
import TableFormula.Text.Blank

/-!
# Printed characters

The printed characters of ASCII are no blanks.  So words that are written in them are kept together
by the scanner, and a text of them has no ends to trim.
-/

namespace TableFormula

open Text

/-- The printed characters of ASCII. -/
def Printed (c : Char) : Prop :=
  0x21 ≤ c.toNat ∧ c.toNat ≤ 0x7E

instance : DecidablePred Printed :=
  fun c => inferInstanceAs (Decidable (0x21 ≤ c.toNat ∧ c.toNat ≤ 0x7E))

lemma Printed.isBlank_eq_false {c : Char} (h : Printed c) : isBlank c = false := by
  obtain ⟨hlow, hhigh⟩ := h
  simp [isBlank, within, blankRanges]
  omega

lemma toNat_of_isDigit {c : Char} (h : c.isDigit = true) : 48 ≤ c.toNat ∧ c.toNat ≤ 57 := by
  have hdigit : c.isDigit = (decide ('0'.val ≤ c.val) && decide (c.val ≤ '9'.val)) := rfl
  rw [hdigit, Bool.and_eq_true, decide_eq_true_eq, decide_eq_true_eq, UInt32.le_iff_toNat_le,
    UInt32.le_iff_toNat_le] at h
  exact h

lemma isAlpha_eq (c : Char) :
    c.isAlpha = (decide ('A'.val ≤ c.val ∧ c.val ≤ 'Z'.val) ||
      (decide ('a'.val ≤ c.val) && decide (c.val ≤ 'z'.val))) :=
  rfl

lemma toNat_of_isAlpha {c : Char} (h : c.isAlpha = true) :
    65 ≤ c.toNat ∧ c.toNat ≤ 90 ∨ 97 ≤ c.toNat ∧ c.toNat ≤ 122 := by
  simp only [isAlpha_eq, Bool.or_eq_true, Bool.and_eq_true, decide_eq_true_eq,
    UInt32.le_iff_toNat_le] at h
  exact h

lemma printed_of_isDigit {c : Char} (h : c.isDigit = true) : Printed c := by
  obtain ⟨hlow, hhigh⟩ := toNat_of_isDigit h
  exact ⟨Nat.le_trans (by decide) hlow, Nat.le_trans hhigh (by decide)⟩

/-- A text without blanks is trimmed already. -/
lemma Text.trim_eq_self {cs : List Char} (h : ∀ c ∈ cs, isBlank c = false) : trim cs = cs := by
  have hstart : ∀ cs : List Char, (∀ c ∈ cs, isBlank c = false) → trimStart cs = cs := by
    intro cs h
    cases cs with
    | nil => rfl
    | cons c cs =>
      have hc : ¬ isBlank c = true := by simp [h c List.mem_cons_self]
      exact List.dropWhile_cons_of_neg hc
  have hreverse : ∀ c ∈ cs.reverse, isBlank c = false := fun c hc => h c (List.mem_reverse.mp hc)
  rw [trim, hstart cs h, hstart _ hreverse, List.reverse_reverse]

end TableFormula
