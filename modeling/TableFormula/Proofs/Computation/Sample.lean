import TableFormula.Proofs.Computation.Columns

/-!
# Suggested types and computed columns

A type is suggested for a formula by its values in a sample of rows, which are computed for this
purpose alone.  This module says that the sample is all that counts, and what its values are.

* **The sample.**  The rows after it are not looked at, so they may as well be left out; once they
  are, it does not matter either how many more rows are asked for.
* **Its values.**  The rows of a sample are evaluated where the table is not known, those of a
  column where it is.  Without totals that is the same, so the type is the one of the first values
  of the column.  Values for which no type can be suggested have none on either way, for the same
  cause.
-/

namespace TableFormula

open Formula Text

/-! ## Samples -/

lemma leading_natCast {α : Type} (n : Nat) (items : List α) : leading n items = items.take n := by
  rw [leading, if_pos (Int.natCast_nonneg n), Int.toNat_natCast]

/-- Items of which there are no more than asked for are all leading ones. -/
lemma leading_eq_self {α : Type} {n : Int} {items : List α} (h : (items.length : Int) ≤ n) :
    leading n items = items := by
  have hn : 0 ≤ n := Int.le_trans (Int.natCast_nonneg items.length) h
  rw [leading, if_pos hn, List.take_of_length_le]
  omega

lemma sampleSize_natCast {k : Nat} (hk : 1 ≤ k) : sampleSize (some k) = k := by
  obtain ⟨n, rfl⟩ := Nat.exists_eq_add_of_le' hk
  rfl

namespace Engine

variable (engine : Engine) (source : String)

/-- A suggested type depends on the sample, and on whether there are rows at all. -/
lemma inferType_congr (columns : GivenColumns) {rows rows' : List Row} {asked asked' : Option Int}
    (hempty : rows.isEmpty = rows'.isEmpty)
    (hsample : leading (sampleSize asked) rows = leading (sampleSize asked') rows') :
    engine.inferType source columns rows asked = engine.inferType source columns rows' asked' := by
  rw [inferType, inferType, hempty, hsample]

variable (columns : List Column) (rows : List Row) {k : Nat}

/-- The type of a formula is the one of its values in the sample. -/
lemma inferType_eq_ofValues (hk : 1 ≤ k) {f : Formula} (h : parse source = .ok f) :
    engine.inferType source (.ok columns) rows (some k) =
      (ColumnType.ofValues engine.clock.everyday
        ((rows.take k).map (engine.valueAt columns none f))).mapError .value := by
  by_cases hrows : rows = []
  · subst hrows
    rw [List.take_nil]
    rfl
  · rw [engine.inferType_eq source columns rows hrows h, sampleSize_natCast hk, leading_natCast]

/-- **Types of samples.**  The type that is suggested by the first rows of a table, at least one, is
the one that is suggested for these rows alone, however many more are asked for.  For a formula
without totals it is the type of the first values of its column, and there is none exactly where
these values have none. -/
theorem inferType_eq_of_sample (hk : 1 ≤ k) :
    (∀ asked, (k : Int) ≤ sampleSize asked →
      engine.inferType source (.ok columns) rows (some k) =
        engine.inferType source (.ok columns) (rows.take k) asked) ∧
    ∀ f, parse source = .ok f → f.isTotalFree = true →
      ∃ column, engine.columnOf source columns rows = .ok column ∧
        engine.inferType source (.ok columns) rows (some k) =
          (ColumnType.ofValues engine.clock.everyday (column.values.take k)).mapError .value := by
  refine ⟨?_, ?_⟩
  · intro asked hasked
    have hempty : rows.isEmpty = (rows.take k).isEmpty := by
      obtain ⟨n, rfl⟩ := Nat.exists_eq_add_of_le' hk
      cases rows <;> rfl
    have hlength : (rows.take k).length ≤ k := List.length_take_le k rows
    have hsample : leading (sampleSize asked) (rows.take k) = rows.take k :=
      leading_eq_self (by omega)
    refine engine.inferType_congr source (.ok columns) hempty ?_
    rw [sampleSize_natCast hk, leading_natCast, hsample]
  · intro f h hf
    refine ⟨_, engine.columnOf_eq_of_isTotalFree columns rows h hf, ?_⟩
    rw [engine.inferType_eq_ofValues source columns rows hk h, List.map_take]

/-- Rows of which only the last one has no number above one. -/
def largeNumbersFirst : List Row :=
  [[("a", .integer 2)], [("a", .float 3.5)], [("a", .integer 0)]]

theorem inferType_largeNumbersFirst :
    1 ≤ 2 ∧ (2 : Int) ≤ sampleSize none ∧
    onDay.inferType "IF([a] > 1, [a], 'none')" (.ok smallTable.1) largeNumbersFirst (some 2) =
      onDay.inferType "IF([a] > 1, [a], 'none')" (.ok smallTable.1) (largeNumbersFirst.take 2)
        none ∧
    ∃ f, parse "IF([a] > 1, [a], 'none')" = .ok f ∧ f.isTotalFree = true ∧
      ∃ column, onDay.columnOf "IF([a] > 1, [a], 'none')" smallTable.1 largeNumbersFirst =
          .ok column ∧
        onDay.inferType "IF([a] > 1, [a], 'none')" (.ok smallTable.1) largeNumbersFirst (some 2) =
          (ColumnType.ofValues onDay.clock.everyday (column.values.take 2)).mapError .value := by
  have hasked : (2 : Int) ≤ sampleSize none := by decide
  have hk : 1 ≤ 2 := by decide
  obtain ⟨hsample, hcolumn⟩ := onDay.inferType_eq_of_sample "IF([a] > 1, [a], 'none')"
    smallTable.1 largeNumbersFirst hk
  refine ⟨hk, hasked, hsample none hasked, ?_⟩
  have hfree : (parse "IF([a] > 1, [a], 'none')").toOption.map isTotalFree = some true := by
    decide +kernel
  cases h : parse "IF([a] > 1, [a], 'none')" with
  | error fault =>
    rw [h] at hfree
    cases hfree
  | ok f =>
    rw [h] at hfree
    have hf : f.isTotalFree = true := Option.some.inj hfree
    exact ⟨f, rfl, hf, hcolumn f h hf⟩

end Engine

end TableFormula
