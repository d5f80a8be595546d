import Mathlib.Data.Set.Card
import TableFormula.Column.Inference
import TableFormula.Proofs.Computation.RowOrder
import TableFormula.Proofs.Evaluation.Relevance
import TableFormula.Proofs.Evaluation.Totals

/-!
# Counts over joined tables

A count is the number of rows in which a formula is not empty, and a count of distinct values is the
number of texts that it has.  A formula without totals has the same value in a row whatever table the
row stands in; so the rows of two tables are counted one after the other, and of the texts only the
shared ones are counted once less (`count_laws`).  A value without a text has no place in such a
count, which then fails.
-/

namespace TableFormula

/-! ## Members of a list, each once -/

lemma length_eraseDups_le {α : Type} [DecidableEq α] (as : List α) :
    as.eraseDups.length ≤ as.length :=
  ((nodup_eraseDups as).subperm fun _ => List.mem_eraseDups.mp).length_le

lemma length_eraseDups_pos {α : Type} [DecidableEq α] {as : List α} (hne : as ≠ []) :
    1 ≤ as.eraseDups.length := by
  obtain ⟨a, as, rfl⟩ := List.exists_cons_of_ne_nil hne
  rw [List.eraseDups_cons]
  exact Nat.succ_le_succ (Nat.zero_le _)

/-- To keep what is not empty is to leave a blank exactly in place of what is empty. -/
lemma Value.isBlank_filled (v : Value) :
    (if v.isEmpty then Value.blank else v).isBlank = v.isEmpty := by
  cases hempty : v.isEmpty with
  | true => rfl
  | false =>
    cases v with
    | blank => cases hempty
    | _ => rfl

namespace Formula

variable {e : Formula} {c : Context} {rows rows' : List Row} {vs : List Value}

/-- The number of rows in which a formula is not empty. -/
def count (e : Formula) : Formula :=
  call Function.count.name [e]

/-- The number of rows. -/
def countAll : Formula :=
  call Function.count.name []

/-- The number of texts that a formula has. -/
def distinct (e : Formula) : Formula :=
  call Function.distinct.name [e]

/-- The value of a formula, or blank in place of an empty one. -/
def coalesce (e : Formula) : Formula :=
  call Function.coalesce.name [e]

/-! ## Texts in rows -/

/-- A formula has a value in a context, and this value has a text. -/
def HasText (e : Formula) (c : Context) : Prop :=
  ∃ v, e.eval c = .ok v ∧ v.hasText = true

/-- The texts that a formula has in some rows. -/
def texts (e : Formula) (c : Context) (rows : List Row) : Set String :=
  {t | ∃ row ∈ rows, ∃ v, e.eval (c.atRow row) = .ok v ∧ v.toText = .ok t}

lemma texts_append : e.texts c (rows ++ rows') = e.texts c rows ∪ e.texts c rows' := by
  ext t
  simp only [texts, List.mem_append, or_and_right, exists_or, Set.mem_ofPred_eq, Set.mem_union]

/-- Values with texts are those of a formula that has texts in the rows. -/
lemma ValuesIn.hasText_iff (h : e.ValuesIn c rows vs) :
    (∀ row ∈ rows, e.HasText (c.atRow row)) ↔ ∀ v ∈ vs, v.hasText = true := by
  induction h with
  | nil => simp
  | @cons row v rows vs hv _ ih =>
    have hhead : e.HasText (c.atRow row) ↔ v.hasText = true := by
      simp [HasText, hv]
    rw [List.forall_mem_cons, List.forall_mem_cons, hhead, ih]

lemma ValuesIn.texts_eq (h : e.ValuesIn c rows vs) (hvs : ∀ v ∈ vs, v.hasText = true) :
    e.texts c rows = {t | t ∈ vs.map Value.shown} := by
  induction h with
  | nil => simp [texts]
  | @cons row v rows vs hv _ ih =>
    obtain ⟨hhead, hvs⟩ := List.forall_mem_cons.mp hvs
    have hshown : e.texts c [row] = {v.shown} := by
      ext t
      simp [texts, hv, Value.toText_of_hasText hhead, eq_comm]
    rw [← List.singleton_append, texts_append, hshown, ih hvs]
    ext t
    simp

lemma ValuesIn.finite_texts (h : e.ValuesIn c rows vs) (hvs : ∀ v ∈ vs, v.hasText = true) :
    (e.texts c rows).Finite :=
  h.texts_eq hvs ▸ List.finite_toSet _

lemma ValuesIn.ncard_texts (h : e.ValuesIn c rows vs) (hvs : ∀ v ∈ vs, v.hasText = true) :
    (e.texts c rows).ncard = (vs.map Value.shown).eraseDups.length := by
  have hsame : (vs.map Value.shown).eraseDups.toFinset = (vs.map Value.shown).toFinset := by
    ext t
    rw [List.mem_toFinset, List.mem_toFinset, List.mem_eraseDups]
  rw [h.texts_eq hvs, ← List.coe_toFinset, Set.ncard_coe_finset, ← hsame,
    List.toFinset_card_of_nodup (nodup_eraseDups _)]

/-! ## Formulas without totals -/

section

variable (hfree : e.isTotalFree = true) (table : List Row)

include hfree

/-- Without totals a formula has the same value in a row over every table. -/
lemma eval_over (row : Row) :
    e.eval ((c.over table).deeper.atRow row) = e.eval (c.deeper.atRow row) :=
  eval_eq_of_isTotalFree hfree (c.deeper.atRow row) (some table)

lemma ValuesIn.over (h : e.ValuesIn c.deeper rows vs) :
    e.ValuesIn (c.over table).deeper rows vs :=
  h.imp fun row _ hv => (eval_over hfree table row).trans hv

end

/-! ## Counts -/

section

variable (hlevel : c.depth + 1 ≤ c.limit)

include hlevel

lemma eval_count_over (hfree : e.isTotalFree = true) (hvs : e.ValuesIn c.deeper rows vs) :
    (count e).eval (c.over rows) = .ok (.integer (vs.countP (!·.isEmpty))) :=
  eval_count hlevel rfl (hvs.over hfree rows)

/-- Distinct values are told apart by their texts. -/
lemma eval_distinct_over (hfree : e.isTotalFree = true) (hvs : e.ValuesIn c.deeper rows vs)
    (htexts : ∀ row ∈ rows, e.HasText (c.deeper.atRow row)) :
    (distinct e).eval (c.over rows) = .ok (.integer (e.texts c.deeper rows).ncard) := by
  have hall := hvs.hasText_iff.mp htexts
  have hcount := eval_distinct (c := c.over rows) hlevel rfl (hvs.over hfree rows)
  rw [mapM_toText hall] at hcount
  rw [hvs.ncard_texts hall]
  exact hcount

/-- Without a text for every value nothing is told apart. -/
lemma eval_distinct_of_textless (hfree : e.isTotalFree = true) (hvs : e.ValuesIn c.deeper rows vs)
    (htexts : ¬ ∀ row ∈ rows, e.HasText (c.deeper.atRow row)) :
    (distinct e).eval (c.over rows) = .error (.noValue .digits) := by
  have htextless : ∃ v ∈ vs, v.hasText = false := by
    simpa [hvs.hasText_iff] using htexts
  have hcount := eval_distinct (c := c.over rows) hlevel rfl (hvs.over hfree rows)
  rw [mapM_toText_of_textless htextless] at hcount
  exact hcount

lemma eval_coalesce {v : Value} (hv : e.eval c.deeper = .ok v) :
    (coalesce e).eval c = .ok (if v.isEmpty then .blank else v) := by
  rw [coalesce, eval_call_of_level hlevel]
  show Function.firstFilled [e.eval] c.deeper = _
  simp only [Function.firstFilled, hv, bind, Except.bind]
  split <;> rfl

end

/-- A count of distinct values is not above the number of rows, and not zero if there are rows. -/
lemma exists_of_eval_distinct {v : Value} (h : (distinct e).eval c = .ok v) :
    ∃ d k : ℕ, v = .integer d ∧ countAll.eval c = .ok (.integer k) ∧ d ≤ k ∧
      (c.table ≠ some [] → 1 ≤ d) := by
  have hlevel : c.depth + 1 ≤ c.limit := depth_lt_of_eval_eq_ok h
  rw [distinct, eval_call_of_level hlevel] at h
  have htexts : Function.countTexts Function.distinct.name [e.eval] c.deeper = .ok v := h
  rw [Function.countTexts] at htexts
  cases htable : c.table with
  | none =>
    have hnone : c.deeper.table = none := htable
    have hcount : countAll.eval c = .ok (.integer 1) := by
      rw [countAll, eval_call_of_level hlevel]
      show Function.countRows [] c.deeper = _
      rw [Function.countRows, hnone]
    rw [hnone] at htexts
    cases htexts
    exact ⟨1, 1, rfl, hcount, le_rfl, fun _ => le_rfl⟩
  | some rows =>
    rw [show c.deeper.table = some rows from htable] at htexts
    obtain ⟨_, hfirst, htexts⟩ := exists_of_bind_eq_ok htexts
    cases hfirst
    obtain ⟨ts, hts, hv⟩ := exists_of_bind_eq_ok htexts
    cases hv
    have hlength : rows.length = ts.length := (forall₂_of_mapM hts).length_eq
    refine ⟨_, _, rfl, eval_count_nil hlevel htable, hlength ▸ length_eraseDups_le ts, fun hne => ?_⟩
    refine length_eraseDups_pos fun hnil => hne ?_
    rw [List.length_eq_zero_iff.mp (hlength.trans (hnil ▸ rfl))]

/-- **Counts.**  Let a formula without totals have a value in every row of two tables, at the level
where the counts evaluate it.  Over the joined table its filled rows are those of the one table and
those of the other; its texts too, but the shared ones are counted once.  Over a table of these rows
distinct values are counted by their texts if all values have one, and otherwise the count fails.
The filled rows are those where the first filled value is not blank.  Whatever the formula, a count
of its distinct values is not above the number of rows, and at least one unless the table is empty. -/
theorem count_laws (e : Formula) (c : Context) {rows rows' : List Row}
    (hfree : e.isTotalFree = true) (hlevel : c.depth + 1 ≤ c.limit)
    (hvalue : ∀ row ∈ rows ++ rows', e.HasValue (c.deeper.atRow row)) :
    (∃ n n' : ℕ,
      (count e).eval (c.over rows) = .ok (.integer n) ∧
      (count e).eval (c.over rows') = .ok (.integer n') ∧
      (count e).eval (c.over (rows ++ rows')) = .ok (.integer (n + n'))) ∧
    ((∀ row ∈ rows ++ rows', e.HasText (c.deeper.atRow row)) → ∃ d d' : ℕ,
      (distinct e).eval (c.over rows) = .ok (.integer d) ∧
      (distinct e).eval (c.over rows') = .ok (.integer d') ∧
      (distinct e).eval (c.over (rows ++ rows')) =
        .ok (.integer (d + d' - (e.texts c.deeper rows ∩ e.texts c.deeper rows').ncard))) ∧
    (∀ table : List Row, (∀ row ∈ table, row ∈ rows ++ rows') →
      ((∀ row ∈ table, e.HasText (c.deeper.atRow row)) →
        (distinct e).eval (c.over table) = .ok (.integer (e.texts c.deeper table).ncard)) ∧
      ((¬ ∀ row ∈ table, e.HasText (c.deeper.atRow row)) →
        (distinct e).eval (c.over table) = .error (.noValue .digits))) ∧
    (∃ filled, (coalesce e).ValuesIn (c.over rows) rows filled ∧
      (count e).eval (c.over rows) = .ok (.integer (filled.countP (!·.isBlank)))) ∧
    ∀ (f : Formula) (c : Context) (v : Value), (distinct f).eval c = .ok v →
      ∃ d k : ℕ, v = .integer d ∧ countAll.eval c = .ok (.integer k) ∧ d ≤ k ∧
        (c.table ≠ some [] → 1 ≤ d) := by
  obtain ⟨vs, hvs⟩ := exists_valuesIn fun row hrow => hvalue row (List.mem_append_left _ hrow)
  obtain ⟨vs', hvs'⟩ := exists_valuesIn fun row hrow => hvalue row (List.mem_append_right _ hrow)
  have hjoined := hvs.append hvs'
  refine ⟨?_, ?_, ?_, ?_, fun f c v => exists_of_eval_distinct⟩
  · refine ⟨_, _, eval_count_over hlevel hfree hvs, eval_count_over hlevel hfree hvs', ?_⟩
    rw [eval_count_over hlevel hfree hjoined, List.countP_append, Nat.cast_add]
  · intro htexts
    have hleft : ∀ row ∈ rows, e.HasText (c.deeper.atRow row) :=
      fun row hrow => htexts row (List.mem_append_left _ hrow)
    have hright : ∀ row ∈ rows', e.HasText (c.deeper.atRow row) :=
      fun row hrow => htexts row (List.mem_append_right _ hrow)
    refine ⟨_, _, eval_distinct_over hlevel hfree hvs hleft,
      eval_distinct_over hlevel hfree hvs' hright, ?_⟩
    have hcard := Set.ncard_union_add_ncard_inter (e.texts c.deeper rows) (e.texts c.deeper rows')
      (hvs.finite_texts (hvs.hasText_iff.mp hleft)) (hvs'.finite_texts (hvs'.hasText_iff.mp hright))
    rw [eval_distinct_over hlevel hfree hjoined htexts, texts_append, ← Nat.cast_add, ← hcard,
      Nat.cast_add, add_sub_cancel_right]
  · intro table htable
    obtain ⟨ws, hws⟩ := exists_valuesIn fun row hrow => hvalue row (htable row hrow)
    exact ⟨eval_distinct_over hlevel hfree hws, eval_distinct_of_textless hlevel hfree hws⟩
  · refine ⟨vs.map fun v => if v.isEmpty then .blank else v, ?_, ?_⟩
    · refine List.forall₂_map_right_iff.mpr (hvs.imp fun row v hv => ?_)
      have hv' : e.eval ((c.over rows).atRow row).deeper = .ok v :=
        (eval_over hfree rows row).trans hv
      exact eval_coalesce (c := (c.over rows).atRow row) hlevel hv'
    · rw [eval_count_over hlevel hfree hvs, List.countP_map]
      refine congrArg _ (congrArg _ (congrArg _ (List.countP_congr fun v _ => ?_)))
      rw [Function.comp_apply, Value.isBlank_filled]

/-- The number three in two spellings, and an empty text. -/
def numberRows : List Row :=
  costRows [.integer 3, .text "", .float 3.0]

/-- A third spelling of three, a blank cell, and a word. -/
def textRows : List Row :=
  costRows [.text "3", .blank, .text "x"]

theorem count_laws_spellings :
    (∃ n n' : ℕ,
      (count (column "cost")).eval ((costs 2).over numberRows) = .ok (.integer n) ∧
      (count (column "cost")).eval ((costs 2).over textRows) = .ok (.integer n') ∧
      (count (column "cost")).eval ((costs 2).over (numberRows ++ textRows)) =
        .ok (.integer (n + n'))) ∧
    (∃ d d' : ℕ,
      (distinct (column "cost")).eval ((costs 2).over numberRows) = .ok (.integer d) ∧
      (distinct (column "cost")).eval ((costs 2).over textRows) = .ok (.integer d') ∧
      (distinct (column "cost")).eval ((costs 2).over (numberRows ++ textRows)) =
        .ok (.integer (d + d' - ((column "cost").texts (costs 2).deeper numberRows ∩
          (column "cost").texts (costs 2).deeper textRows).ncard))) ∧
    (∃ filled, (coalesce (column "cost")).ValuesIn ((costs 2).over numberRows) numberRows filled ∧
      (count (column "cost")).eval ((costs 2).over numberRows) =
        .ok (.integer (filled.countP (!·.isBlank)))) := by
  have hvalue : ∀ row ∈ numberRows ++ textRows,
      (column "cost").HasValue ((costs 2).deeper.atRow row) :=
    fun row _ => ⟨row.get "cost", rfl⟩
  have htexts : ∀ row ∈ numberRows ++ textRows,
      (column "cost").HasText ((costs 2).deeper.atRow row) := by
    have hrows : ∀ row ∈ numberRows ++ textRows, (row.get "cost").hasText = true := by decide
    exact fun row hrow => ⟨row.get "cost", rfl, hrows row hrow⟩
  obtain ⟨hcount, hdistinct, -, hcoalesce, -⟩ :=
    count_laws (column "cost") (costs 2) rfl (by decide) hvalue
  exact ⟨hcount, hdistinct htexts, hcoalesce⟩

end Formula

end TableFormula
