import TableFormula.Computation.Basic
import TableFormula.Proofs.Evaluation.Outcome
import TableFormula.Proofs.Value.Numbers

/-!
# Means

The mean of a formula over a table is the sum divided by the number of rows.  It is computed by a
function of its own, and the sum and the number of rows are computed by two others, whose results
are values that the operator reads as numbers again.  Both come to the same double, or both fail: in
an empty table, and as the first row in which the formula has no number (`average_eq_ratio`).

A sum that is not a number is left out: the operator reads it as zero, and the mean does not.
-/

namespace TableFormula

open Number

namespace Formula

/-- The number that a formula has in a row. -/
def numberAt (e : Formula) (c : Context) (row : Row) : Except Fault Float := do
  (← e.eval (c.atRow row)).toNumber

/-- The mean of a formula over the table. -/
def mean (e : Formula) : Formula :=
  call Function.average.name [e]

/-- The sum of a formula over the table, divided by the number of rows. -/
def ratio (e : Formula) : Formula :=
  binary .divide (call Function.sum.name [e]) (call Function.count.name [])

variable {c : Context} {rows : List Row} {e : Formula}

/-- The rule of a total of numbers, for the outcomes of its argument. -/
lemma outcome_total {f : Function} {total : List Float → Except Fault Float}
    (hcall : ∀ es c, f.call es c = Function.totalOf f.name total es c) (htable : c.table = some rows)
    (hroom : c.HasRoom e) : (call f.name [e]).outcome c = (do
      return Value.float (← total (← rows.mapM (e.numberAt c)))) := by
  have hrows : (fun row => do (← e.outcome (c.atRow row)).toNumber) = e.numberAt c := by
    funext row
    have hroom' : (c.atRow row).HasRoom e := hroom
    rw [numberAt, eval_eq_outcome hroom']
  rw [outcome_call_function, hcall, Function.totalOf, htable]
  show (do return Value.float (← total (← rows.mapM fun row => do
    (← e.outcome (c.atRow row)).toNumber))) = _
  rw [hrows]

lemma outcome_mean (htable : c.table = some rows) (hroom : c.HasRoom e) :
    (mean e).outcome c = (do
      return Value.float (← Function.nonempty Function.average.name Function.meanOf
        (← rows.mapM (e.numberAt c)))) :=
  outcome_total (fun _ _ => rfl) htable hroom

lemma outcome_ratio (htable : c.table = some rows) (hroom : c.HasRoom e) :
    (ratio e).outcome c = (do
      let xs ← rows.mapM (e.numberAt c)
      Operator.divide.apply (.float (Function.sumOf xs)) (.integer rows.length)) := by
  have hsum := outcome_total (f := .sum) (fun _ _ => rfl) htable hroom
  have hcount : (call Function.count.name []).outcome c = .ok (.integer rows.length) := by
    rw [outcome_call_function]
    show Function.countRows [] c = _
    rw [Function.countRows, htable]
  rw [ratio, outcome_binary, hsum, hcount]
  cases rows.mapM (e.numberAt c) with
  | error fault => rfl
  | ok xs => rfl

/-! ## The quotient -/

/-- The operator divides a sum by a number of rows as doubles are divided. -/
lemma divide_apply {s : Float} {n : ℕ} (hs : s.isNaN = false) (hpos : 0 < n)
    (hmax : n < 2 ^ 1024 - 2 ^ 970) :
    Operator.divide.apply (.float s) (.integer n) = .ok (.float (s / Float.ofNat n)) := by
  have hsum : (Value.float s).toNumber = .ok s := by
    rw [Value.toNumber, Value.orZero_of_isNaN_eq_false hs]
  have hcount : (Value.integer n).toNumber = .ok (Float.ofNat n) := Value.toNumber_integer hmax
  have hne : (Float.ofNat n == 0.0) = false :=
    (isNearest_ofNat n).beq_zero (by exact_mod_cast hpos)
  rw [Operator.apply, Operator.ofNumbers, hsum, hcount]
  show (Number.divide s (Float.ofNat n)).map Value.float = _
  rw [Number.divide, hne]
  rfl

/-! ## The law -/

lemma eval_call_function (f : Function) (args : List Formula) (c : Context) :
    (call f.name args).eval c = Evaluator.guarded (f.call (args.map eval)) c := by
  rw [eval, evalAll_eq_map]
  show Evaluator.guarded (fun c => Evaluator.ofCall f.name (args.map eval) c) c = _
  rw [Evaluator.ofCall, Function.ofName?_name]

/-- In an empty table there is no mean. -/
lemma exists_eval_mean_eq_error (htable : c.table = some []) :
    ∃ fault, (mean e).eval c = .error fault := by
  rw [mean, eval_call_function, Evaluator.guarded]
  split
  · exact ⟨_, rfl⟩
  · refine ⟨.noRows Function.average.name, ?_⟩
    show Function.totalOf Function.average.name (Function.nonempty Function.average.name
      Function.meanOf) [e.eval] c.deeper = _
    rw [Function.totalOf, show c.deeper.table = some [] from htable]
    rfl

/-- In an empty table there are no rows to divide by. -/
lemma exists_eval_ratio_eq_error (htable : c.table = some []) :
    ∃ fault, (ratio e).eval c = .error fault := by
  rw [ratio, eval, Evaluator.guarded]
  split
  · exact ⟨_, rfl⟩
  rw [Evaluator.ofBinary, eval_call_function, eval_call_function, Evaluator.guarded,
    Evaluator.guarded]
  split
  · exact ⟨_, rfl⟩
  · refine ⟨.divisionByZero, ?_⟩
    have hsum : Function.sum.call [e.eval] c.deeper.deeper = .ok (.float 0.0) := by
      show Function.totalOf Function.sum.name (fun xs => .ok (Function.sumOf xs)) [e.eval]
        c.deeper.deeper = _
      rw [Function.totalOf, show c.deeper.deeper.table = some [] from htable]
      rfl
    have hcount : Function.count.call [] c.deeper.deeper = .ok (.integer 0) := by
      show Function.countRows [] c.deeper.deeper = _
      rw [Function.countRows, show c.deeper.deeper.table = some [] from htable]
      rfl
    rw [List.map_cons, List.map_nil, hsum, hcount]
    rfl

/-- **The mean** of a formula over a table and the quotient of its sum by the number of rows come to
the same.  In an empty table both fail, and a computation leaves them blank.  If the formula has no
number in some row, both fail as it does in the first such row.  Otherwise both are the same double,
unless the sum of the numbers, from the first row to the last, is NaN.  That the number of rows has
to be in the range of doubles is no restriction on tables: there is no memory for others. -/
theorem average_eq_ratio (e : Formula) {c : Context} {rows : List Row} (htable : c.table = some rows)
    (hroom : c.HasRoom (ratio e)) :
    (rows = [] →
      (∃ fault, (mean e).eval c = .error fault) ∧ (∃ fault, (ratio e).eval c = .error fault) ∧
      ∀ (engine : Engine) (columns : List Column) (row : Row) (index : Option ℕ),
        (engine.evaluate columns (some rows) (mean e) row index).result = .blank ∧
        (engine.evaluate columns (some rows) (ratio e) row index).result = .blank) ∧
    (∀ row ∈ rows, (∀ x, e.numberAt c row ≠ .ok x) →
      ∃ before first after fault, rows = before ++ first :: after ∧
        (∀ r ∈ before, ∃ x, e.numberAt c r = .ok x) ∧ e.numberAt c first = .error fault ∧
        (mean e).eval c = .error fault ∧ (ratio e).eval c = .error fault) ∧
    (∀ xs, List.Forall₂ (fun row x => e.numberAt c row = .ok x) rows xs → rows ≠ [] →
      rows.length < 2 ^ 1024 - 2 ^ 970 → (Function.sumOf xs).isNaN = false →
      ∃ x, (mean e).eval c = .ok (.float x) ∧ (ratio e).eval c = .ok (.float x)) := by
  have hmean : (mean e).height ≤ (ratio e).height := by
    simp only [mean, ratio, height, heightAll]
    omega
  have hformula : e.height ≤ (mean e).height := by
    simp only [mean, height, heightAll]
    omega
  have hroom' : c.HasRoom e := (hroom.of_le hmean).of_le hformula
  refine ⟨?_, ?_, ?_⟩
  · rintro rfl
    refine ⟨exists_eval_mean_eq_error htable, exists_eval_ratio_eq_error htable,
      fun engine columns row index => ?_⟩
    constructor
    · obtain ⟨fault, hfault⟩ := exists_eval_mean_eq_error (e := e)
        (c := .top engine.clock (depthLimit none) columns (some []) row) rfl
      rw [Engine.evaluate, hfault]
      rfl
    · obtain ⟨fault, hfault⟩ := exists_eval_ratio_eq_error (e := e)
        (c := .top engine.clock (depthLimit none) columns (some []) row) rfl
      rw [Engine.evaluate, hfault]
      rfl
  · intro row hrow hfails
    obtain hall | ⟨before, first, after, fault, rfl, hbefore, hfirst⟩ :=
      forall_ok_or_exists_first_error (e.numberAt c) rows
    · obtain ⟨x, hx⟩ := hall row hrow
      exact absurd hx (hfails x)
    have hrows : (before ++ first :: after).mapM (e.numberAt c) = .error fault :=
      mapM_eq_error_of_prefix hbefore hfirst
    refine ⟨before, first, after, fault, rfl, hbefore, hfirst, ?_, ?_⟩
    · rw [eval_eq_outcome (hroom.of_le hmean), outcome_mean htable hroom', hrows]
      rfl
    · rw [eval_eq_outcome hroom, outcome_ratio htable hroom', hrows]
      rfl
  · intro xs hxs hne hmax hsum
    have hrows := mapM_eq_ok_of_forall₂ hxs
    have hlength := hxs.length_eq
    refine ⟨Function.sumOf xs / Float.ofNat rows.length, ?_, ?_⟩
    · rw [eval_eq_outcome (hroom.of_le hmean), outcome_mean htable hroom', hrows]
      cases hxs with
      | nil => exact absurd rfl hne
      | @cons row x rows xs =>
        rw [hlength]
        rfl
    · rw [eval_eq_outcome hroom, outcome_ratio htable hroom', hrows]
      exact divide_apply hsum (List.length_pos_of_ne_nil hne) hmax

/-- A table of two rows, with a number and a text of a number. -/
def twoRows : Context :=
  { Context.plain 3 with
    columns := [⟨"cost", "Cost", .number⟩]
    table := some [[("cost", .integer 1)], [("cost", .text "$2.50")]] }

/-- The mean of a number and a text of a number. -/
theorem average_eq_ratio_two_rows :
    ∃ x, (mean (column "cost")).eval twoRows = .ok (.float x) ∧
      (ratio (column "cost")).eval twoRows = .ok (.float x) := by
  have htable : twoRows.table = some [[("cost", .integer 1)], [("cost", .text "$2.50")]] := rfl
  have hlaw := average_eq_ratio (column "cost") htable (by decide)
  refine hlaw.2.2 [Float.ofInt 1, Value.numberOfText "$2.50".toList] ?_ (List.cons_ne_nil _ _)
    (by decide +kernel) rfl
  exact .cons rfl (.cons rfl .nil)

end Formula

end TableFormula
