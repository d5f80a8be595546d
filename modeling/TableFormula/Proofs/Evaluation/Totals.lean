import TableFormula.Proofs.Evaluation.Equality
import TableFormula.Proofs.Evaluation.Means

/-!
# What totals come to

A total over a table looks at its argument in every row, one level further down than the call.
Where the argument has a value in each of these rows, the total is made of the list of the values:
`ValuesIn` and `NumbersIn` say what the list is, and one lemma a total what it makes of the list.  If
the argument is evaluated at all, then there is a level for the call; only over an empty table this
has to be asked for.
-/

namespace TableFormula

/-- The same context over another table. -/
def Context.over (c : Context) (rows : List Row) : Context :=
  { c with table := some rows }

namespace Formula

variable {e : Formula} {c : Context} {rows rows' : List Row} {vs vs' : List Value} {xs : List Float}

/-! ## Values in rows -/

/-- The values of a formula in some rows, one by one. -/
def ValuesIn (e : Formula) (c : Context) (rows : List Row) (vs : List Value) : Prop :=
  List.Forall₂ (fun row v => e.eval (c.atRow row) = .ok v) rows vs

/-- The numbers that a formula has in some rows, one by one. -/
def NumbersIn (e : Formula) (c : Context) (rows : List Row) (xs : List Float) : Prop :=
  List.Forall₂ (fun row x => e.numberAt c row = .ok x) rows xs

lemma exists_valuesIn (h : ∀ row ∈ rows, e.HasValue (c.atRow row)) : ∃ vs, e.ValuesIn c rows vs := by
  obtain ⟨vs, hvs, -⟩ := exists_mapM_eq_ok (f := fun row => e.eval (c.atRow row)) h
  exact ⟨vs, forall₂_of_mapM hvs⟩

lemma ValuesIn.append (h : e.ValuesIn c rows vs) (h' : e.ValuesIn c rows' vs') :
    e.ValuesIn c (rows ++ rows') (vs ++ vs') :=
  List.rel_append h h'

/-- What is read of values in rows is read of the list of them. -/
lemma ValuesIn.overRows {α : Type} (h : e.ValuesIn c rows vs) (read : Value → Except Fault α) :
    e.eval.overRows read rows c = vs.mapM read := by
  induction h with
  | nil => rfl
  | cons hv _ ih =>
    rw [Evaluator.overRows] at ih ⊢
    rw [List.mapM_cons, List.mapM_cons, ih, hv]
    rfl

lemma isNaN_eq_false_of_numberAt {row : Row} {x : Float} (h : e.numberAt c row = .ok x) :
    x.isNaN = false := by
  obtain ⟨v, -, hv⟩ := exists_of_bind_eq_ok h
  exact Value.isNaN_eq_false_of_toNumber hv

lemma NumbersIn.isNaN_eq_false (h : e.NumbersIn c rows xs) : ∀ x ∈ xs, x.isNaN = false := by
  induction h with
  | nil => exact List.forall_mem_nil _
  | cons hx _ ih => exact List.forall_mem_cons.mpr ⟨isNaN_eq_false_of_numberAt hx, ih⟩

lemma NumbersIn.ne_nil (h : e.NumbersIn c rows xs) (hne : rows ≠ []) : xs ≠ [] := by
  cases h with
  | nil => exact absurd rfl hne
  | cons => exact List.cons_ne_nil _ _

/-- If a formula has a number in the first row, then it is evaluated within the limit. -/
lemma NumbersIn.level (h : e.NumbersIn c.deeper rows xs) (hne : rows ≠ []) :
    c.depth + 1 ≤ c.limit := by
  cases h with
  | nil => exact absurd rfl hne
  | @cons row x rows xs hx _ =>
    obtain ⟨v, hv, -⟩ := exists_of_bind_eq_ok hx
    have hlevel : ((c.depth + 1 : ℕ) : ℤ) + 1 ≤ c.limit := depth_lt_of_eval_eq_ok hv
    omega

/-! ## Totals -/

lemma eval_call_of_level (hlevel : c.depth + 1 ≤ c.limit) (f : Function) (args : List Formula) :
    (call f.name args).eval c = f.call (args.map eval) c.deeper := by
  rw [eval_call_function, Evaluator.guarded_of_le hlevel]

/-- A total of numbers is made of the numbers in the rows. -/
lemma eval_total {f : Function} {total : List Float → Except Fault Float}
    (hcall : ∀ es c, f.call es c = Function.totalOf f.name total es c)
    (hlevel : c.depth + 1 ≤ c.limit) (htable : c.table = some rows)
    (hxs : e.NumbersIn c.deeper rows xs) :
    (call f.name [e]).eval c = (total xs).map .float := by
  have hrows : e.eval.overRows Value.toNumber rows c.deeper = .ok xs := mapM_eq_ok_of_forall₂ hxs
  rw [eval_call_of_level hlevel, hcall]
  simp only [List.map_cons, Function.totalOf, Function.firstArgument,
    show c.deeper.table = some rows from htable, bind, Except.bind, hrows]
  cases total xs with
  | error fault => rfl
  | ok x => rfl

/-- The number of rows with a value that is not empty. -/
lemma eval_count (hlevel : c.depth + 1 ≤ c.limit) (htable : c.table = some rows)
    (hvs : e.ValuesIn c.deeper rows vs) :
    (call Function.count.name [e]).eval c = .ok (.integer (vs.countP (!·.isEmpty))) := by
  have hrows : e.eval.overRows .ok rows c.deeper = .ok vs := by
    rw [hvs.overRows]
    exact mapM_eq_ok_of_forall₂ (List.forall₂_same.mpr fun v _ => rfl)
  rw [eval_call_of_level hlevel]
  show Function.countRows [e.eval] c.deeper = _
  simp only [Function.countRows, show c.deeper.table = some rows from htable, bind, Except.bind,
    hrows]
  rfl

/-- The number of texts that the values have, if all of them have one. -/
lemma eval_distinct (hlevel : c.depth + 1 ≤ c.limit) (htable : c.table = some rows)
    (hvs : e.ValuesIn c.deeper rows vs) :
    (call Function.distinct.name [e]).eval c =
      (vs.mapM Value.toText).map fun ts => .integer ts.eraseDups.length := by
  rw [eval_call_of_level hlevel]
  show Function.countTexts Function.distinct.name [e.eval] c.deeper = _
  simp only [Function.countTexts, Function.firstArgument,
    show c.deeper.table = some rows from htable, bind, Except.bind, hvs.overRows]
  cases vs.mapM Value.toText with
  | error fault => rfl
  | ok ts => rfl

/-- The number of rows, with no argument to look at. -/
lemma eval_count_nil (hlevel : c.depth + 1 ≤ c.limit) (htable : c.table = some rows) :
    (call Function.count.name []).eval c = .ok (.integer rows.length) := by
  rw [eval_call_of_level hlevel]
  show Function.countRows [] c.deeper = _
  rw [Function.countRows, show c.deeper.table = some rows from htable]

/-! ## Tables of one column -/

/-- A context with one column of costs. -/
def costs (limit : Int) : Context :=
  { Context.plain limit with columns := [⟨"cost", "Cost", .number⟩] }

/-- Rows with one cell each. -/
def costRows (cells : List Value) : List Row :=
  cells.map fun cost => [("cost", cost)]

end Formula

end TableFormula
