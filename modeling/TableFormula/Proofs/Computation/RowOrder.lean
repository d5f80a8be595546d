import Mathlib.Data.List.FinRange
import Mathlib.Data.List.Perm.Basic
import TableFormula.Proofs.Computation.Columns
import TableFormula.Proofs.Evaluation.Course
import TableFormula.Proofs.Evaluation.Inlining

/-!
# The order of the rows

The totals of numbers go through a table from the first row to the last, and rounding lets their
results depend on that order.  The two counts do not: they fail if their argument fails in any row,
and otherwise they look at its values without regard to places.

**Order-free formulas.**  So the column of a formula that has no other totals than counts, in
whatever way they are nested, moves with the rows (`columnOf_reordered`).  Which fault is met first
may change with the order of the rows, and with it which fault a count passes on; whether there is
one does not.
-/

namespace TableFormula

variable {α β : Type}

/-! ## Values that are kept -/

/-- If the first of two computations has a value, then the second one has it as well. -/
abbrev KeepsValue (x y : Except Fault α) : Prop :=
  SameUnless (fun _ => True) x y

lemma keepsValue_iff {x y : Except Fault α} : KeepsValue x y ↔ ∀ v, x = .ok v → y = .ok v := by
  constructor
  · rintro (rfl | ⟨fault, -, rfl⟩) v hv
    · exact hv
    · cases hv
  · intro h
    cases x with
    | error fault => exact .excused trivial y
    | ok v => exact .of_eq (h v rfl).symm

/-! ## Lists in another order -/

/-- A computation for every member has its values in the other order, if the members are in another
order. -/
lemma exists_mapM_eq_ok_of_perm {f : α → Except Fault β} {as as' : List α} {bs : List β}
    (h : as.mapM f = .ok bs) (hperm : as.Perm as') :
    ∃ bs', as'.mapM f = .ok bs' ∧ bs'.Perm bs := by
  obtain ⟨bs', hbs', hperm'⟩ := List.perm_comp_forall₂ hperm.symm (forall₂_of_mapM h)
  exact ⟨bs', mapM_eq_ok_of_forall₂ hbs', hperm'⟩

/-- No member is left twice. -/
lemma nodup_eraseDups [DecidableEq α] (as : List α) : as.eraseDups.Nodup := by
  cases as with
  | nil => exact List.nodup_nil
  | cons a as =>
    rw [List.eraseDups_cons, List.nodup_cons]
    refine ⟨?_, nodup_eraseDups (as.filter fun b => !b == a)⟩
    simp [List.mem_eraseDups]
termination_by as.length
decreasing_by exact Nat.lt_succ_of_le (List.length_filter_le _ as)

/-- How many members a list has, each counted once, does not depend on their order. -/
lemma length_eraseDups_eq_of_perm [DecidableEq α] {as as' : List α} (h : as.Perm as') :
    as.eraseDups.length = as'.eraseDups.length := by
  refine List.Perm.length_eq ?_
  rw [List.perm_ext_iff_of_nodup (nodup_eraseDups as) (nodup_eraseDups as')]
  intro a
  rw [List.mem_eraseDups, List.mem_eraseDups, h.mem_iff]

/-! ## Counts -/

namespace Function

variable {c c' : Context} {rows rows' : List Row} {args args' : List Evaluator}

/-- What does not depend on the order of the values that an argument has in the rows does not depend
on the order of the rows. -/
lemma keepsValue_overRows_of_perm {e e' : Evaluator} {read : Value → Except Fault α}
    {g : List α → Value} (hg : ∀ {as as' : List α}, as.Perm as' → g as = g as')
    (hperm : rows.Perm rows') (he : ∀ row, KeepsValue (e (c.atRow row)) (e' (c'.atRow row))) :
    KeepsValue (e.overRows read rows c >>= fun as => .ok (g as))
      (e'.overRows read rows' c' >>= fun as => .ok (g as)) := by
  have hrows : KeepsValue (e.overRows read rows c) (e'.overRows read rows c') := by
    refine sameUnless_overRows (R := Eq) ?_ (List.forall₂_same.mpr fun _ _ => rfl) read
    rintro row _ rfl
    exact he row
  rw [keepsValue_iff]
  intro v hv
  cases has : e.overRows read rows c with
  | error fault =>
    rw [has] at hv
    cases hv
  | ok as =>
    obtain ⟨as', has', hperm'⟩ :=
      exists_mapM_eq_ok_of_perm (keepsValue_iff.mp hrows as has) hperm
    have hoverRows : e'.overRows read rows' c' = .ok as' := has'
    rw [hoverRows, ← hv, has]
    exact congrArg Except.ok (hg hperm')

/-- A count keeps its value when the rows change places. -/
lemma keepsValue_call_of_perm {f : Function} (hf : f.isTotal = true)
    (hnumeric : f.isNumeric = false) (htable : c.table = some rows)
    (htable' : c'.table = some rows') (hperm : rows.Perm rows')
    (hargs : List.Forall₂ (fun e e' => ∀ row, KeepsValue (e (c.atRow row)) (e' (c'.atRow row)))
      args args') : KeepsValue (f.call args c) (f.call args' c') := by
  obtain h | rfl | rfl := Formula.isTotal_cases hf
  · rw [hnumeric] at h
    cases h
  · show KeepsValue (countRows args c) (countRows args' c')
    simp only [countRows, htable, htable']
    cases hargs with
    | nil => exact .of_eq (by rw [hperm.length_eq])
    | cons he _ =>
      exact keepsValue_overRows_of_perm (fun hperm => by rw [hperm.countP_eq]) hperm he
  · show KeepsValue (countTexts _ args c) (countTexts _ args' c')
    simp only [countTexts, htable, htable']
    cases hargs with
    | nil => exact .refl _
    | cons he _ =>
      exact keepsValue_overRows_of_perm
        (fun hperm => by rw [length_eraseDups_eq_of_perm hperm]) hperm he

end Function

/-! ## Order-free formulas -/

/-- Whether a name means a total of numbers. -/
def isNumericName (name : String) : Bool :=
  (Function.ofName? name).any Function.isNumeric

namespace Formula

/-- Whether a formula has no calls of totals of numbers. -/
def isOrderFree (f : Formula) : Bool :=
  f.lacksCalls isNumericName

variable {rows rows' : List Row}

/-- A call of a count keeps its value when the rows change places, if its arguments do. -/
lemma keepsValue_eval_call {name : String} {args : List Formula} {c : Context}
    (hname : isTotalName name = true) (hnumeric : isNumericName name = false)
    (htable : c.table = some rows) (hperm : rows.Perm rows')
    (hargs : ∀ p ∈ args, ∀ c : Context, c.table = some rows →
      KeepsValue (p.eval c) (p.eval { c with table := some rows' })) :
    KeepsValue ((call name args).eval c)
      ((call name args).eval { c with table := some rows' }) := by
  rw [eval, evalAll_eq_map]
  refine SameLevel.guarded (.of_eq rfl rfl) ?_
  rw [isTotalName] at hname
  rw [isNumericName] at hnumeric
  unfold Evaluator.ofCall
  cases hf : Function.ofName? name with
  | none => exact .refl _
  | some f =>
    rw [hf, Option.any_some] at hname hnumeric
    refine Function.keepsValue_call_of_perm hname hnumeric htable rfl hperm ?_
    rw [List.forall₂_map_left_iff, List.forall₂_map_right_iff, List.forall₂_same]
    exact fun p hp row => hargs p hp (c.deeper.atRow row) htable

/-- **Order-free formulas.**  The value of an order-free formula over a table is its value over the
table with the rows in another order. -/
lemma keepsValue_eval_of_perm (hperm : rows.Perm rows') (f : Formula) (hf : f.isOrderFree = true)
    (c : Context) (htable : c.table = some rows) :
    KeepsValue (f.eval c) (f.eval { c with table := some rows' }) := by
  refine sameUnless_eval_self (S := fun g c c' => g.height ≤ f.height ∧ g.isOrderFree = true ∧
    c.table = some rows ∧ c' = { c with table := some rows' }) ?_ ⟨Nat.le_refl _, hf, htable, rfl⟩
  rintro g c _ ⟨hheight, hg, htable, rfl⟩
  have hlower : ∀ p ∈ g.parts, p.height < f.height := fun p hp =>
    Nat.lt_of_lt_of_le (height_lt_of_mem_parts hp) hheight
  obtain ⟨hnumeric, hfree⟩ := (lacksCalls_iff isNumericName g).mp hg
  cases htotal : g.isTotal with
  | false =>
    refine .self (.of_eq rfl rfl) rfl (fun _ _ => rfl) ?_ ?_
    · exact fun _ p hp => ⟨(hlower p hp).le, hfree p hp, htable, rfl⟩
    · exact fun h => absurd h (by simp [htotal])
  | true =>
    -- The rows of the two tables are not in step, so a count is settled as a whole.
    cases g with
    | call name args =>
      refine .outcome (keepsValue_eval_call htotal hnumeric htable hperm ?_)
      intro p hp c htable
      have := hlower p hp
      exact keepsValue_eval_of_perm hperm p (hfree p hp) c htable
    | _ => cases htotal
termination_by f.height

end Formula

namespace Engine

open Formula

variable (engine : Engine) (columns : List Column) {rows rows' : List Row}

/-- What an order-free formula has in a row stays the same when the rows change places. -/
lemma valueAt_eq_of_perm {f : Formula} (hf : f.isOrderFree = true) (hperm : rows.Perm rows') :
    engine.valueAt columns (some rows') f = engine.valueAt columns (some rows) f := by
  funext row
  have hkeeps := keepsValue_iff.mp (keepsValue_eval_of_perm hperm f hf
    (.top engine.clock (depthLimit none) columns (some rows) row) rfl)
  have hkeeps' := keepsValue_iff.mp (keepsValue_eval_of_perm hperm.symm f hf
    (.top engine.clock (depthLimit none) columns (some rows') row) rfl)
  rw [valueAt, valueAt]
  cases heval : f.eval (.top engine.clock (depthLimit none) columns (some rows) row) with
  | ok v =>
    have heval' : f.eval (.top engine.clock (depthLimit none) columns (some rows') row) = .ok v :=
      hkeeps v heval
    rw [heval']
  | error fault =>
    cases heval' : f.eval (.top engine.clock (depthLimit none) columns (some rows') row) with
    | error fault' => rfl
    | ok v =>
      have hvalue : f.eval (.top engine.clock (depthLimit none) columns (some rows) row) = .ok v :=
        hkeeps' v heval'
      rw [heval] at hvalue
      cases hvalue

end Engine

/-! ## Columns -/

/-- Some things in another order: what stands at the place `order i` comes to the place `i`. -/
def reordered {n : Nat} (order : Equiv.Perm (Fin n)) (xs : List α) (h : xs.length = n) : List α :=
  List.ofFn fun i => xs.get ((order i).cast h.symm)

lemma perm_reordered {n : Nat} (order : Equiv.Perm (Fin n)) (xs : List α) (h : xs.length = n) :
    xs.Perm (reordered order xs h) := by
  subst h
  have hperm := order.ofFn_comp_perm xs.get
  rw [List.ofFn_get] at hperm
  exact hperm.symm

lemma map_reordered {n : Nat} (order : Equiv.Perm (Fin n)) (xs : List α) (h : xs.length = n)
    (f : α → β) : (reordered order xs h).map f =
      reordered order (xs.map f) ((List.length_map f).trans h) := by
  rw [reordered, reordered, List.map_ofFn]
  refine congrArg List.ofFn (funext fun i => ?_)
  simp

/-- **Row order.**  If the formula that a text spells has no calls of sums, means and extrema, then
the column over a table with its rows in another order is the column over the table in that order,
for every order of the rows. -/
theorem columnOf_reordered (engine : Engine) {source : String} (columns : List Column)
    (rows : List Row) (hfree : ∀ f, Formula.parse source = .ok f → f.isOrderFree = true)
    (order : Equiv.Perm (Fin rows.length)) :
    ∃ (column : ComputedColumn) (hlength : column.values.length = rows.length),
      engine.columnOf source columns rows = .ok column ∧
      engine.columnOf source columns (reordered order rows rfl) =
        .ok ⟨reordered order column.values hlength, column.fault⟩ := by
  cases h : Formula.parse source with
  | error fault =>
    refine ⟨_, List.length_map _, engine.columnOf_eq_of_error columns rows h, ?_⟩
    rw [engine.columnOf_eq_of_error columns _ h, map_reordered]
  | ok f =>
    have hvalue := engine.valueAt_eq_of_perm columns (hfree f h) (perm_reordered order rows rfl)
    refine ⟨_, List.length_map _, engine.columnOf_eq columns rows h, ?_⟩
    rw [engine.columnOf_eq columns _ h, hvalue, map_reordered]

/-- The two rows of the small table change places. -/
def exchange : Equiv.Perm (Fin smallTable.2.length) :=
  Equiv.swap ⟨0, by decide⟩ ⟨1, by decide⟩

/-- A count in a condition, and one in an argument of a count. -/
theorem columnOf_nested_counts_reordered :
    (∀ f, Formula.parse "IF(COUNT([a]) > 1, DISTINCT([b] & COUNT([a])), [a])" = .ok f →
      f.isOrderFree = true) ∧
    ∃ (column : ComputedColumn) (hlength : column.values.length = smallTable.2.length),
      Engine.onDay.columnOf "IF(COUNT([a]) > 1, DISTINCT([b] & COUNT([a])), [a])" smallTable.1
        smallTable.2 = .ok column ∧
      Engine.onDay.columnOf "IF(COUNT([a]) > 1, DISTINCT([b] & COUNT([a])), [a])" smallTable.1
        (reordered exchange smallTable.2 rfl) =
          .ok ⟨reordered exchange column.values hlength, column.fault⟩ := by
  have hfree : ∀ f, Formula.parse "IF(COUNT([a]) > 1, DISTINCT([b] & COUNT([a])), [a])" = .ok f →
      f.isOrderFree = true := by
    have hparsed : (Formula.parse
        "IF(COUNT([a]) > 1, DISTINCT([b] & COUNT([a])), [a])").toOption.map Formula.isOrderFree =
          some true := by decide +kernel
    intro f h
    rw [h] at hparsed
    exact Option.some.inj hparsed
  exact ⟨hfree, columnOf_reordered Engine.onDay smallTable.1 smallTable.2 hfree exchange⟩

end TableFormula
