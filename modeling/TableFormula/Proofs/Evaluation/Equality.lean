import TableFormula.Proofs.Evaluation.Outcome
import TableFormula.Proofs.Value.Numbers

/-!
# Equality of values

Which of two forms of a value is compared, the number or the text, depends on both values.  Where
both have a number, the comparison has a result (`same_eq`), and it is an equality: every value is
the same as itself, NaN included, since it is read as zero, and the order of two values does not
matter.  The operators for equal and unequal values give one and zero, never twice the same.
-/

namespace TableFormula

open Number

namespace Value

variable {u v : Value} {x y : Float}

/-- What a comparison of two values gives, where both have a number. -/
lemma same_eq (hu : u.toNumber = .ok x) (hv : v.toNumber = .ok y) : u.same v =
    .ok (if u.comparesByNumber || v.comparesByNumber then x == y else u.shown == v.shown) := by
  rw [same, hu, hv, toText_of_hasText (hasText_of_toNumber hu),
    toText_of_hasText (hasText_of_toNumber hv)]
  split <;> rfl

lemma same_self (hu : u.toNumber = .ok x) : u.same u = .ok true := by
  rw [same_eq hu hu, beq_float_self (isNaN_eq_false_of_toNumber hu), beq_self_eq_true, ite_self]

lemma same_comm (hu : u.toNumber = .ok x) (hv : v.toNumber = .ok y) : u.same v = v.same u := by
  rw [same_eq hu hv, same_eq hv hu, beq_float_comm x y, Bool.or_comm,
    Bool.beq_comm (a := u.shown)]

end Value

namespace Formula

variable {u v : Value} {c : Context} {f g : Formula}

/-- Where something has a value, there is a level for it. -/
lemma depth_lt_of_eval_eq_ok (h : f.eval c = .ok u) : c.depth + 1 ≤ c.limit := by
  by_contra hdeep
  have hfault : f.eval c = .error (.tooDeep c.limit) := by
    cases f <;> exact Evaluator.guarded_of_lt (not_le.mp hdeep) _
  rw [hfault] at h
  cases h

/-- An operator is applied to the values that its operands have one level further down. -/
lemma eval_binary_of_ok (op : Operator) (hf : f.eval c.deeper = .ok u)
    (hg : g.eval c.deeper = .ok v) : (binary op f g).eval c = op.apply u v := by
  have hlevel : c.depth + 1 ≤ c.limit := by
    have h : ((c.depth + 1 : ℕ) : ℤ) + 1 ≤ c.limit := depth_lt_of_eval_eq_ok hf
    omega
  rw [eval, Evaluator.guarded_of_le hlevel, Evaluator.ofBinary, hf, hg]
  rfl

/-- **Equality.**  Among values that have a number, NaN included, equality is reflexive and
symmetric, and of the two operators for it one gives one and the other zero, wherever both operands
have these values. -/
theorem equality_laws {x y : Float} (hu : u.toNumber = .ok x) (hv : v.toNumber = .ok y) :
    u.same u = .ok true ∧
    (∃ b, u.same v = .ok b ∧ v.same u = .ok b) ∧
    ∀ (c : Context) (f g : Formula), f.eval c.deeper = .ok u → g.eval c.deeper = .ok v →
      (binary .equal f g).eval c = .ok (.float 1.0) ∧
          (binary .unequal f g).eval c = .ok (.float 0.0) ∨
        (binary .equal f g).eval c = .ok (.float 0.0) ∧
          (binary .unequal f g).eval c = .ok (.float 1.0) := by
  have hsame := Value.same_eq hu hv
  refine ⟨Value.same_self hu, ⟨_, hsame, (Value.same_comm hu hv).symm.trans hsame⟩,
    fun c f g hf hg => ?_⟩
  rw [eval_binary_of_ok .equal hf hg, eval_binary_of_ok .unequal hf hg, Operator.apply,
    Operator.apply, hsame]
  cases (if u.comparesByNumber || v.comparesByNumber then x == y else u.shown == v.shown) with
  | true => exact .inl ⟨rfl, rfl⟩
  | false => exact .inr ⟨rfl, rfl⟩

/-- A row with one cell, a decimal that is no number. -/
def nanRow : Context :=
  { Context.plain 2 with
    columns := [⟨"ratio", "Ratio", .number⟩]
    row := [("ratio", .decimal (.nan true false 7))] }

/-- What is no number, as a float and as a decimal in a cell. -/
theorem equality_laws_nan :
    (Value.float (0.0 / 0.0)).same (.float (0.0 / 0.0)) = .ok true ∧
    (∃ b, (Value.float (0.0 / 0.0)).same (.decimal (.nan true false 7)) = .ok b ∧
      (Value.decimal (.nan true false 7)).same (.float (0.0 / 0.0)) = .ok b) ∧
    ((binary .equal (number (0.0 / 0.0)) (column "ratio")).eval nanRow = .ok (.float 1.0) ∧
        (binary .unequal (number (0.0 / 0.0)) (column "ratio")).eval nanRow = .ok (.float 0.0) ∨
      (binary .equal (number (0.0 / 0.0)) (column "ratio")).eval nanRow = .ok (.float 0.0) ∧
        (binary .unequal (number (0.0 / 0.0)) (column "ratio")).eval nanRow = .ok (.float 1.0)) := by
  have hlaws := equality_laws (u := .float (0.0 / 0.0)) (v := .decimal (.nan true false 7))
    (x := 0.0) (y := 0.0) rfl rfl
  exact ⟨hlaws.1, hlaws.2.1, hlaws.2.2 nanRow (number (0.0 / 0.0)) (column "ratio") rfl rfl⟩

end Formula

end TableFormula
