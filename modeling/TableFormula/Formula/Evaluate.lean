import TableFormula.Formula.Operation
import TableFormula.Function.Meaning

/-!
# The meaning of formulas

Both operands of an operator are evaluated, the left one first; of the two branches of a choice only
the one that is taken is.
-/

namespace TableFormula

namespace Evaluator

/-- The meaning of a binary operator. -/
def ofBinary (op : Operator) (left right : Evaluator) : Evaluator := fun c => do
  let v ← left c
  let w ← right c
  op.apply v w

/-- The meaning of an operator on one operand. -/
def ofUnary (sign : Sign) (operand : Evaluator) : Evaluator := fun c => do
  sign.apply (← operand c)

/-- The meaning of a choice. -/
def ofChoice (condition whenTrue whenFalse : Evaluator) : Evaluator := fun c => do
  if ← (← condition c).toTruth then whenTrue c else whenFalse c

end Evaluator

namespace Formula

mutual

/-- The meaning of a formula. -/
def eval : Formula → Evaluator
  | number x => Evaluator.guarded fun _ => .ok (.float x)
  | text s => Evaluator.guarded fun _ => .ok (.text s)
  | column name => Evaluator.guarded (Evaluator.ofReference name)
  | binary op left right => Evaluator.guarded (Evaluator.ofBinary op left.eval right.eval)
  | unary sign operand => Evaluator.guarded (Evaluator.ofUnary sign operand.eval)
  | call name args => Evaluator.guarded (Evaluator.ofCall name (evalAll args))
  | choose condition whenTrue whenFalse =>
    Evaluator.guarded (Evaluator.ofChoice condition.eval whenTrue.eval whenFalse.eval)
  | hole => Evaluator.guarded fun _ => .error .hole

/-- The meanings of several formulas. -/
def evalAll : List Formula → List Evaluator
  | [] => []
  | f :: rest => f.eval :: evalAll rest

end

@[simp] theorem evalAll_eq_map (args : List Formula) : evalAll args = args.map eval := by
  induction args with
  | nil => rfl
  | cons f rest ih => simp [evalAll, ih]

end Formula

end TableFormula
