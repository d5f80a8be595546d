import TableFormula.Formula.Basic
import TableFormula.Function.Logic
import TableFormula.Number.Arithmetic
import TableFormula.Value.Reading

/-!
# What the operators mean

Arithmetic and order go by number, joining goes by text, and equality settles itself which of the
two it goes by.
-/

namespace TableFormula

open Number

namespace Operator

/-- An operation on numbers. -/
def ofNumbers (f : Float → Float → Except Fault Value) (v w : Value) : Except Fault Value := do
  let x ← v.toNumber
  let y ← w.toNumber
  f x y

/-- The result of an operator. -/
def apply (op : Operator) (v w : Value) : Except Fault Value :=
  match op with
  | join => do
    let s ← v.toText
    let t ← w.toText
    return .text (s ++ t)
  | equal => (v.same w).map Function.ofTruth
  | unequal => (v.same w).map (Function.ofTruth !·)
  | add => ofNumbers (fun x y => .ok (.float (x + y))) v w
  | subtract => ofNumbers (fun x y => .ok (.float (x - y))) v w
  | multiply => ofNumbers (fun x y => .ok (.float (x * y))) v w
  | divide => ofNumbers (fun x y => (Number.divide x y).map .float) v w
  | modulo => ofNumbers (fun x y => (remainder x y).map .float) v w
  | power => ofNumbers (fun x y => (Number.power x y).map .float) v w
  | less => ofNumbers (fun x y => .ok (Function.ofTruth (x < y))) v w
  | greater => ofNumbers (fun x y => .ok (Function.ofTruth (x > y))) v w
  | atMost => ofNumbers (fun x y => .ok (Function.ofTruth (x ≤ y))) v w
  | atLeast => ofNumbers (fun x y => .ok (Function.ofTruth (x ≥ y))) v w
  | other symbol => ofNumbers (fun _ _ => .error (.unknownOperator symbol)) v w

end Operator

/-- The result of an operator on one operand. -/
def Sign.apply (sign : Sign) (v : Value) : Except Fault Value :=
  match sign with
  | negate => v.toNumber.map fun x => .float (-x)
  | not => v.toTruth.map (Function.ofTruth !·)
  | other symbol => .error (.unknownSign symbol)

end TableFormula
