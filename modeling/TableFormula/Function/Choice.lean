import TableFormula.Evaluation.Context
import TableFormula.Value.Reading

/-!
# Choices

A choice evaluates its arguments from left to right and stops at the one it settles on, so what
stands behind that cannot make it fail.
-/

namespace TableFormula.Function

/-- The result behind the first case that equals the subject.  A last argument without partner is
the result where no case does; without one the result is blank. -/
def firstCase (subject : Value) : List Evaluator → Evaluator
  | [], _ => .ok .blank
  | [otherwise], c => otherwise c
  | case :: result :: rest, c => do
    if ← subject.same (← case c) then result c else firstCase subject rest c

/-- Compares its first argument with the cases that follow. -/
def switchOn (name : String) : List Evaluator → Evaluator
  | [], _ => .error (.missingArgument name 1 0)
  | subject :: cases, c => do firstCase (← subject c) cases c

/-- The first argument that is not empty. -/
def firstFilled : List Evaluator → Evaluator
  | [], _ => .ok .blank
  | e :: rest, c => do
    let v ← e c
    if v.isEmpty then firstFilled rest c else return v

end TableFormula.Function
