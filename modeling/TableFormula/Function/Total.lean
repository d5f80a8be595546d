import TableFormula.Evaluation.Context
import TableFormula.Value.Reading

/-!
# Totals

A total evaluates its argument in every row of the table.  Where the table is not known, it falls
back on the current row: sums, means and extrema are then the argument itself, and counts are one.

An empty table has the sum zero, no mean and no extrema.  Sums are formed from the first row to the
last.
-/

namespace TableFormula.Function

/-- The first argument of a function. -/
def firstArgument (name : String) : List Evaluator → Except Fault Evaluator
  | [] => .error (.missingArgument name 1 0)
  | e :: _ => .ok e

/-- A total of the numbers in all rows. -/
def totalOf (name : String) (total : List Float → Except Fault Float) (args : List Evaluator) :
    Evaluator := fun c => do
  let e ← firstArgument name args
  match c.table with
  | none => e c
  | some rows => return .float (← total (← e.overRows Value.toNumber rows c))

/-- The sum of some numbers. -/
def sumOf (xs : List Float) : Float :=
  xs.foldl (· + ·) 0.0

/-- A result for a list that is not empty. -/
def nonempty (name : String) (f : Float → List Float → Float) : List Float → Except Fault Float
  | [] => .error (.noRows name)
  | x :: xs => .ok (f x xs)

/-- The mean of some numbers. -/
def meanOf (x : Float) (xs : List Float) : Float :=
  sumOf (x :: xs) / Float.ofNat (xs.length + 1)

/-- The first of the least numbers. -/
def leastOf (x : Float) (xs : List Float) : Float :=
  xs.foldl (fun least y => if y < least then y else least) x

/-- The first of the greatest numbers. -/
def greatestOf (x : Float) (xs : List Float) : Float :=
  xs.foldl (fun greatest y => if y > greatest then y else greatest) x

/-- The number of rows in which the argument is not empty; the number of rows without argument. -/
def countRows (args : List Evaluator) : Evaluator := fun c =>
  match c.table with
  | none => .ok (.integer 1)
  | some rows =>
    match args with
    | [] => .ok (.integer rows.length)
    | e :: _ => do
      let values ← e.overRows .ok rows c
      return .integer (values.countP (!·.isEmpty))

/-- The number of display texts that the argument has in the rows. -/
def countTexts (name : String) (args : List Evaluator) : Evaluator := fun c =>
  match c.table with
  | none => .ok (.integer 1)
  | some rows => do
    let e ← firstArgument name args
    let texts ← e.overRows Value.toText rows c
    return .integer texts.eraseDups.length

end TableFormula.Function
