import TableFormula.Value.Reading

/-!
# Functions of truth values

A truth value that an operator or a function gives back is a number, one or zero.
-/

namespace TableFormula.Function

/-- One or zero. -/
def ofTruth (b : Bool) : Value :=
  .float (if b then 1.0 else 0.0)

/-- Whether every value is true; what follows a false one is not read. -/
def allTrue (values : List Value) : Except Fault Bool :=
  values.allM Value.toTruth

/-- Whether some value is true; what follows a true one is not read. -/
def anyTrue (values : List Value) : Except Fault Bool :=
  values.anyM Value.toTruth

end TableFormula.Function
