import TableFormula.Column
import TableFormula.Value.Reading

/-!
# The type of a column by its values

Blank values say nothing.  The first of the types number, boolean and date that all other values
have is the type of the column; with no such type, or no other values, it is `string`.  Ones and
zeros alone are therefore numbers, and `boolean` needs a truth value among them.
-/

namespace TableFormula

open Number

namespace Value

/-- Whether a value is a truth value, or a number that stands for one. -/
def isBoolean : Value → Except Fault Bool
  | truth _ => .ok true
  | integer n => .ok (n == 0 || n == 1)
  | float x => .ok (x == 0.0 || x == 1.0)
  | decimal d => do if ← d.isZero then return true else d.isOne
  | blank | text _ | date _ | stamp _ | list _ => .ok false

/-- Whether a value is a date, a moment or a text that names one. -/
def isDate (reader : Everyday.Reader) : Value → Except Fault Bool
  | date _ | stamp _ => .ok true
  | text s => (momentOfText reader s).map Option.isSome
  | blank | truth _ | integer _ | float _ | decimal _ | list _ => .ok false

/-- Whether a value is blank. -/
def isBlank : Value → Bool
  | blank => true
  | _ => false

end Value

namespace ColumnType

/-- The types that are looked for, in this order, with what they ask of every value. -/
def detectors (reader : Everyday.Reader) :
    List (ColumnType × (Value → Except Fault Bool)) :=
  [(number, fun v => .ok v.isNumber), (boolean, Value.isBoolean), (date, Value.isDate reader)]

/-- The first type that some values have. -/
def firstOf (values : List Value) :
    List (ColumnType × (Value → Except Fault Bool)) → Except Fault ColumnType
  | [] => .ok string
  | (type, test) :: rest => do
    if ← values.allM test then return type else firstOf values rest

/-- The type of a column with some values. -/
def ofValues (reader : Everyday.Reader) (values : List Value) : Except Fault ColumnType :=
  let present := values.filter (!·.isBlank)
  if present.isEmpty then .ok string else firstOf present (detectors reader)

end ColumnType

end TableFormula
