import TableFormula.Calendar.Clock
import TableFormula.Column
import TableFormula.Value.Basic

/-!
# What a formula is evaluated against

The meaning of a formula is an *evaluator*: for a context it gives a value or says why there is
none.  The meaning of a tree is put together from the meanings of its parts, never from the parts
themselves, so a function that evaluates its arguments more than once, or not at all, is a function
on evaluators.

Every node of a tree counts as one level of nesting.  `guarded` is the only place where levels are
counted.
-/

namespace TableFormula

/-- What a formula is evaluated against. -/
structure Context where
  row : Row
  columns : List Column
  /-- The rows that totals go over, where the whole table is known. -/
  table : Option (List Row)
  clock : Clock
  /-- How many levels of nesting are allowed. -/
  limit : Int
  /-- The level of the node around the one that is evaluated. -/
  depth : Nat

namespace Context

/-- The context in which a whole formula is evaluated. -/
def top (clock : Clock) (limit : Int) (columns : List Column) (table : Option (List Row))
    (row : Row) : Context :=
  ⟨row, columns, table, clock, limit, 0⟩

/-- The same context with another current row. -/
def atRow (c : Context) (row : Row) : Context :=
  { c with row := row }

/-- The same context one level further down. -/
def deeper (c : Context) : Context :=
  { c with depth := c.depth + 1 }

end Context

/-- The meaning of a formula. -/
abbrev Evaluator := Context → Except Fault Value

namespace Evaluator

/-- An evaluator one level further down, which has to be within the limit. -/
def guarded (e : Evaluator) : Evaluator := fun c =>
  if c.limit < c.depth + 1 then .error (.tooDeep c.limit) else e c.deeper

/-- The values of an evaluator in every row of a table, read one by one as something else. -/
def overRows {α : Type} (e : Evaluator) (read : Value → Except Fault α) (rows : List Row)
    (c : Context) : Except Fault (List α) :=
  rows.mapM fun row => do read (← e (c.atRow row))

/-- The cell of the current row that a reference means. -/
def ofReference (name : String) : Evaluator := fun c =>
  match Column.find? c.columns name with
  | some column => .ok (c.row.get column.id)
  | none => .error (.unknownColumn name)

end Evaluator

end TableFormula
