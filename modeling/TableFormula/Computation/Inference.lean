import TableFormula.Column.Inference
import TableFormula.Computation.Basic
import TableFormula.Text.Span

/-!
# The type of a computed column

The type is suggested by the values in a sample of rows from the start of the table.  Totals do not
see the table: in a sample they fall back on the current row.
-/

namespace TableFormula

open Formula

/-- Why a type cannot be suggested: the columns are described badly, or a value cannot be looked
at. -/
inductive InferenceFault where
  | columns (problems : List Problem)
  | value (fault : Fault)
deriving DecidableEq, Repr

/-- How many rows a sample has; a number below zero leaves out so many rows at the end. -/
def sampleSize (asked : Option Int) : Int :=
  match asked with
  | none | some 0 => Settings.default.sampleSize
  | some n => n

/-- Suggests a type for the values of a formula.  Without rows, or for a text that is no formula,
it is `string`. -/
def Engine.inferType (engine : Engine) (source : String) (columns : GivenColumns) (rows : List Row)
    (asked : Option Int) : Except InferenceFault ColumnType :=
  if rows.isEmpty then .ok .string
  else match parse source with
    | .error _ => .ok .string
    | .ok f =>
      match columns with
      | .error problems => .error (.columns problems)
      | .ok columns =>
        let sample := Text.leading (sampleSize asked) rows
        let values := sample.map fun row => (engine.evaluate columns none f row none).result
        (ColumnType.ofValues engine.clock.everyday values).mapError .value

end TableFormula
