import TableFormula.Computation.Inference

/-!
# Computed columns in sequence

Each step adds one computed column to a table: the formula is checked, a type is suggested and the
values are computed; then the values are written into the rows and the column joins the others, so
that later steps may refer to it.
-/

namespace TableFormula

/-- A column that is to be computed. -/
structure PipelineStep where
  id : String
  name : String
  source : String

/-- What a step found and computed. -/
structure StepResult where
  finding : Option Finding
  type : ColumnType
  column : ComputedColumn

/-- Writes the values of a column into the rows. -/
def writeColumn (id : String) (rows : List Row) (values : List Value) : List Row :=
  List.zipWith (fun row v => row.set id v) rows values

namespace Engine

/-- Checks a formula, suggests a type and computes the values. -/
def runStep (engine : Engine) (rows : List Row) (columns : GivenColumns) (step : PipelineStep) :
    Except InferenceFault StepResult := do
  let finding ← (checkText step.source columns).mapError .columns
  let type ← engine.inferType step.source columns rows none
  let computed ← (engine.computeColumn step.source rows columns).mapError .columns
  return ⟨finding, type, computed.result⟩

/-- Runs the steps one after the other. -/
def runPipeline (engine : Engine) :
    List Row → GivenColumns → List PipelineStep → Except InferenceFault (List StepResult)
  | _, _, [] => .ok []
  | rows, columns, step :: rest => do
    let result ← engine.runStep rows columns step
    let rows := writeColumn step.id rows result.column.values
    let columns := columns.map (· ++ [⟨step.id, step.name, result.type⟩])
    return result :: (← engine.runPipeline rows columns rest)

end Engine

end TableFormula
