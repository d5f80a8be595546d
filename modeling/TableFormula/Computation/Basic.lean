import TableFormula.Column.Given
import TableFormula.Formula.Check
import TableFormula.Formula.Evaluate
import TableFormula.Settings

/-!
# Computing with formulas

A table that uses a formula is to be shown also when the formula is broken.  So a formula that
cannot be read comes with an error text and blank values, and a row in which it cannot be evaluated
is blank.  Only a faulty description of the columns stops a computation, and only a formula that can
be read makes it look at the columns at all.

## Notes

What went wrong is noted if notes are wanted: a formula that cannot be read once, an evaluation that
fails once for its row.  Notes never change a result.
-/

namespace TableFormula

open Formula

/-- Something that went wrong. -/
inductive Note where
  | unreadable (source : String) (fault : SyntaxFault)
  /-- A failed evaluation, with the place of the row if a whole column was computed. -/
  | failed (row : Option Nat) (fault : Fault)
deriving DecidableEq, Repr

/-- What a note says happened. -/
def Note.message : Note → String
  | unreadable _ _ => "Formula compilation failed"
  | failed _ _ => "Formula evaluation failed"

/-- A result and what was noted on the way. -/
structure Noted (α : Type) where
  result : α
  notes : List Note

/-- A formula that was read, or the number zero and what is wrong with the text. -/
structure Compiled where
  formula : Formula
  fault : Option SyntaxFault

/-- A computed column: a value for every row, and what is wrong with the formula. -/
structure ComputedColumn where
  values : List Value
  fault : Option SyntaxFault

/-- How deep formulas may be nested: as deep as the settings say, unless another limit is asked
for.  The limit zero asks for nothing. -/
def depthLimit (asked : Option Int) : Int :=
  match asked with
  | none | some 0 => Settings.default.maxDepth
  | some n => n

/-- What computes with formulas: it has a clock, and takes notes or does not. -/
structure Engine where
  clock : Clock
  debug : Bool

namespace Engine

/-- The notes that are wanted. -/
def wanted (engine : Engine) (notes : List Note) : List Note :=
  if engine.debug then notes else []

/-! ## Compiling -/

/-- Reads a formula. -/
def compile (engine : Engine) (source : String) : Noted Compiled :=
  match parse source with
  | .ok f => ⟨⟨f, none⟩, []⟩
  | .error fault => ⟨⟨.number 0.0, some fault⟩, engine.wanted [.unreadable source fault]⟩

/-! ## Values -/

/-- The value of an evaluation, blank if it failed. -/
def settle (engine : Engine) (row : Option Nat) : Except Fault Value → Noted Value
  | .ok v => ⟨v, []⟩
  | .error fault => ⟨.blank, engine.wanted [.failed row fault]⟩

/-- The value of a formula in a row, blank if it has none. -/
def evaluate (engine : Engine) (columns : List Column) (table : Option (List Row)) (f : Formula)
    (row : Row) (index : Option Nat) : Noted Value :=
  engine.settle index (f.eval (.top engine.clock (depthLimit none) columns table row))

/-- The value of a formula in a single row. -/
def evaluateFormula (engine : Engine) (f : Formula) (row : Row) (columns : GivenColumns)
    (table : Option (List Row)) : Except (List Problem) (Noted Value) := do
  return engine.evaluate (← columns) table f row none

/-- The value of a text of a formula in a single row. -/
def evaluateText (engine : Engine) (source : String) (row : Row) (columns : GivenColumns)
    (table : Option (List Row)) : Except (List Problem) (Noted Value) :=
  let compiled := engine.compile source
  match compiled.result.fault with
  | some _ => .ok ⟨.blank, compiled.notes⟩
  | none => engine.evaluateFormula compiled.result.formula row columns table

/-! ## Columns -/

/-- Computes a column of a table. -/
def computeColumn (engine : Engine) (source : String) (rows : List Row) (columns : GivenColumns) :
    Except (List Problem) (Noted ComputedColumn) :=
  let compiled := engine.compile source
  match compiled.result.fault with
  | some fault => .ok ⟨⟨rows.map fun _ => .blank, some fault⟩, compiled.notes⟩
  | none => do
    let columns ← columns
    let cells := rows.mapIdx fun i row =>
      engine.evaluate columns (some rows) compiled.result.formula row (some i)
    return ⟨⟨cells.map (·.result), none⟩, cells.flatMap (·.notes)⟩

end Engine

/-! ## Checks -/

/-- What is wrong with a text of a formula for a table, found without evaluating it. -/
def checkText (source : String) (columns : GivenColumns) :
    Except (List Problem) (Option Finding) :=
  match parse source with
  | .error fault => .ok (some (.unreadable fault))
  | .ok f => do return f.check (← columns)

end TableFormula
