import TableFormula.Text.Case

/-!
# Columns

A column has an identifier, by which rows know its cells, and a name for people.  A formula may use
either.  An exact identifier wins over an exact name, an exact name over either of them ignoring
case, and among equals the first column wins.
-/

namespace TableFormula

open Text

/-- The types that a column may have.  They are advice: no cell is checked against them. -/
inductive ColumnType where
  | string
  | number
  | date
  | boolean
deriving DecidableEq, Repr

namespace ColumnType

/-- The word for a type. -/
def name : ColumnType → String
  | string => "string"
  | number => "number"
  | date => "date"
  | boolean => "boolean"

/-- The type that a word stands for. -/
def ofName? : String → Option ColumnType
  | "string" => some string
  | "number" => some number
  | "date" => some date
  | "boolean" => some boolean
  | _ => none

@[simp] theorem ofName?_name (t : ColumnType) : ofName? t.name = some t := by
  cases t <;> rfl

end ColumnType

/-- A column of a table. -/
structure Column where
  id : String
  name : String
  type : ColumnType
deriving DecidableEq, Repr

namespace Column

/-- Whether a reference means a column ignoring case. -/
def answersTo (c : Column) (reference : String) : Bool :=
  sameIgnoringCase c.name reference || sameIgnoringCase c.id reference

/-- The column that a reference means. -/
def find? (columns : List Column) (reference : String) : Option Column :=
  (columns.find? (·.id == reference)).or
    ((columns.find? (·.name == reference)).or
      (columns.find? (·.answersTo reference)))

end Column

end TableFormula
