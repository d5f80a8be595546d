/-!
# Problems with given data

Descriptions of columns and settings are checked field by field.  Every field is checked, so all
problems are found at once, in the order of the fields.
-/

namespace TableFormula

/-- What is wrong with a piece of data. -/
inductive Defect where
  | missing
  | noText
  | noChoice
  | noObject
  | noTruth
  | unreadableTruth
  | noInteger
  | unreadableInteger
  | tooLong
  | fraction
  | notFinite
  | tooSmall
deriving DecidableEq, Repr

/-- The code for a defect. -/
def Defect.code : Defect → String
  | missing => "missing"
  | noText => "string_type"
  | noChoice => "enum"
  | noObject => "model_type"
  | noTruth => "bool_type"
  | unreadableTruth => "bool_parsing"
  | noInteger => "int_type"
  | unreadableInteger => "int_parsing"
  | tooLong => "int_parsing_size"
  | fraction => "int_from_float"
  | notFinite => "finite_number"
  | tooSmall => "greater_than_equal"

/-- A defect and the fields that lead to it. -/
structure Problem where
  defect : Defect
  place : List String
deriving DecidableEq, Repr

namespace Problem

/-- The problem of a field, if it has one. -/
def ofField {α : Type} (field : String) : Except Defect α → List Problem
  | .ok _ => []
  | .error defect => [⟨defect, [field]⟩]

end Problem

end TableFormula
