import TableFormula.Column
import TableFormula.Json.Basic
import TableFormula.Problem

/-!
# Columns as they are given

A column is described by an object with an `id`, a `name` and, if it is not to be `string`, a
`type`.  A list of descriptions is read up to the first one that has a problem.
-/

namespace TableFormula

namespace Column

/-- Reads a member that has to be a text. -/
def textMember (key : String) (data : Json) : Except Defect String :=
  match data.member? key with
  | some (.string s) => .ok s
  | some _ => .error .noText
  | none => .error .missing

/-- Reads the type, which may be left out. -/
def typeMember (data : Json) : Except Defect ColumnType :=
  match data.member? "type" with
  | none => .ok .string
  | some (.string s) =>
    match ColumnType.ofName? s with
    | some type => .ok type
    | none => .error .noChoice
  | some _ => .error .noChoice

/-- The column that a piece of data describes. -/
def ofJson (data : Json) : Except (List Problem) Column :=
  match data with
  | .object _ =>
    match textMember "id" data, textMember "name" data, typeMember data with
    | .ok id, .ok name, .ok type => .ok ⟨id, name, type⟩
    | id, name, type =>
      .error (Problem.ofField "id" id ++ Problem.ofField "name" name ++ Problem.ofField "type" type)
  | _ => .error [⟨.noObject, []⟩]

end Column

/-- The columns of a table as far as they are known: a list, or the problems with its
description. -/
abbrev GivenColumns := Except (List Problem) (List Column)

/-- The columns that a list of descriptions gives. -/
def GivenColumns.ofJson (items : List Json) : GivenColumns :=
  items.mapM Column.ofJson

end TableFormula
