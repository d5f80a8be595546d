import TableFormula.Json.Basic
import TableFormula.Json.Quoted
import TableFormula.Number.Notation

/-!
# Writing structured data

The text is compact: no blank outside quotes.  A fraction always shows a point or an exponent, so it
reads back as a fraction; a number that is none, or infinite, is written as no value.
-/

namespace TableFormula.Json

open Number

mutual

/-- The text of a piece of data. -/
def chars : Json → List Char
  | null => ['n', 'u', 'l', 'l']
  | bool true => ['t', 'r', 'u', 'e']
  | bool false => ['f', 'a', 'l', 's', 'e']
  | integer n => integerText n
  | float x =>
    match kind x with
    | .finite d => logNotation.fraction d
    | _ => ['n', 'u', 'l', 'l']
  | string s => quoted s.toList
  | array [] => ['[', ']']
  | array (item :: items) => '[' :: item.chars ++ charsAll items
  | object [] => ['{', '}']
  | object ((key, value) :: members) =>
    '{' :: quoted key.toList ++ ':' :: value.chars ++ charsMembers members

/-- The text of the further items of an array, up to its end. -/
def charsAll : List Json → List Char
  | [] => [']']
  | item :: items => ',' :: item.chars ++ charsAll items

/-- The text of the further members of an object, up to its end. -/
def charsMembers : List (String × Json) → List Char
  | [] => ['}']
  | (key, value) :: members =>
    ',' :: quoted key.toList ++ ':' :: value.chars ++ charsMembers members

end

/-- The text of a piece of data, on one line. -/
def render (data : Json) : String :=
  String.ofList data.chars

end TableFormula.Json
