import TableFormula.Json.Basic
import TableFormula.Number.Notation
import TableFormula.Text.Printable

/-!
# Data in messages

Inside a message a text stands as it is, and every other piece of data in literal notation.  In
that notation texts are quoted, with the quote that needs no escape where there is one, and what
cannot be shown is written by its number.

A whole number with too many digits cannot be shown, and neither can data that hold one.
-/

namespace TableFormula.Json

open Number Text

/-- The hexadecimal digits of a number, at least `width` of them. -/
def hexPadded (width n : Nat) : List Char :=
  let digits := Nat.toDigits 16 n
  List.replicate (width - digits.length) '0' ++ digits

/-- A character as it stands in a literal with a given quote. -/
def literalChar (quote c : Char) : List Char :=
  if c = quote ∨ c = '\\' then ['\\', c]
  else if c = '\n' then ['\\', 'n']
  else if c = '\r' then ['\\', 'r']
  else if c = '\t' then ['\\', 't']
  else if isPrintable c then [c]
  else if c.toNat < 0x100 then '\\' :: 'x' :: hexPadded 2 c.toNat
  else if c.toNat < 0x10000 then '\\' :: 'u' :: hexPadded 4 c.toNat
  else '\\' :: 'U' :: hexPadded 8 c.toNat

/-- A text between quotes: double ones if it holds single ones only. -/
def literalText (cs : List Char) : List Char :=
  let quote := if cs.contains '\'' && !cs.contains '"' then '"' else '\''
  quote :: cs.flatMap (literalChar quote) ++ [quote]

mutual

/-- A piece of data in literal notation. -/
def literal : Json → List Char
  | null => ['N', 'o', 'n', 'e']
  | bool true => ['T', 'r', 'u', 'e']
  | bool false => ['F', 'a', 'l', 's', 'e']
  | integer n => integerText n
  | float x => (cellNotation.text ⟨"nan", "inf"⟩ x).toList
  | string s => literalText s.toList
  | array [] => ['[', ']']
  | array (item :: items) => '[' :: item.literal ++ literalItems items
  | object [] => ['{', '}']
  | object ((key, value) :: members) =>
    '{' :: literalText key.toList ++ ':' :: ' ' :: value.literal ++ literalMembers members

/-- The further items of an array, up to its end. -/
def literalItems : List Json → List Char
  | [] => [']']
  | item :: items => ',' :: ' ' :: item.literal ++ literalItems items

/-- The further members of an object, up to its end. -/
def literalMembers : List (String × Json) → List Char
  | [] => ['}']
  | (key, value) :: members =>
    ',' :: ' ' :: literalText key.toList ++ ':' :: ' ' :: value.literal ++ literalMembers members

end

mutual

/-- Whether a piece of data can be shown. -/
def hasText : Json → Bool
  | integer n => isShowable n
  | array items => haveTexts items
  | object members => membersHaveTexts members
  | null | bool _ | float _ | string _ => true

/-- Whether all items of an array can be shown. -/
def haveTexts : List Json → Bool
  | [] => true
  | item :: items => item.hasText && haveTexts items

/-- Whether all members of an object can be shown. -/
def membersHaveTexts : List (String × Json) → Bool
  | [] => true
  | (_, value) :: members => value.hasText && membersHaveTexts members

end

/-- A piece of data inside a message. -/
def shown : Json → String
  | string s => s
  | data => String.ofList data.literal

end TableFormula.Json
