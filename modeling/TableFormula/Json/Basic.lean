/-!
# Structured data

Values as they stand in settings, in descriptions of columns and in log lines.  The members of an
object keep their order, and whole numbers are kept apart from fractions.
-/

namespace TableFormula

/-- A piece of structured data. -/
inductive Json where
  | null
  | bool (b : Bool)
  | integer (n : Int)
  | float (x : Float)
  | string (s : String)
  | array (items : List Json)
  | object (members : List (String × Json))
deriving Repr, Inhabited

namespace Json

/-- The member of an object with a key: the last one, if the key is repeated. -/
def member? (key : String) : Json → Option Json
  | object members => (members.reverse.find? (·.1 == key)).map (·.2)
  | _ => none

/-- Whether data say nothing: no value, a `false`, a zero, or a text, list or object without
content. -/
def isEmpty : Json → Bool
  | null => true
  | bool b => !b
  | integer n => n == 0
  | float x => x == 0.0
  | string s => s.isEmpty
  | array items => items.isEmpty
  | object members => members.isEmpty

/-- Some data, or others in their place if they say nothing. -/
def orElse (data other : Json) : Json :=
  if data.isEmpty then other else data

/-- An object of some members, without those that are absent. -/
def ofMembers (members : List (String × Option Json)) : Json :=
  object (members.filterMap fun (key, value) => value.map (key, ·))

end Json

end TableFormula
