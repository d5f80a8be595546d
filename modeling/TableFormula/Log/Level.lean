import TableFormula.Json.Literal
import TableFormula.Number.BinaryFraction

/-!
# Log levels

A level is a number; five of them and the absence of a level have names.  Two levels have a second
name, by which they can be asked for but are never shown.  A record may hold any number as its
level.
-/

namespace TableFormula.Log

/-- The names by which levels can be asked for. -/
def levelNames : List (String × Int) :=
  [("CRITICAL", 50), ("FATAL", 50), ("ERROR", 40), ("WARNING", 30), ("WARN", 30), ("INFO", 20),
    ("DEBUG", 10), ("NOTSET", 0)]

/-- The level that a name asks for. -/
def levelOf? (name : String) : Option Int :=
  levelNames.lookup name

/-- The name of a level that has one. -/
def levelName? (level : Int) : Option String :=
  match level with
  | 50 => some "CRITICAL"
  | 40 => some "ERROR"
  | 30 => some "WARNING"
  | 20 => some "INFO"
  | 10 => some "DEBUG"
  | 0 => some "NOTSET"
  | _ => none

/-- The name under which a level is shown. -/
def levelName (level : Int) : String :=
  (levelName? level).getD ("Level " ++ toString level)

/-- The whole number that a piece of data equals. -/
def wholeNumber? : Json → Option Int
  | .integer n => some n
  | .bool b => some (if b then 1 else 0)
  | .float x =>
    match Number.kind x with
    | .finite d => if d.isWhole then some d.floor else none
    | _ => none
  | .null | .string _ | .array _ | .object _ => none

/-- What a record shows for the data in the place of its level: the name of a level, the level of a
name, or else the data. -/
def levelNameOf (data : Json) : Json :=
  match (wholeNumber? data).bind levelName?, data with
  | some name, _ => .string name
  | none, .string name =>
    match levelOf? name with
    | some level => .integer level
    | none => .string ("Level " ++ name)
  | none, data => .string ("Level " ++ data.shown)

/-- The level of the program's own notes. -/
def debugLevel : Int := 10

/-- The level that is in force where none is set. -/
def standardLevel : Int := 30

/-- A name that is shown asks for the level it is shown for. -/
theorem levelOf?_levelName {level : Int} (h : level ∈ levelNames.map (·.2)) :
    levelOf? (levelName level) = some level := by
  simp only [levelNames, List.map_cons, List.map_nil, List.mem_cons, List.not_mem_nil,
    or_false] at h
  rcases h with rfl | rfl | rfl | rfl | rfl | rfl | rfl | rfl <;> decide

end TableFormula.Log
