import TableFormula.Log.Raised
import TableFormula.Log.Template

/-!
# Messages with arguments

A message is a template, unless it has no arguments: then it stands as it is.  One object with
members that comes as the only argument gives its members too, and so does any piece of data that
takes the place of the arguments.
-/

namespace TableFormula.Log

/-- The arguments of a message: several, or one piece of data that also gives its members. -/
inductive Arguments where
  | several (items : List Json)
  | single (data : Json)

namespace Arguments

/-- Arguments as they are listed. -/
def ofList : List Json → Arguments
  | [.object (member :: members)] => single (.object (member :: members))
  | items => several items

/-- What the arguments supply; nothing, if there are none. -/
def supply? : Arguments → Option Supply
  | several [] => none
  | several items => some (.ofArguments items)
  | single data => if data.isEmpty then none else some (.ofDatum data)

/-- The arguments as they fill a place. -/
def filling : Arguments → Filling
  | several items => .other (Raised.bracketed? items)
  | single data => .data data

end Arguments

/-- A message with its arguments. -/
def messageText (message : Json) (arguments : Arguments) : Except TemplateFault String := do
  let template ← (Filling.data message).text
  match arguments.supply? with
  | none => return String.ofList template
  | some supply => fillTemplate (String.ofList template) supply

end TableFormula.Log
