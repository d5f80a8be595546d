import TableFormula.Log.Template

/-!
# Errors in log lines

An error is told by its class and what it was raised with.  Where what it was raised with cannot be
shown, a remark stands for it.  A record may hold any piece of data in the place of its error: what
says nothing is no error, and the only other data that can be told are three parts of which the last
two are absent.
-/

namespace TableFormula.Log

/-- An error: its class and what it was raised with. -/
structure Raised where
  name : String
  arguments : List Json

namespace Raised

/-- Several pieces of data in literal notation, one after the other. -/
def listed (items : List Json) : String :=
  String.intercalate ", " (items.map fun item => String.ofList item.literal)

/-- Several pieces of data in brackets. -/
def bracketed (items : List Json) : String :=
  match items with
  | [item] => "(" ++ listed [item] ++ ",)"
  | items => "(" ++ listed items ++ ")"

/-- Several pieces of data in brackets, if all of them can be shown. -/
def bracketed? (items : List Json) : Option String :=
  if items.all Json.hasText then some (bracketed items) else none

/-- What stands for the text of an error that has none. -/
def noText : String := "<exception str() failed>"

/-- The text of an error without its class.  A key that was not found is in literal notation. -/
def message (raised : Raised) : String :=
  if raised.arguments.all Json.hasText then
    match raised.arguments with
    | [] => ""
    | [argument] =>
      if raised.name = "KeyError" then String.ofList argument.literal else argument.shown
    | arguments => bracketed arguments
  else noText

/-- An error in literal notation, if it can be shown: its class, applied to what it was raised with.
-/
def literal? (raised : Raised) : Option String :=
  if raised.arguments.all Json.hasText then
    some (raised.name ++ "(" ++ listed raised.arguments ++ ")")
  else none

/-- The text of an error: its class, and behind a colon what else there is. -/
def text (raised : Raised) : String :=
  if raised.message = "" then raised.name
  else raised.name ++ ": " ++ raised.message

end Raised

/-- Why data in the place of an error cannot be told. -/
inductive RaisedFault where
  /-- Data without parts. -/
  | noParts
  /-- Fewer than three parts. -/
  | tooFewParts
  /-- Parts that have names. -/
  | namedParts
  /-- Parts that are no error. -/
  | noError
deriving DecidableEq, Repr

/-- What a record holds in the place of its error. -/
inductive ErrorSlot where
  | empty
  | raised (raised : Raised)
  /-- An error was asked for and there was none. -/
  | missing
  | data (data : Json)

namespace ErrorSlot

/-- The text of three parts without an error. -/
def noErrorText : String := "NoneType: None"

/-- The text of data in the place of an error. -/
def textOfData : Json → Except RaisedFault String
  | .array (_ :: .null :: .null :: _) => .ok noErrorText
  | .array (_ :: _ :: _ :: _) => .error .noError
  | .array _ => .error .tooFewParts
  | .string s => if s.length < 3 then .error .tooFewParts else .error .noError
  | .object _ => .error .namedParts
  | .null | .bool _ | .integer _ | .float _ => .error .noParts

/-- The text of what stands in the place of the error, if there is an error. -/
def text? : ErrorSlot → Except RaisedFault (Option String)
  | empty => .ok none
  | raised r => .ok (some r.text)
  | missing => .ok (some noErrorText)
  | data d => if d.isEmpty then .ok none else (textOfData d).map some

/-- What stands in the place of the error, as it fills a place.  An error has three parts: its
class, itself, and the calls that led to it, which are not known. -/
def filling : ErrorSlot → Filling
  | empty => .data .null
  | raised r => .other (r.literal?.map fun error =>
      "(<class '" ++ r.name ++ "'>, " ++ error ++ ", None)")
  | missing => .other (some "(None, None, None)")
  | data d => .data d

end ErrorSlot

end TableFormula.Log
