import TableFormula.Log.Line
import TableFormula.Text.Digit
import TableFormula.Text.Letter

/-!
# Log lines for people

A format is a template whose places name attributes of the record, such as `%(name)s` or
`%(levelname)-8s`.  The name of the level is coloured; the signs that switch the colour count for
its width.  An error follows on a line of its own, and so do the calls that led to the record.
-/

namespace TableFormula.Log

open Number Text

/-! ## Formats -/

/-- Whether a letter says how an attribute is shown. -/
def isConversion (c : Char) : Bool :=
  ['d', 'i', 'o', 'u', 'x', 'e', 'f', 'g', 'c', 'r', 's', 'a', '%'].contains c.toLower

/-- Whether a character may stand in the name of an attribute. -/
def isNameChar (c : Char) : Bool :=
  isLetter c || isDigit c || c == '_'

/-- What follows a width that may be left out. -/
def afterMeasure (cs : List Char) : List Char :=
  (readMeasure cs).2

/-- What follows a precision that may be left out, but not be empty. -/
def afterPrecision? : List Char → Option (List Char)
  | '.' :: cs =>
    match readMeasure cs with
    | (.absent, _) => none
    | (_, rest) => some rest
  | cs => some cs

/-- Whether a text begins with a place for an attribute. -/
def beginsSlot : List Char → Bool
  | '%' :: '(' :: cs =>
    let name := cs.takeWhile (· != ')')
    let rest := (cs.dropWhile (· != ')')).drop 1
    !name.isEmpty && name.all isNameChar &&
      match afterPrecision? (afterMeasure (rest.dropWhile isFlag)) with
      | some (c :: _) => isConversion c
      | _ => false
  | _ => false

/-- Whether a format has a place for an attribute.  One without shows nothing of a record. -/
def hasSlot : List Char → Bool
  | [] => false
  | c :: rest => beginsSlot (c :: rest) || hasSlot rest

/-- A format that can be used: one with a place for an attribute.  An empty one shows the message.
-/
def usable? (format : String) : Option String :=
  if format = "" then some "%(message)s"
  else if hasSlot format.toList then some format
  else none

/-- The format where none is asked for. -/
def standardFormat : String :=
  "%(asctime)s | %(levelname)-8s | %(name)s:%(funcName)s:%(lineno)d - %(message)s"

/-- Whether a text holds another. -/
def holds (part : List Char) : List Char → Bool
  | [] => part.isEmpty
  | c :: rest => part.isPrefixOf (c :: rest) || holds part rest

/-- Whether a format asks for the time. -/
def asksForTime (format : String) : Bool :=
  holds "%(asctime)".toList format.toList

/-! ## Colours -/

/-- The signs that switch to a colour. -/
def colour (code : String) : String :=
  "\x1b[" ++ code ++ "m"

/-- The signs for the colour of a level; levels without a name of their own have none. -/
def levelColour (levelName : String) : String :=
  match levelName with
  | "DEBUG" => colour "36"
  | "INFO" => colour "32"
  | "WARNING" => colour "33"
  | "ERROR" => colour "31"
  | "CRITICAL" => colour "35"
  | _ => colour "0"

/-- The name of a level in its colour.  Lists and objects are no names. -/
def colouredLevel (levelName : Json) : Except LineFault String :=
  match levelName with
  | .array _ | .object _ => .error .colour
  | .string name => .ok (levelColour name ++ name ++ colour "0")
  | other =>
    if other.hasText then .ok (colour "0" ++ other.shown ++ colour "0") else .error .tooManyDigits

/-! ## Lines -/

/-- Attributes that every record has and that say nothing of what happened.  Threads go by an
address, so their numbers are beyond those of characters. -/
def Record.surroundings : List (String × Json) :=
  [("process", .integer 0), ("processName", .string "MainProcess"),
    ("thread", .integer 0x7f0000000000), ("threadName", .string "MainThread"),
    ("relativeCreated", .float 0.0)]

/-- The attributes that a format may name, with the name of the level, the message and the time as
they are to be shown.  Further attributes go before the surroundings, and a record's own before
both. -/
def Record.toMembers (r : Record) (level message time : String) : List (String × Filling) :=
  let told : List (String × Json) :=
    [("message", .string message), ("asctime", .string time), ("name", r.logger),
      ("levelno", r.level), ("levelname", .string level), ("msg", r.message),
      ("pathname", r.origin.path), ("filename", r.origin.file), ("module", r.origin.moduleName),
      ("lineno", r.origin.line), ("funcName", r.origin.function), ("created", r.origin.created),
      ("msecs", r.origin.millis), ("exc_text", r.errorText), ("stack_info", r.stack)]
  (surroundings ++ r.attributes ++ told).map (fun (name, data) => (name, .data data)) ++
    [("args", r.arguments.filling), ("exc_info", r.error.filling)]

/-- Fills a format. -/
def Record.fillFormat (r : Record) (format level message time : String) :
    Except LineFault String :=
  (fillTemplate format (.ofMembers (r.toMembers level message time))).mapError .format

/-- Puts a further text on a line of its own behind a text, if there is one. -/
def append (text : String) (further : Json) : Except LineFault String :=
  match further with
  | .string more =>
    .ok (if more = "" then text
      else if text.toList.getLast? = some '\n' then text ++ more
      else text ++ "\n" ++ more)
  | other => if other.isEmpty then .ok text else .error .noText

/-- The text of the error: the one that is told beforehand, or else that of the error itself. -/
def Record.tellError (r : Record) : Except LineFault Json :=
  if r.errorText.isEmpty then
    r.error.text?.mapError .error |>.map fun text => (text.map .string).getD .null
  else .ok r.errorText

/-- A text for a record with its error and the calls that led to it. -/
def Record.complete (r : Record) (text : String) : Except LineFault String := do
  append (← append text (← r.tellError)) r.stack

/-- The line for a record in a format. -/
def Record.consoleLine (r : Record) (format : String) : Except LineFault String := do
  let level ← colouredLevel r.levelName
  let message ← r.text.mapError .message
  let time ← if asksForTime format then r.origin.timeText.mapError .time else pure ""
  let text ← r.fillFormat format level message time
  r.complete text

/-- The line for a record where no format is set: its message, without colours. -/
def Record.bareLine (r : Record) : Except LineFault String := do
  r.complete (← r.text.mapError .message)

end TableFormula.Log
