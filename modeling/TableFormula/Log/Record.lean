import TableFormula.Calendar.Epoch
import TableFormula.Log.Level
import TableFormula.Log.Message
import TableFormula.Number.BinaryFraction

/-!
# Log records

A record says what happened, where and when.  Besides the attributes of its own it may carry others;
what they are called decides what becomes of them.  One with the name of an attribute of the record
itself takes its place, whatever data it is; and one that begins with an underscore is never shown
as data.

Where a record came from is told by its origin: file, line, function, and the moment, which is a
number of seconds since 1970 with its thousandths counted apart.  Times are told as universal time:
the zone of the clock is assumed to be that one.
-/

namespace TableFormula.Log

open Number

/-! ## Origins -/

/-- Where and when something was logged. -/
structure Origin where
  path : Json
  file : Json
  moduleName : Json
  line : Json
  function : Json
  /-- Seconds since the beginning of 1970. -/
  created : Json
  millis : Json

namespace Origin

/-- The name of the file at the end of a path. -/
def fileOf (path : String) : String :=
  String.ofList (path.toList.reverse.takeWhile (· != '/')).reverse

/-- The name of a module: that of its file, without the ending.  Points in front begin no ending. -/
def moduleOf (file : String) : String :=
  let dots := file.toList.takeWhile (· == '.')
  let name := file.toList.dropWhile (· == '.')
  let stem := if name.contains '.' then (name.reverse.dropWhile (· != '.')).tail.reverse else name
  String.ofList (dots ++ stem)

/-- The origin at a line of a file. -/
def ofPath (path : String) (line function created millis : Json) : Origin :=
  ⟨.string path, .string (fileOf path), .string (moduleOf (fileOf path)), line, function, created,
    millis⟩

/-- An origin about which nothing is known.  Moments are fractions. -/
def unknown : Origin :=
  ofPath "" (.integer 0) .null (.float 0.0) (.float 0.0)

end Origin

/-! ## Times -/

/-- Why the moment of a record cannot be told. -/
inductive TimeFault where
  /-- Data that are no number. -/
  | noNumber
  /-- A number without a value. -/
  | noValue
  | epoch (trouble : Epoch.Trouble)
deriving DecidableEq, Repr

/-- The last whole second that is not after a number of seconds. -/
def wholeSeconds : Json → Except TimeFault Int
  | .integer n => .ok n
  | .bool b => .ok (if b then 1 else 0)
  | .float x =>
    match kind x with
    | .finite d => .ok d.floor
    | .infinite _ => .error (.epoch .outOfRange)
    | .nan => .error .noValue
  | .null | .string _ | .array _ | .object _ => .error .noNumber

/-- The date and time of day of an origin, without fraction, where local time is universal time. -/
def Origin.timeText (o : Origin) : Except TimeFault String := do
  let seconds ← wholeSeconds o.created
  match Epoch.text seconds with
  | .ok text => return String.ofList text
  | .error trouble => throw (.epoch trouble)

/-! ## Records -/

/-- A log record. -/
structure Record where
  logger : Json
  level : Json
  levelName : Json
  message : Json
  arguments : Arguments
  origin : Origin
  error : ErrorSlot
  /-- The text of the error, where it is told beforehand. -/
  errorText : Json
  /-- The calls that led to the record, as text. -/
  stack : Json
  /-- Further attributes, in the order in which they were set. -/
  attributes : List (String × Json)

namespace Record

/-- A record without error or further attributes. -/
def plain (logger : String) (level message : Json) (arguments : List Json) (origin : Origin) :
    Record :=
  ⟨.string logger, level, levelNameOf level, message, .ofList arguments, origin, .empty, .null,
    .null, []⟩

/-- The names that the attributes of a record itself go by. -/
def ownNames : List String :=
  ["name", "msg", "args", "created", "filename", "funcName", "levelname", "levelno", "lineno",
    "module", "msecs", "pathname", "process", "processName", "relativeCreated", "stack_info",
    "exc_info", "exc_text", "thread", "threadName"]

/-- Names that are kept for the text of a record. -/
def textNames : List String :=
  ["message", "asctime"]

/-- Whether an attribute is data: it has no name of a record's own and does not begin with an
underscore. -/
def isData (name : String) : Bool :=
  !ownNames.contains name && name != "taskName" && name != "message" &&
    name.toList.head? != some '_'

/-- Sets an attribute, in its place if it is there already. -/
def setAttribute (name : String) (value : Json) :
    List (String × Json) → List (String × Json)
  | [] => [(name, value)]
  | (other, old) :: rest =>
    if other = name then (name, value) :: rest
    else (other, old) :: setAttribute name value rest

/-- The record with an attribute set: one of its own, or a further one. -/
def withAttribute (r : Record) (name : String) (value : Json) : Record :=
  match name with
  | "name" => { r with logger := value }
  | "levelno" => { r with level := value }
  | "levelname" => { r with levelName := value }
  | "msg" => { r with message := value }
  | "args" => { r with arguments := .single value }
  | "pathname" => { r with origin := { r.origin with path := value } }
  | "filename" => { r with origin := { r.origin with file := value } }
  | "module" => { r with origin := { r.origin with moduleName := value } }
  | "lineno" => { r with origin := { r.origin with line := value } }
  | "funcName" => { r with origin := { r.origin with function := value } }
  | "created" => { r with origin := { r.origin with created := value } }
  | "msecs" => { r with origin := { r.origin with millis := value } }
  | "exc_info" => { r with error := .data value }
  | "exc_text" => { r with errorText := value }
  | "stack_info" => { r with stack := value }
  | _ => { r with attributes := setAttribute name value r.attributes }

/-- The record with attributes set one after the other. -/
def withAttributes (r : Record) (attributes : List (String × Json)) : Record :=
  attributes.foldl (fun r (name, value) => r.withAttribute name value) r

/-- The further attributes that are data. -/
def data (r : Record) : List (String × Json) :=
  r.attributes.filter fun (name, _) => isData name

/-- The message with its arguments. -/
def text (r : Record) : Except TemplateFault String :=
  messageText r.message r.arguments

end Record

end TableFormula.Log
