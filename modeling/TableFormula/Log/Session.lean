import TableFormula.Log.Console
import TableFormula.Text.Case

/-!
# Logging sessions

The loggers of the engine form a tree under one name.  A *setup* gives the tree a level, clears its
handlers and adds one of its own.  A record that is logged in the tree and reaches its level goes to
all handlers of the tree; a setup logs a record of its own.

Handlers print to the standard output.  What goes to the error output is a *report*: a record that
finds no handler at all is reported there from the level of a warning on, and where a record cannot
be laid out, the reason is.

## What a failed setup leaves behind

An unknown level is noticed before anything changes.  A format without a slot is noticed when the
level is set and the old handlers are gone.
-/

namespace TableFormula.Log

open Number Text

/-- The name of the tree of loggers. -/
def treeName : String := "dashcalc"

/-- Whether a logger belongs to the tree. -/
def inTree (logger : String) : Bool :=
  logger == treeName || (treeName ++ ".").toList.isPrefixOf logger.toList

/-- How a handler lays out records. -/
inductive Layout where
  | data
  | console (format : String)
deriving DecidableEq, Repr

/-- What prints records. -/
structure Handler where
  level : Int
  layout : Layout
deriving DecidableEq, Repr

/-- The state of the tree. -/
structure State where
  level : Int
  /-- What prints its records, in the order in which it was added. -/
  handlers : List Handler
deriving DecidableEq, Repr

namespace State

/-- The state before the first setup. -/
def initial : State :=
  ⟨0, []⟩

/-- The level that is in force: without a level of its own the tree has the standard one. -/
def effectiveLevel (s : State) : Int :=
  if s.level = 0 then standardLevel else s.level

/-- The number of handlers. -/
def handlerCount (s : State) : Nat :=
  s.handlers.length

/-- The tree with another level. -/
def withLevel (s : State) (level : Int) : State :=
  { s with level := level }

/-- The tree without handlers. -/
def clear (s : State) : State :=
  { s with handlers := [] }

/-- The tree with one more handler. -/
def add (s : State) (h : Handler) : State :=
  { s with handlers := s.handlers ++ [h] }

end State

/-- Why a step of a session fails. -/
inductive StepFault where
  /-- A level with too many digits for its name. -/
  | unnamedLevel
  /-- Data that are no text, in the place of the name of a level. -/
  | noLevelName
  | unknownLevel
  | unusableFormat
  /-- An attribute with the name of one that every record has. -/
  | nameTaken (name : String)
deriving DecidableEq, Repr

/-- What goes to the error output. -/
inductive Notice where
  /-- The text of a record that no handler was there for. -/
  | line (text : String)
  /-- Why a record was not laid out. -/
  | trouble (fault : LineFault)
deriving DecidableEq, Repr

/-- The state after a step, the texts that it printed, each with a line feed behind it, what it
reported, and whether it failed. -/
structure StepOutcome where
  state : State
  printed : List String
  reported : List Notice
  fault : Option StepFault

/-! ## Logging -/

/-- The line for a record in a layout. -/
def Layout.line (layout : Layout) (r : Record) : Except LineFault String :=
  match layout with
  | .data => r.line
  | .console format => r.consoleLine format

/-- The first further attribute that cannot be set. -/
def takenName? (attributes : List (String × Json)) : Option String :=
  (attributes.find? fun (name, _) =>
    Record.ownNames.contains name || Record.textNames.contains name).map (·.1)

/-- The error that is to be told with what is logged. -/
inductive AskedError where
  | absent
  | raised (raised : Raised)
  /-- The error at hand, where there is none. -/
  | missing

/-- The place of the error in a record. -/
def AskedError.slot : AskedError → ErrorSlot
  | absent => .empty
  | raised r => .raised r
  | missing => .missing

/-- What is logged. -/
structure Entry where
  logger : String
  level : Int
  message : Json
  arguments : List Json
  error : AskedError
  /-- The calls that led to the entry, if they are to be told. -/
  stack : Option String
  attributes : List (String × Json)

namespace Entry

/-- An entry that is a text and attributes. -/
def plain (logger : String) (level : Int) (text : String) (attributes : List (String × Json)) :
    Entry :=
  ⟨logger, level, .string text, [], .absent, none, attributes⟩

/-- The record of an entry without its attributes. -/
def bare (e : Entry) : Record :=
  { Record.plain e.logger (.integer e.level) e.message e.arguments .unknown with
    error := e.error.slot
    stack := (e.stack.map .string).getD .null }

/-- The record of an entry. -/
def record (e : Entry) : Record :=
  e.bare.withAttributes e.attributes

/-- Why no record can be made for an entry, if there is a reason. -/
def fault? (e : Entry) : Option StepFault :=
  if isShowable e.level then (takenName? e.attributes).map .nameTaken else some .unnamedLevel

end Entry

/-- What a handler prints for an entry; nothing, if the record cannot be laid out. -/
def Handler.print (h : Handler) (e : Entry) : List String :=
  if e.level < h.level then []
  else
    match h.layout.line e.record with
    | .ok line => [line]
    | .error _ => []

/-- What is reported when a handler prints an entry: why the record cannot be laid out. -/
def Handler.report (h : Handler) (e : Entry) : List Notice :=
  if e.level < h.level then []
  else
    match h.layout.line e.record with
    | .ok _ => []
    | .error fault => [.trouble fault]

/-- The level from which on entries without a handler are reported. -/
def lastLevel : Int := 30

/-- What is reported for an entry for which there is no handler. -/
def Entry.lastNotice (e : Entry) : List Notice :=
  if e.level < lastLevel then []
  else
    match e.record.bareLine with
    | .ok line => [.line line]
    | .error fault => [.trouble fault]

/-- Whether an entry is looked at.  Loggers outside the tree have the standard level. -/
def State.admits (s : State) (e : Entry) : Bool :=
  decide (0 < e.level) &&
    decide ((if inTree e.logger then s.effectiveLevel else standardLevel) ≤ e.level)

/-- The handlers for an entry.  Entries outside the tree reach none. -/
def State.handlersFor (s : State) (e : Entry) : List Handler :=
  if inTree e.logger then s.handlers else []

/-- Passes an entry to its handlers, or reports it if it has none. -/
def State.deliver (s : State) (e : Entry) : StepOutcome :=
  match s.handlersFor e with
  | [] => ⟨s, [], e.lastNotice, none⟩
  | handlers => ⟨s, handlers.flatMap (·.print e), handlers.flatMap (·.report e), none⟩

/-- Logs an entry. -/
def State.log (s : State) (e : Entry) : StepOutcome :=
  if s.admits e then
    match e.fault? with
    | some fault => ⟨s, [], [], some fault⟩
    | none => s.deliver e
  else ⟨s, [], [], none⟩

/-! ## Setting up -/

/-- What a setup asks for. -/
structure Setup where
  /-- The name of a level, in any case of letters. -/
  level : Json
  json : Bool
  format : Option String

namespace Setup

/-- The layout that is asked for. -/
def layout? (setup : Setup) : Option Layout :=
  if setup.json then some .data
  else
    match setup.format with
    | none | some "" => some (.console standardFormat)
    | some format => (usable? format).map .console

/-- The entry about a setup. -/
def entry (setup : Setup) : Entry :=
  .plain treeName debugLevel "Logging configured"
    [("log_level", setup.level), ("json_logs", .bool setup.json)]

/-- The level that is asked for. -/
def level? (setup : Setup) : Except StepFault Int :=
  match setup.level with
  | .string name =>
    match levelOf? (upper name) with
    | some level => .ok level
    | none => .error .unknownLevel
  | _ => .error .noLevelName

/-- Sets up the tree. -/
def run (setup : Setup) (s : State) : StepOutcome :=
  match setup.level? with
  | .error fault => ⟨s, [], [], some fault⟩
  | .ok level =>
    let cleared := (s.withLevel level).clear
    match setup.layout? with
    | none => ⟨cleared, [], [], some .unusableFormat⟩
    | some layout => (cleared.add ⟨level, layout⟩).log setup.entry

end Setup

/-! ## Sessions -/

/-- A step of a session. -/
inductive Step where
  | setup (setup : Setup)
  | log (entry : Entry)

/-- Takes a step. -/
def Step.run : Step → State → StepOutcome
  | setup asked, s => asked.run s
  | log entry, s => s.log entry

/-- Takes some steps one after the other. -/
def runSteps : State → List Step → List StepOutcome
  | _, [] => []
  | s, step :: rest => step.run s :: runSteps (step.run s).state rest

end TableFormula.Log
