import TableFormula.Formula.Parse
import TableFormula.Json.Literal

/-!
# Reports of errors

An error is reported by its class, a message, a code for programs and details.  Classes are nested:
what is said of a class holds of those below it.  A class without a code of its own lends its name.

Arithmetic faults and nesting too deep to read have no report: they are told by their cause alone.
-/

namespace TableFormula

/-- The classes of errors. -/
inductive ErrorClass where
  | general
  | formula
  | reading
  | evaluation
  | unknownColumn
  | unknownFunction
  | tooDeep
deriving DecidableEq, Repr

namespace ErrorClass

/-- The name of a class. -/
def name : ErrorClass → String
  | general => "DashCalcException"
  | formula => "FormulaError"
  | reading => "FormulaSyntaxError"
  | evaluation => "FormulaEvaluationError"
  | unknownColumn => "UnknownColumnError"
  | unknownFunction => "UnknownFunctionError"
  | tooDeep => "EvaluationDepthError"

/-- All classes. -/
def all : List ErrorClass :=
  [general, formula, reading, evaluation, unknownColumn, unknownFunction, tooDeep]

/-- The class with a name. -/
def ofName? (name : String) : Option ErrorClass :=
  all.find? (·.name == name)

/-- A class and those above it, from itself upwards. -/
def lineage : ErrorClass → List ErrorClass
  | general => [general]
  | formula => [formula, general]
  | reading => [reading, formula, general]
  | evaluation => [evaluation, formula, general]
  | unknownColumn => [unknownColumn, evaluation, formula, general]
  | unknownFunction => [unknownFunction, evaluation, formula, general]
  | tooDeep => [tooDeep, evaluation, formula, general]

/-- The code of a class: its name, unless it has one of its own. -/
def code : ErrorClass → String
  | reading => "FORMULA_SYNTAX_ERROR"
  | evaluation => "FORMULA_EVALUATION_ERROR"
  | unknownColumn => "UNKNOWN_COLUMN"
  | unknownFunction => "UNKNOWN_FUNCTION"
  | tooDeep => "EVALUATION_DEPTH_EXCEEDED"
  | other => other.name

@[simp] theorem ofName?_name (c : ErrorClass) : ofName? c.name = some c := by
  cases c <;> decide

end ErrorClass

/-- A report of an error.  Whoever raises an error may give any data for its parts. -/
structure Report where
  errorClass : ErrorClass
  message : Json
  code : Json
  details : Json
deriving Repr

namespace Report

/-- A report with the code of its class. -/
def ofClass (errorClass : ErrorClass) (message details : Json) : Report :=
  ⟨errorClass, message, .string errorClass.code, details⟩

/-- A report of a formula that cannot be read. -/
def unreadable (message tokenKind position : Json) : Report :=
  ofClass .reading message (.object [("token_kind", tokenKind), ("position", position)])

/-- A report of a reference that names no column. -/
def unknownColumn (name : Json) : Report :=
  ofClass .unknownColumn (.string (Fault.unknownColumn name.shown).message)
    (.object [("column_name", name)])

/-- A report of a call of a name that is no function. -/
def unknownFunction (name : Json) : Report :=
  ofClass .unknownFunction (.string (Fault.unknownFunction name.shown).message)
    (.object [("function_name", name)])

/-- A report of nesting below a limit. -/
def tooDeep (limit : Json) : Report :=
  ofClass .tooDeep (.string (Fault.nestingMessage limit.shown)) (.object [("max_depth", limit)])

/-- A report of a failed evaluation; details that say nothing are none. -/
def evaluation (message details : Json) : Report :=
  ofClass .evaluation message (details.orElse (.object []))

/-- A report of a class that words nothing itself: a code that says nothing is the name of the
class. -/
def plain (errorClass : ErrorClass) (message code details : Json) : Report :=
  ⟨errorClass, message, code.orElse (.string errorClass.name), details.orElse (.object [])⟩

/-- A report of a class from what is given for it: a name or a limit for the classes that word
their message themselves, otherwise a message and what else the class has room for. -/
def ofParts? : ErrorClass → List Json → Option Report
  | .reading, [message, kind, position] => some (unreadable message kind position)
  | .evaluation, [message] => some (evaluation message .null)
  | .evaluation, [message, details] => some (evaluation message details)
  | .unknownColumn, [name] => some (unknownColumn name)
  | .unknownFunction, [name] => some (unknownFunction name)
  | .tooDeep, [limit] => some (tooDeep limit)
  | .reading, _ | .evaluation, _ | .unknownColumn, _ | .unknownFunction, _ | .tooDeep, _ => none
  | c, [message] => some (plain c message .null .null)
  | c, [message, code] => some (plain c message code .null)
  | c, [message, code, details] => some (plain c message code details)
  | _, _ => none

/-- A report of a fault of evaluation with its details. -/
def ofEvaluation (fault : Fault) (details : List (String × Json)) : Report :=
  evaluation (.string fault.message) (.object details)

/-- The report of a fault; arithmetic faults have none. -/
def ofFault? (fault : Fault) : Option Report :=
  match fault with
  | .divisionByZero | .noValue _ | .outOfRange _ | .signalling | .tooManyDigits => none
  | .tooDeep limit => some (tooDeep (.integer limit))
  | .unknownColumn name => some (unknownColumn (.string name))
  | .unknownFunction name => some (unknownFunction (.string name))
  | .missingArgument function _ given | .wrongCount function given =>
    some (ofEvaluation fault [("function", .string function), ("arguments", .integer given)])
  | .unknownUnit unit => some (ofEvaluation fault [("unit", .string unit)])
  | .noRows _ | .unknownOperator _ | .unknownSign _ | .hole => some (ofEvaluation fault [])

/-- The report of a formula that cannot be read; nesting too deep has none. -/
def ofSyntaxFault? (fault : Formula.SyntaxFault) : Option Report :=
  match fault with
  | .token _ found position =>
    some (unreadable (.string fault.message) (.string found.name) (.integer position))
  | .tooDeep => none

/-- The text of a report: its message, as it stands in other texts. -/
def text (report : Report) : String :=
  report.message.shown

/-- A report as structured data. -/
def toJson (report : Report) : Json :=
  .object [("error", .object [("code", report.code), ("message", report.message),
    ("details", report.details)])]

end Report

end TableFormula
