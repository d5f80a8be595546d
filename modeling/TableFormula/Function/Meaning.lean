import TableFormula.Function.Choice
import TableFormula.Function.Date
import TableFormula.Function.Logic
import TableFormula.Function.Math
import TableFormula.Function.Name
import TableFormula.Function.Rule
import TableFormula.Function.Text
import TableFormula.Function.Total

/-!
# What the functions mean

The one table that gives every function its meaning.  Functions of values evaluate all their
arguments, from left to right, before they look at how many there are.  Deferred functions are given
the evaluators of their arguments.
-/

namespace TableFormula

/-- The meaning of a function. -/
inductive Meaning where
  | ofValues (rule : Rule)
  | deferred (run : List Evaluator → Evaluator)

namespace Function

/-- The current date or moment; arguments are not looked at. -/
def fromClock (text : Moment → List Char) (_ : List Evaluator) : Evaluator := fun c => do
  return textOf (text (← c.clock.now.toUniversal))

/-- The meaning of a function, where everyday dates are read by a reader. -/
def meaning (reader : Everyday.Reader) (f : Function) : Meaning :=
  match f with
  | sum => .deferred (totalOf f.name fun xs => .ok (sumOf xs))
  | average => .deferred (totalOf f.name (nonempty f.name meanOf))
  | minimum => .deferred (totalOf f.name (nonempty f.name leastOf))
  | maximum => .deferred (totalOf f.name (nonempty f.name greatestOf))
  | count => .deferred countRows
  | distinct => .deferred (countTexts f.name)
  | switch => .deferred (switchOn f.name)
  | coalesce => .deferred firstFilled
  | today => .deferred (fromClock (·.date.isoText))
  | now => .deferred (fromClock Moment.milliText)
  | concatenate | concat => .ofValues (.any joined)
  | left => .ofValues (.oneOrTwo (.integer 1) leftPart)
  | right => .ofValues (.oneOrTwo (.integer 1) rightPart)
  | mid => .ofValues (.three middlePart)
  | length => .ofValues (.one (ofText fun s => .integer s.length))
  | upper => .ofValues (.one (ofText fun s => .text (Text.upper s)))
  | lower => .ofValues (.one (ofText fun s => .text (Text.lower s)))
  | trim => .ofValues (.one (ofText fun s => textOf (Text.trim s.toList)))
  | replace => .ofValues (.four replacePart)
  | substitute => .ofValues (.three replaceAll)
  | round => .ofValues (.oneOrTwo (.integer 0) (roundTo nearest))
  | floor => .ofValues (.oneOrTwo (.integer 0) (roundTo Number.floor))
  | ceil | ceiling => .ofValues (.oneOrTwo (.integer 0) (roundTo Number.ceil))
  | abs => .ofValues (.one (ofNumber fun x => .ok x.abs))
  | power | pow => .ofValues (.two (ofNumbers Number.power))
  | sqrt => .ofValues (.one (ofNumber Number.squareRoot))
  | mod => .ofValues (.two (ofNumbers Number.remainder))
  | log => .ofValues (.one (ofNumber (Number.logarithm Float.log)))
  | log10 => .ofValues (.one (ofNumber (Number.logarithm Float.log10)))
  | exp => .ofValues (.one (ofNumber Number.exponential))
  | year => .ofValues (.one (datePart reader Date.year))
  | month => .ofValues (.one (datePart reader Date.month))
  | day => .ofValues (.one (datePart reader Date.day))
  | dateDiff => .ofValues (.two (daysBetween reader))
  | dateAdd => .ofValues (.twoOrThree (.text "days") (shiftDate reader))
  | text => .ofValues (.one (ofText .text))
  | value | float => .ofValues (.one (ofNumber .ok))
  | int => .ofValues (.one toInteger)
  | and => .ofValues (.any fun args => (allTrue args).map ofTruth)
  | or => .ofValues (.any fun args => (anyTrue args).map ofTruth)
  | constTrue => .ofValues (.constant (ofTruth true))
  | constFalse => .ofValues (.constant (ofTruth false))

/-- The value of a function for given arguments; a deferred function is given none. -/
def applyTo? (reader : Everyday.Reader) (f : Function) (args : List Value) :
    Option (Except Fault Value) :=
  match f.meaning reader with
  | .ofValues rule => some (rule.apply f.name args)
  | .deferred _ => none

theorem isSome_applyTo? (reader : Everyday.Reader) (f : Function) (args : List Value) :
    (f.applyTo? reader args).isSome = !f.isDeferred := by
  cases f <;> rfl

/-- The meaning of a call. -/
def call (f : Function) (args : List Evaluator) : Evaluator := fun c =>
  match f.meaning c.clock.everyday with
  | .deferred run => run args c
  | .ofValues rule => do rule.apply f.name (← args.mapM (· c))

end Function

/-- The meaning of a call by name. -/
def Evaluator.ofCall (name : String) (args : List Evaluator) : Evaluator :=
  match Function.ofName? name with
  | some f => f.call args
  | none => fun _ => .error (.unknownFunction name)

end TableFormula
