/-!
# Why an evaluation fails

A formula that reads well may still have no value: a column or a function is not there, arguments
are missing, a number leaves its range, a date leaves the calendar.  Each cause is one constructor;
how a cause is worded for a reader is decided in one place, `Fault.message`.
-/

namespace TableFormula

/-- Where an operation has no value. -/
inductive Gap where
  /-- Outside the domain of a function, such as the root of a negative number. -/
  | domain
  /-- The whole number of what is no number. -/
  | whole
  /-- The double of a signalling decimal. -/
  | signalling
  /-- A year outside the calendar. -/
  | year (year : Int)
  /-- The text of a whole number with too many digits. -/
  | digits
deriving DecidableEq, Repr

/-- Which range a result leaves. -/
inductive Excess where
  /-- A power or an exponential beyond the doubles. -/
  | power
  /-- The whole number of an infinity. -/
  | whole
  /-- A whole number beyond the doubles. -/
  | double
  /-- A day or a moment outside the calendar. -/
  | calendar
  /-- A number of days by which nothing can be shifted. -/
  | days (days : Int)
  /-- A year that does not fit 32 bits. -/
  | year (year : Int)
deriving DecidableEq, Repr

/-- The causes for which a formula, a function or a reading of a value has no result. -/
inductive Fault where
  /-- Division by zero. -/
  | divisionByZero
  /-- An operation at an argument where it has no value. -/
  | noValue (gap : Gap)
  /-- A result that leaves a range. -/
  | outOfRange (excess : Excess)
  /-- A comparison with a signalling decimal. -/
  | signalling
  /-- A part of a time of day with more digits than can be worked with. -/
  | tooManyDigits
  /-- Nesting below the limit. -/
  | tooDeep (limit : Int)
  /-- A reference that names no column. -/
  | unknownColumn (name : String)
  /-- A call of a name that is no function. -/
  | unknownFunction (name : String)
  /-- A call with fewer arguments than the function evaluates. -/
  | missingArgument (function : String) (needed given : Nat)
  /-- A call with an argument count that the function does not accept. -/
  | wrongCount (function : String) (given : Nat)
  /-- A mean or an extremum over a table without rows. -/
  | noRows (function : String)
  /-- A date shift by a unit that is none. -/
  | unknownUnit (unit : String)
  /-- A binary operator outside the language. -/
  | unknownOperator (symbol : String)
  /-- A unary operator outside the language. -/
  | unknownSign (symbol : String)
  /-- A place in a tree where no formula stands. -/
  | hole
deriving DecidableEq, Repr

/-! ## Texts -/

/-- The most digits that a whole number may be shown with. -/
def digitLimit : Nat := 4300

/-- Whether a whole number fits a word of some bits, sign included. -/
def fitsBits (bits : Nat) (n : Int) : Bool :=
  -(Nat.pow 2 (bits - 1) : Int) ≤ n && n < Nat.pow 2 (bits - 1)

/-- The text of a gap. -/
def Gap.message : Gap → String
  | domain => "math domain error"
  | whole => "cannot convert float NaN to integer"
  | signalling => "cannot convert signaling NaN to float"
  | year n => "year " ++ toString n ++ " is out of range"
  | digits =>
    "Exceeds the limit (" ++ toString digitLimit ++ " digits) for integer string conversion; " ++
      "use sys.set_int_max_str_digits() to increase the limit"

/-- The text for a whole number that does not fit a word of a machine. -/
def Excess.wordMessage (word : String) : String :=
  "Python int too large to convert to C " ++ word

/-- The text of an excess. -/
def Excess.message : Excess → String
  | power => "math range error"
  | whole => "cannot convert float infinity to integer"
  | double => "int too large to convert to float"
  | calendar => "date value out of range"
  | days n =>
    if fitsBits 32 n then "days=" ++ toString n ++ "; must have magnitude <= 999999999"
    else wordMessage "int"
  | year n =>
    if fitsBits 64 n then
      if n < 0 then "signed integer is less than minimum"
      else "signed integer is greater than maximum"
    else wordMessage "long"

/-- The text for nesting below a limit. -/
def Fault.nestingMessage (limit : String) : String :=
  "Formula nesting exceeds maximum depth of " ++ limit

/-- The text that describes a cause. -/
def Fault.message : Fault → String
  | .divisionByZero => "float division by zero"
  | .noValue gap => gap.message
  | .outOfRange excess => excess.message
  | .signalling => "[<class 'decimal.InvalidOperation'>]"
  | .tooManyDigits => "[<class 'decimal.DivisionImpossible'>]"
  | .tooDeep limit => nestingMessage (toString limit)
  | .unknownColumn name => "Unknown column: " ++ name
  | .unknownFunction name => "Unknown function: " ++ name
  | .missingArgument function needed given =>
    function ++ " expects at least " ++ toString needed ++ " argument(s), got " ++ toString given
  | .wrongCount function _ => "Invalid arguments for " ++ function
  | .noRows function => function ++ " over an empty row set"
  | .unknownUnit unit => "Unknown DATEADD unit: " ++ unit
  | .unknownOperator symbol => "Unknown operator: " ++ symbol
  | .unknownSign symbol => "Unknown unary operator: " ++ symbol
  | .hole => "Unknown node type: NoneType"

/-- A computation in two steps has a value only if both steps have one. -/
theorem exists_of_bind_eq_ok {ε α β : Type} {x : Except ε α} {f : α → Except ε β} {b : β}
    (h : x >>= f = .ok b) : ∃ a, x = .ok a ∧ f a = .ok b := by
  cases x with
  | error fault => cases h
  | ok a => exact ⟨a, rfl, h⟩

theorem bind_eq_ok_iff {ε α β : Type} {x : Except ε α} {f : α → Except ε β} {b : β} :
    x >>= f = .ok b ↔ ∃ a, x = .ok a ∧ f a = .ok b := by
  refine ⟨exists_of_bind_eq_ok, ?_⟩
  rintro ⟨a, rfl, hb⟩
  exact hb

end TableFormula
