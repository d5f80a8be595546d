/-!
# The functions of the language

The table of functions is closed: every name that the language knows is listed here with its
category.  Two of the names, `IF` and `NOT`, belong to the grammar and are never called; the others
are the constructors of `Function`.

A function is *deferred* when it evaluates its arguments itself: totals do so once for every row of
the table, and choices leave some of them out.  The others are given values.
-/

namespace TableFormula

/-- The groups of functions. -/
inductive Category where
  | aggregation
  | conditional
  | text
  | math
  | date
  | conversion
  | logical
deriving DecidableEq, Repr

/-- The word for a category. -/
def Category.name : Category → String
  | aggregation => "aggregation"
  | conditional => "conditional"
  | text => "text"
  | math => "math"
  | date => "date"
  | conversion => "conversion"
  | logical => "logical"

/-- The functions that can be called. -/
inductive Function where
  | sum | average | count | minimum | maximum | distinct
  | switch | coalesce
  | concatenate | concat | left | right | mid | length | upper | lower | trim | replace | substitute
  | round | floor | ceil | ceiling | abs | power | pow | sqrt | mod | log | log10 | exp
  | year | month | day | today | now | dateDiff | dateAdd
  | text | value | int | float
  | and | or | constTrue | constFalse
deriving DecidableEq, Repr

namespace Function

/-- The name by which a function is called. -/
def name : Function → String
  | sum => "SUM"
  | average => "AVG"
  | count => "COUNT"
  | minimum => "MIN"
  | maximum => "MAX"
  | distinct => "DISTINCT"
  | switch => "SWITCH"
  | coalesce => "COALESCE"
  | concatenate => "CONCATENATE"
  | concat => "CONCAT"
  | left => "LEFT"
  | right => "RIGHT"
  | mid => "MID"
  | length => "LEN"
  | upper => "UPPER"
  | lower => "LOWER"
  | trim => "TRIM"
  | replace => "REPLACE"
  | substitute => "SUBSTITUTE"
  | round => "ROUND"
  | floor => "FLOOR"
  | ceil => "CEIL"
  | ceiling => "CEILING"
  | abs => "ABS"
  | power => "POWER"
  | pow => "POW"
  | sqrt => "SQRT"
  | mod => "MOD"
  | log => "LOG"
  | log10 => "LOG10"
  | exp => "EXP"
  | year => "YEAR"
  | month => "MONTH"
  | day => "DAY"
  | today => "TODAY"
  | now => "NOW"
  | dateDiff => "DATEDIFF"
  | dateAdd => "DATEADD"
  | text => "TEXT"
  | value => "VALUE"
  | int => "INT"
  | float => "FLOAT"
  | and => "AND"
  | or => "OR"
  | constTrue => "TRUE"
  | constFalse => "FALSE"

/-- The category of a function. -/
def category : Function → Category
  | sum | average | count | minimum | maximum | distinct => .aggregation
  | switch | coalesce => .conditional
  | concatenate | concat | left | right | mid | length | upper | lower | trim | replace
  | substitute => .text
  | round | floor | ceil | ceiling | abs | power | pow | sqrt | mod | log | log10 | exp => .math
  | year | month | day | today | now | dateDiff | dateAdd => .date
  | text | value | int | float => .conversion
  | and | or | constTrue | constFalse => .logical

/-- Whether a function evaluates its arguments itself. -/
def isDeferred : Function → Bool
  | sum | average | count | minimum | maximum | distinct | switch | coalesce | today | now => true
  | _ => false

/-- All functions. -/
def all : List Function :=
  [sum, average, count, minimum, maximum, distinct, switch, coalesce, concatenate, concat, left,
    right, mid, length, upper, lower, trim, replace, substitute, round, floor, ceil, ceiling, abs,
    power, pow, sqrt, mod, log, log10, exp, year, month, day, today, now, dateDiff, dateAdd, text,
    value, int, float, and, or, constTrue, constFalse]

/-- The function with a name. -/
def ofName? (name : String) : Option Function :=
  all.find? (·.name == name)

theorem mem_all (f : Function) : f ∈ all := by
  cases f <;> decide

@[simp] theorem ofName?_name (f : Function) : ofName? f.name = some f := by
  cases f <;> decide

theorem name_of_ofName? {name : String} {f : Function} (h : ofName? name = some f) :
    f.name = name := by
  simpa using List.find?_some h

end Function

/-! ## Names of the grammar -/

/-- The names of the grammar, with their categories. -/
def grammarNames : List (String × Category) :=
  [("IF", .conditional), ("NOT", .logical)]

/-- The category of a name of the language, in capital letters. -/
def categoryOf? (name : String) : Option Category :=
  ((Function.ofName? name).map Function.category).or (grammarNames.lookup name)

/-- Whether a word in capital letters is a name of the language. -/
def isFunctionName (name : String) : Bool :=
  (categoryOf? name).isSome

end TableFormula
