/-!
# Formulas

A formula is a tree of literals, references to columns, operators, calls and choices.  A name of a
function and a sign of an operator stay as they are written: whether they mean something is settled
when the formula is evaluated, so trees from elsewhere may hold names and signs that the language
does not know, and places where no formula stands.
-/

namespace TableFormula

/-! ## Operators -/

/-- How tightly a binary operator binds, loosest first. -/
inductive Level where
  | comparison
  | additive
  | multiplicative
  | power
deriving DecidableEq, Repr

/-- The binary operators. -/
inductive Operator where
  | equal
  | unequal
  | less
  | greater
  | atMost
  | atLeast
  | add
  | subtract
  | join
  | multiply
  | divide
  | modulo
  | power
  /-- A sign that is no operator of the language. -/
  | other (symbol : String)
deriving DecidableEq, Repr

namespace Operator

/-- The sign of an operator. -/
def symbol : Operator → String
  | equal => "="
  | unequal => "<>"
  | less => "<"
  | greater => ">"
  | atMost => "<="
  | atLeast => ">="
  | add => "+"
  | subtract => "-"
  | join => "&"
  | multiply => "*"
  | divide => "/"
  | modulo => "%"
  | power => "^"
  | other symbol => symbol

/-- The operators of the language, those with longer signs first. -/
def all : List Operator :=
  [unequal, atMost, atLeast, equal, less, greater, add, subtract, join, multiply, divide, modulo,
    power]

/-- The operator with a sign. -/
def ofSymbol (symbol : String) : Operator :=
  (all.find? (·.symbol == symbol)).getD (other symbol)

/-- The level at which an operator binds; an unknown sign binds nowhere. -/
def level? : Operator → Option Level
  | equal | unequal | less | greater | atMost | atLeast => some .comparison
  | add | subtract | join => some .additive
  | multiply | divide | modulo => some .multiplicative
  | power => some .power
  | other _ => none

theorem ofSymbol_symbol {op : Operator} (h : op ∈ all) : ofSymbol op.symbol = op := by
  simp only [all, List.mem_cons, List.not_mem_nil, or_false] at h
  rcases h with rfl | rfl | rfl | rfl | rfl | rfl | rfl | rfl | rfl | rfl | rfl | rfl | rfl <;>
    decide

end Operator

/-- The operators on one operand. -/
inductive Sign where
  | negate
  | not
  /-- A word that is no operator of the language. -/
  | other (symbol : String)
deriving DecidableEq, Repr

namespace Sign

/-- The sign or word of an operator. -/
def symbol : Sign → String
  | negate => "-"
  | not => "NOT"
  | other symbol => symbol

/-- The operator with a sign or word. -/
def ofSymbol : String → Sign
  | "-" => negate
  | "NOT" => not
  | symbol => other symbol

end Sign

/-! ## Trees -/

/-- A formula. -/
inductive Formula where
  | number (value : Float)
  | text (value : String)
  /-- A reference by identifier or name, as written. -/
  | column (name : String)
  | binary (op : Operator) (left right : Formula)
  | unary (sign : Sign) (operand : Formula)
  | call (name : String) (args : List Formula)
  | choose (condition whenTrue whenFalse : Formula)
  /-- A place where no formula stands. -/
  | hole
deriving Repr, Inhabited

namespace Formula

/-! ## References -/

mutual

/-- The references of a formula, in the order in which they are written. -/
def references : Formula → List String
  | number _ | text _ | hole => []
  | column name => [name]
  | binary _ left right => left.references ++ right.references
  | unary _ operand => operand.references
  | call _ args => referencesAll args
  | choose condition whenTrue whenFalse =>
    condition.references ++ whenTrue.references ++ whenFalse.references

/-- The references of several formulas. -/
def referencesAll : List Formula → List String
  | [] => []
  | f :: rest => f.references ++ referencesAll rest

end

mutual

/-- The number of nodes on the longest way down a formula. -/
def height : Formula → Nat
  | number _ | text _ | column _ | hole => 1
  | binary _ left right => max left.height right.height + 1
  | unary _ operand => operand.height + 1
  | call _ args => heightAll args + 1
  | choose condition whenTrue whenFalse =>
    max condition.height (max whenTrue.height whenFalse.height) + 1

/-- The greatest height of several formulas. -/
def heightAll : List Formula → Nat
  | [] => 0
  | f :: rest => max f.height (heightAll rest)

end

/-- What a walk down a formula meets: a reference, or a node that lies too deep to be looked at. -/
inductive Visit where
  | reference (name : String)
  | tooDeep
deriving DecidableEq, Repr

mutual

/-- What a walk meets that looks at most `depth` nodes down, from left to right. -/
def visits : Formula → Nat → List Visit
  | _, 0 => [.tooDeep]
  | number _, _ + 1 | text _, _ + 1 | hole, _ + 1 => []
  | column name, _ + 1 => [.reference name]
  | binary _ left right, depth + 1 => left.visits depth ++ right.visits depth
  | unary _ operand, depth + 1 => operand.visits depth
  | call _ args, depth + 1 => visitsAll args depth
  | choose condition whenTrue whenFalse, depth + 1 =>
    condition.visits depth ++ whenTrue.visits depth ++ whenFalse.visits depth

/-- What a walk meets in several formulas. -/
def visitsAll : List Formula → Nat → List Visit
  | [], _ => []
  | f :: rest, depth => f.visits depth ++ visitsAll rest depth

end

end Formula

end TableFormula
