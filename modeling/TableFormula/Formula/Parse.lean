import TableFormula.Token.Scan

/-!
# From tokens to formulas

The grammar has nine levels, loosest first:

    disjunction     conjunction ( OR( expression, … ) )*
    conjunction     comparison ( AND( expression, … ) )*
    comparison      sum ( (= | <> | < | > | <= | >=) sum )*
    sum             product ( (+ | - | &) product )*
    product         power ( (* | / | %) power )*
    power           operand ( ^ operand )*
    operand         - operand | NOT( expression ) | primary
    primary         number | string | reference | IF( e, e, e ) | NAME( e, … ) | ( expression )

Every level groups to the left.  `x AND(y)` is another way to write `AND(x, y)`, and likewise for
`OR`.  What follows one complete expression is not looked at.

## Nesting

A reader gets a bound on how deep brackets and signs may be nested.  A list of tokens is never
nested deeper than it is long, so with a large enough bound no formula is refused for its nesting.
-/

namespace TableFormula.Formula

/-! ## Readers -/

/-- Where and why a reader stops: what it needed and the tokens it had before it, or nesting below
the bound. -/
inductive Stop where
  | expected (kind : TokenKind) (rest : List Token)
  | unexpected (rest : List Token)
  | tooDeep
deriving DecidableEq, Repr

/-- A reader takes tokens from the front of a list and gives back the others. -/
abbrev Reader (α : Type) := List Token → Except Stop (α × List Token)

/-- Takes a token of a kind. -/
def expect (kind : TokenKind) : List Token → Except Stop (List Token)
  | [] => .error (.expected kind [])
  | token :: rest =>
    if token.lexeme.kind = kind then .ok rest else .error (.expected kind (token :: rest))

/-- Reads a part between brackets. -/
def bracketed {α : Type} (inner : Reader α) : Reader α := fun tokens => do
  let rest ← expect .openParen tokens
  let (value, rest) ← inner rest
  let rest ← expect .closeParen rest
  return (value, rest)

/-- Reads one item or more with commas between them; `fuel` bounds their number. -/
def commaList (item : Reader Formula) : (fuel : Nat) → Reader (List Formula)
  | 0, tokens => .error (.unexpected tokens)
  | fuel + 1, tokens => do
    let (first, rest) ← item tokens
    match rest with
    | ⟨.comma, _⟩ :: rest => do
      let (others, rest) ← commaList item fuel rest
      return (first :: others, rest)
    | rest => return ([first], rest)

/-- Reads one item or more with commas between them. -/
def items (item : Reader Formula) : Reader (List Formula) := fun tokens =>
  commaList item (tokens.length + 1) tokens

/-! ## Levels -/

/-- A way to go on from a formula: `none` where the tokens do not begin one. -/
abbrev Extension := Formula → List Token → Option (Except Stop (Formula × List Token))

/-- Goes on from a formula as long as there is a way; `fuel` bounds the number of times. -/
def extend (step : Extension) : (fuel : Nat) → Formula → Reader Formula
  | 0, left, tokens => .ok (left, tokens)
  | fuel + 1, left, tokens =>
    match step left tokens with
    | none => .ok (left, tokens)
    | some next => do
      let (left, rest) ← next
      extend step fuel left rest

/-- Reads a level: a formula of the next tighter level and all that it goes on with. -/
def leftward (step : Extension) (tighter : Reader Formula) : Reader Formula := fun tokens => do
  let (left, rest) ← tighter tokens
  extend step rest.length left rest

/-- Goes on with an operator of a level and its right operand. -/
def operatorStep (level : Level) (operand : Reader Formula) : Extension
  | left, ⟨.operator op, _⟩ :: rest =>
    if op.level? = some level then
      some ((operand rest).map fun (right, rest) => (binary op left right, rest))
    else none
  | _, _ => none

/-- Goes on with a connective and its further arguments. -/
def connectiveStep (name : String) (argument : Reader Formula) : Extension
  | left, ⟨.function word, _⟩ :: rest =>
    if word = name then
      some ((bracketed (items argument) rest).map fun (args, rest) =>
        (call name (left :: args), rest))
    else none
  | _, _ => none

/-- Reads a level of operators. -/
def operatorLevel (level : Level) (operand : Reader Formula) : Reader Formula :=
  leftward (operatorStep level operand) operand

/-- Reads an expression, given readers for operands and for the arguments of connectives. -/
def expressionOf (operand argument : Reader Formula) : Reader Formula :=
  leftward (connectiveStep "OR" argument) <|
  leftward (connectiveStep "AND" argument) <|
  operatorLevel .comparison <|
  operatorLevel .additive <|
  operatorLevel .multiplicative <|
  operatorLevel .power operand

/-! ## Operands -/

/-- Reads the three parts of a choice. -/
def choiceOf (part : Reader Formula) : Reader Formula :=
  bracketed fun tokens => do
    let (condition, rest) ← part tokens
    let rest ← expect .comma rest
    let (whenTrue, rest) ← part rest
    let rest ← expect .comma rest
    let (whenFalse, rest) ← part rest
    return (choose condition whenTrue whenFalse, rest)

/-- Reads the arguments of a call, of which there may be none. -/
def argumentsOf (argument : Reader Formula) : Reader (List Formula) :=
  bracketed fun tokens =>
    match tokens with
    | ⟨.closeParen, _⟩ :: _ => .ok ([], tokens)
    | _ => items argument tokens

/-- Reads what follows a name of the language. -/
def namedOf (name : String) (inner : Reader Formula) : Reader Formula := fun tokens =>
  if name = "NOT" then
    (bracketed inner tokens).map fun (operand, rest) => (unary .not operand, rest)
  else if name = "IF" then choiceOf inner tokens
  else (argumentsOf inner tokens).map fun (args, rest) => (call name args, rest)

mutual

/-- Reads an operand, nested at most `depth` deep. -/
def operand : (depth : Nat) → Reader Formula
  | 0, _ => .error .tooDeep
  | depth + 1, tokens =>
    match tokens with
    | ⟨.operator .subtract, _⟩ :: rest =>
      (operand depth rest).map fun (value, rest) => (unary .negate value, rest)
    | ⟨.function name, _⟩ :: rest => namedOf name (expression depth) rest
    | ⟨.number value, _⟩ :: rest => .ok (number value, rest)
    | ⟨.string value, _⟩ :: rest => .ok (text value, rest)
    | ⟨.columnRef name, _⟩ :: rest => .ok (column name, rest)
    | ⟨.identifier name, _⟩ :: rest => .ok (column name, rest)
    | ⟨.openParen, _⟩ :: _ => bracketed (expression depth) tokens
    | _ => .error (.unexpected tokens)

/-- Reads an expression, nested at most `depth` deep. -/
def expression : (depth : Nat) → Reader Formula
  | 0, _ => .error .tooDeep
  | depth + 1, tokens => expressionOf (operand depth) (expression depth) tokens

end

/-! ## Whole formulas -/

/-- What is wrong with a formula: the token kind that was needed, if it was one, and the token that
was there; or too deep nesting. -/
inductive SyntaxFault where
  | token (expected : Option TokenKind) (found : TokenKind) (position : Int)
  | tooDeep
deriving DecidableEq, Repr

/-- The text that describes what is wrong with a formula. -/
def SyntaxFault.message : SyntaxFault → String
  | token (some expected) found position =>
    "Expected " ++ expected.name ++ " but got " ++ found.name ++ " at position " ++
      toString position
  | token none found position =>
    "Unexpected token " ++ found.name ++ " at position " ++ toString position
  | tooDeep => "Formula is nested too deeply to parse"

/-- What is wrong where a reader stopped. -/
def Stop.fault (finish : Int) : Stop → SyntaxFault
  | expected kind (token :: _) => .token (some kind) token.lexeme.kind token.position
  | expected kind [] => .token (some kind) .finish finish
  | unexpected (token :: _) => .token none token.lexeme.kind token.position
  | unexpected [] => .token none .finish finish
  | tooDeep => .tooDeep

/-- How deep a formula may be nested; a pair of brackets counts twice.  This stands for the stack of
the interpreter, which is no part of the language: its reader makes several calls for a level and
stops at little more than a hundred brackets. -/
def nestingLimit : Nat := 1000

/-- The formula that a list of tokens begins with, nested at most `depth` deep. -/
def ofTokensWithin (depth : Nat) (list : TokenList) : Except SyntaxFault Formula :=
  match expression depth list.tokens with
  | .ok (formula, _) => .ok formula
  | .error stop => .error (stop.fault list.finish)

/-- The formula that a list of tokens begins with. -/
def ofTokens (list : TokenList) : Except SyntaxFault Formula :=
  ofTokensWithin nestingLimit list

/-- The formula that a text spells. -/
def parse (source : String) : Except SyntaxFault Formula :=
  ofTokens (scan source)

end TableFormula.Formula
