import TableFormula.Formula.Basic

/-!
# Tokens

The text of a formula is cut into tokens.  A token says what was read and where; positions count
characters from zero.  The end of the text is no token of the list: it is kept apart, because every
list of tokens has exactly one and nothing follows it.
-/

namespace TableFormula

/-- The kinds of tokens, the end of the text among them. -/
inductive TokenKind where
  | number
  | string
  | identifier
  | function
  | operator
  | openParen
  | closeParen
  | comma
  | columnRef
  | finish
deriving DecidableEq, Repr

/-- The word for a kind in messages. -/
def TokenKind.name : TokenKind → String
  | number => "NUMBER"
  | string => "STRING"
  | identifier => "IDENTIFIER"
  | function => "FUNCTION"
  | operator => "OPERATOR"
  | openParen => "LPAREN"
  | closeParen => "RPAREN"
  | comma => "COMMA"
  | columnRef => "COLUMN_REF"
  | finish => "EOF"

/-- What a token holds. -/
inductive Lexeme where
  | number (value : Float)
  | string (value : String)
  /-- A bare name. -/
  | identifier (name : String)
  | function (name : String)
  | operator (op : Operator)
  | openParen
  | closeParen
  | comma
  /-- A name in square brackets. -/
  | columnRef (name : String)
deriving DecidableEq, Repr

/-- The kind of a lexeme. -/
def Lexeme.kind : Lexeme → TokenKind
  | number _ => .number
  | string _ => .string
  | identifier _ => .identifier
  | function _ => .function
  | operator _ => .operator
  | openParen => .openParen
  | closeParen => .closeParen
  | comma => .comma
  | columnRef _ => .columnRef

/-- A lexeme and where it begins. -/
structure Token where
  lexeme : Lexeme
  position : Int
deriving DecidableEq, Repr

/-- The tokens of a text and the position of its end. -/
structure TokenList where
  tokens : List Token
  finish : Int
deriving DecidableEq, Repr

/-- Takes a list in which the end is marked by a missing lexeme apart: the tokens before the first
mark, at which a reader stops.  The list has to end with a mark. -/
def TokenList.ofMarked? (marked : List (Option Lexeme × Int)) : Option TokenList :=
  match marked.getLast? with
  | some (none, _) =>
    let body := marked.takeWhile (·.1.isSome)
    (marked.find? (·.1.isNone)).map fun mark =>
      ⟨body.filterMap fun (lexeme, position) => lexeme.map (⟨·, position⟩), mark.2⟩
  | _ => none

end TableFormula
