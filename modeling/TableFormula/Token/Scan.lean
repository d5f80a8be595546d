import TableFormula.Function.Name
import TableFormula.Number.Numeral
import TableFormula.Text.Case
import TableFormula.Token.Basic

/-!
# Cutting a text into tokens

Scanning never fails: a character that begins no token is dropped, so that a formula that is still
being typed gives the parser something to look at.

* Numbers are ASCII digits with an optional fraction; a sign is an operator.
* A text stands in double or single quotes, a backslash takes the next character as it is.
* A reference is a name in square brackets or a bare name.
* A name of the language counts in any letter case.  `TRUE` and `FALSE` are the numbers one and zero
  unless a bracket follows.

A text or reference without its closing sign runs to the end.
-/

namespace TableFormula

open Text Number

namespace Lexeme

/-! ## Parts -/

/-- The digits of a fraction, a point with digits behind it; none where that does not stand. -/
def readFraction (cs : List Char) : List Char × List Char :=
  match cs with
  | '.' :: rest => if (spanDigits rest).1 = [] then ([], cs) else spanDigits rest
  | _ => ([], cs)

/-- The number that a literal with some digits before and behind its point stands for. -/
def numberValue (whole fraction : List Char) : Float :=
  Float.ofScientific (natOf (whole ++ fraction)) true fraction.length

/-- The number literal that a text begins with: digits, a fraction, or both. -/
def readNumber? (cs : List Char) : Option (Float × List Char) :=
  let whole := spanDigits cs
  let fraction := readFraction whole.2
  if whole.1 = [] ∧ fraction.1 = [] then none
  else some (numberValue whole.1 fraction.1, fraction.2)

/-- The characters of a quoted text after its opening quote, and what follows the closing one. -/
def readQuoted (quote : Char) : List Char → List Char × List Char
  | [] => ([], [])
  | '\\' :: c :: rest =>
    match readQuoted quote rest with
    | (text, after) => (c :: text, after)
  | c :: rest =>
    if c = quote then ([], rest)
    else match readQuoted quote rest with
      | (text, after) => (c :: text, after)

/-- Whether a character may begin a name. -/
def isNameStart (c : Char) : Bool :=
  c.isAlpha || c == '_'

/-- Whether a character may stand in a name. -/
def isNamePart (c : Char) : Bool :=
  isNameStart c || c.isDigit

/-- What a bare name is, given the text behind it. -/
def ofName (name : List Char) (rest : List Char) : Lexeme :=
  let word := String.ofList (name.map Char.toUpper)
  let called : Bool := (trimStart rest).head? == some '('
  if word = "TRUE" ∧ !called then number 1.0
  else if word = "FALSE" ∧ !called then number 0.0
  else if isFunctionName word then function word
  else identifier (String.ofList name)

/-- The operator that a text begins with: the longest sign counts. -/
def readOperator? : List Char → Option (Operator × List Char)
  | '<' :: '>' :: rest => some (.unequal, rest)
  | '<' :: '=' :: rest => some (.atMost, rest)
  | '>' :: '=' :: rest => some (.atLeast, rest)
  | '+' :: rest => some (.add, rest)
  | '-' :: rest => some (.subtract, rest)
  | '*' :: rest => some (.multiply, rest)
  | '/' :: rest => some (.divide, rest)
  | '%' :: rest => some (.modulo, rest)
  | '^' :: rest => some (.power, rest)
  | '&' :: rest => some (.join, rest)
  | '=' :: rest => some (.equal, rest)
  | '<' :: rest => some (.less, rest)
  | '>' :: rest => some (.greater, rest)
  | _ => none

/-! ## One token -/

/-- The lexeme that a text begins with, and the rest; `none` where its first character begins no
token. -/
def read? (cs : List Char) : Option (Lexeme × List Char) :=
  match readNumber? cs with
  | some (value, rest) => some (number value, rest)
  | none =>
    match cs with
    | [] => none
    | '"' :: rest =>
      let (text, after) := readQuoted '"' rest
      some (string (String.ofList text), after)
    | '\'' :: rest =>
      let (text, after) := readQuoted '\'' rest
      some (string (String.ofList text), after)
    | '[' :: rest =>
      some (columnRef (String.ofList (rest.takeWhile (· ≠ ']'))),
        (rest.dropWhile (· ≠ ']')).drop 1)
    | '(' :: rest => some (openParen, rest)
    | ')' :: rest => some (closeParen, rest)
    | ',' :: rest => some (comma, rest)
    | c :: rest =>
      match readOperator? (c :: rest) with
      | some (op, rest) => some (operator op, rest)
      | none =>
        if isNameStart c then
          let after := rest.dropWhile isNamePart
          some (ofName (c :: rest.takeWhile isNamePart) after, after)
        else none

/-! ### A token takes up at least one character -/

theorem length_readQuoted_le (quote : Char) (cs : List Char) :
    (readQuoted quote cs).2.length ≤ cs.length := by
  fun_induction readQuoted quote cs <;> grind

theorem length_dropWhile_le (p : Char → Bool) (cs : List Char) :
    (cs.dropWhile p).length ≤ cs.length :=
  (List.dropWhile_sublist p).length_le

theorem length_spanDigits (cs : List Char) :
    (spanDigits cs).1.length + (spanDigits cs).2.length = cs.length := by
  rw [← List.length_append, spanDigits_append]

theorem length_readFraction (cs : List Char) :
    (readFraction cs).1.length + (readFraction cs).2.length ≤ cs.length := by
  unfold readFraction
  split
  · rename_i rest
    have := length_spanDigits rest
    split <;> simp only [List.length_cons, List.length_nil] <;> omega
  · simp

theorem length_readNumber?_lt {cs rest : List Char} {value : Float}
    (h : readNumber? cs = some (value, rest)) : rest.length < cs.length := by
  simp only [readNumber?] at h
  split at h
  · cases h
  · rename_i hne
    have h1 := length_spanDigits cs
    have h2 := length_readFraction (spanDigits cs).2
    have h3 : 0 < (spanDigits cs).1.length + (readFraction (spanDigits cs).2).1.length := by
      simp only [← List.length_eq_zero_iff] at hne
      omega
    cases h
    omega

theorem length_readOperator?_lt {cs rest : List Char} {op : Operator}
    (h : readOperator? cs = some (op, rest)) : rest.length < cs.length := by
  unfold readOperator? at h
  split at h <;> cases h <;> simp only [List.length_cons] <;> omega

theorem length_read?_lt {cs rest : List Char} {lexeme : Lexeme}
    (h : read? cs = some (lexeme, rest)) : rest.length < cs.length := by
  unfold read? at h
  split at h
  · rename_i hn
    cases h
    exact length_readNumber?_lt hn
  · split at h
    · cases h
    · cases h
      exact Nat.lt_succ_of_le (length_readQuoted_le ..)
    · cases h
      exact Nat.lt_succ_of_le (length_readQuoted_le ..)
    · cases h
      refine Nat.lt_succ_of_le (Nat.le_trans ?_ (length_dropWhile_le (· ≠ ']') _))
      simp
    · cases h; simp
    · cases h; simp
    · cases h; simp
    · split at h
      · rename_i ho
        cases h
        exact length_readOperator?_lt ho
      · split at h
        · cases h
          exact Nat.lt_succ_of_le (length_dropWhile_le ..)
        · cases h

end Lexeme

/-! ## All tokens -/

/-- The tokens of a text that begins at a position. -/
def scanFrom (position : Nat) (cs : List Char) : List Token :=
  match cs with
  | [] => []
  | c :: tail =>
    if isBlank c then scanFrom (position + 1) tail
    else match h : Lexeme.read? (c :: tail) with
      | none => scanFrom (position + 1) tail
      | some (lexeme, rest) =>
        ⟨lexeme, position⟩ :: scanFrom (position + ((c :: tail).length - rest.length)) rest
termination_by cs.length
decreasing_by
  · simp
  · simp
  · exact Lexeme.length_read?_lt h

/-- The tokens of a formula. -/
def scan (source : String) : TokenList :=
  ⟨scanFrom 0 source.toList, source.toList.length⟩

end TableFormula
