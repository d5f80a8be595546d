import TableFormula.Formula.Parse
import TableFormula.Proofs.Syntax.Grammar

/-!
# The readers as combinations of a few

The readers of formulas are put together from five that each do one thing: `done` takes nothing,
`fail` stops, `take` takes a token of a kind, `whenNext` takes a token with a property if that is
the next one, and `andThen` reads two parts one after the other.  A property of readers that these
five have, and that loops preserve, holds of every reader.

**One loop for all ranks.**  `Rank.extension` names the step with which a rank goes on, and
`phraseReader` is the reader of a rank; `expressionOf` is the one of the loosest.  `goOn` is the
loop of a rank without its bound: a step takes at least the operator or connective, so the tokens
that are left bound the number of steps.
-/

namespace TableFormula.Formula

variable {α β : Type}

/-! ## What is taken and what is left over -/

/-- The lexemes of some tokens. -/
def lexemes (tokens : List Token) : List Lexeme :=
  tokens.map Token.lexeme

@[simp] lemma lexemes_nil : lexemes [] = [] := rfl

@[simp] lemma lexemes_cons (token : Token) (tokens : List Token) :
    lexemes (token :: tokens) = token.lexeme :: lexemes tokens := rfl

@[simp] lemma lexemes_append (first second : List Token) :
    lexemes (first ++ second) = lexemes first ++ lexemes second :=
  List.map_append

lemma eq_append_of_lexemes {tokens : List Token} {w₁ w₂ : List Lexeme}
    (h : lexemes tokens = w₁ ++ w₂) :
    ∃ first second, tokens = first ++ second ∧ lexemes first = w₁ ∧ lexemes second = w₂ :=
  List.map_eq_append_iff.mp h

lemma eq_cons_of_lexemes {tokens : List Token} {x : Lexeme} {w : List Lexeme}
    (h : lexemes tokens = x :: w) :
    ∃ token rest, tokens = token :: rest ∧ token.lexeme = x ∧ lexemes rest = w :=
  List.map_eq_cons_iff.mp h

lemma eq_append_cons_of_lexemes {tokens : List Token} {w v : List Lexeme} {x : Lexeme}
    (h : lexemes tokens = w ++ x :: v) :
    ∃ first token second, tokens = first ++ token :: second ∧ lexemes first = w ∧
      token.lexeme = x ∧ lexemes second = v := by
  obtain ⟨first, more, rfl, hfirst, hmore⟩ := eq_append_of_lexemes h
  obtain ⟨token, second, rfl, htoken, hsecond⟩ := eq_cons_of_lexemes hmore
  exact ⟨first, token, second, rfl, hfirst, htoken, hsecond⟩

lemma eq_concat_of_lexemes {tokens : List Token} {w : List Lexeme} {x : Lexeme}
    (h : lexemes tokens = w ++ [x]) :
    ∃ first last, tokens = first ++ [last] ∧ lexemes first = w ∧ last.lexeme = x := by
  obtain ⟨first, last, second, rfl, hfirst, hlast, hsecond⟩ := eq_append_cons_of_lexemes h
  obtain rfl : second = [] := List.map_eq_nil_iff.mp hsecond
  exact ⟨first, last, rfl, hfirst, hlast⟩

/-- The tokens at which a reader stopped; nesting below the bound says nothing about them. -/
def Stop.rest? : Stop → Option (List Token)
  | .expected _ rest | .unexpected rest => some rest
  | .tooDeep => none

/-- The tokens that a reader leaves, whether it gives a value or stops. -/
def leftOver : Except Stop (α × List Token) → Option (List Token)
  | .ok (_, rest) => some rest
  | .error stop => stop.rest?

@[simp] lemma leftOver_ok (a : α) (rest : List Token) :
    leftOver (.ok (a, rest) : Except Stop (α × List Token)) = some rest := rfl

@[simp] lemma leftOver_error (stop : Stop) :
    leftOver (.error stop : Except Stop (α × List Token)) = stop.rest? := rfl

namespace Reader

/-! ## The five readers -/

/-- Takes nothing. -/
def done (a : α) : Reader α := fun tokens => .ok (a, tokens)

/-- Stops. -/
def fail : Reader α := fun tokens => .error (.unexpected tokens)

/-- Takes a token of a kind. -/
def take (kind : TokenKind) : Reader Unit := fun tokens => do
  let rest ← expect kind tokens
  return ((), rest)

/-- Takes the next lexeme and goes on from it, if it has a property. -/
def whenNext (p : Lexeme → Bool) (next : Lexeme → Reader α) (other : Reader α) : Reader α
  | [] => other []
  | token :: rest =>
    if p token.lexeme then next token.lexeme rest else other (token :: rest)

/-- Reads one part and then another. -/
def andThen (first : Reader α) (second : α → Reader β) : Reader β := fun tokens => do
  let (a, rest) ← first tokens
  second a rest

section

variable {first : Reader α} {second : α → Reader β} {tokens rest : List Token}

lemma andThen_ok {a : α} (h : first tokens = .ok (a, rest)) :
    first.andThen second tokens = second a rest := by
  simp [andThen, h, bind, Except.bind]

lemma andThen_error {stop : Stop} (h : first tokens = .error stop) :
    first.andThen second tokens = .error stop := by
  simp [andThen, h, bind, Except.bind]

end

/-- What follows a part counts only where the part ends. -/
lemma andThen_congr {first : Reader α} {second second' : α → Reader β} {tokens : List Token}
    (h : ∀ a rest, first tokens = .ok (a, rest) → second a rest = second' a rest) :
    first.andThen second tokens = first.andThen second' tokens := by
  cases hone : first tokens with
  | error stop => rw [andThen_error hone, andThen_error hone]
  | ok pair =>
    obtain ⟨a, rest⟩ := pair
    rw [andThen_ok hone, andThen_ok hone, h a rest hone]

@[simp] lemma take_cons_self (token : Token) (rest : List Token) :
    take token.lexeme.kind (token :: rest) = .ok ((), rest) := by
  simp [take, expect, bind, Except.bind, pure, Except.pure]

lemma take_cons {kind : TokenKind} {token : Token} (h : token.lexeme.kind = kind)
    (rest : List Token) : take kind (token :: rest) = .ok ((), rest) := by
  subst h
  exact take_cons_self token rest

section

variable {p : Lexeme → Bool} {next : Lexeme → Reader α} {other : Reader α} {token : Token}

lemma whenNext_cons (h : p token.lexeme = true) (rest : List Token) :
    whenNext p next other (token :: rest) = next token.lexeme rest := by
  simp [whenNext, h]

/-- What goes on from a lexeme counts only where the lexeme has the property. -/
lemma whenNext_congr {next' : Lexeme → Reader α} {tokens : List Token}
    (h : ∀ token rest, tokens = token :: rest → next token.lexeme rest = next' token.lexeme rest) :
    whenNext p next other tokens = whenNext p next' other tokens := by
  rcases tokens with _ | ⟨token, tokens⟩
  · rfl
  · rw [whenNext, whenNext, h token tokens rfl]

lemma whenNext_of_not {tokens : List Token} (h : ∀ token ∈ tokens.head?, p token.lexeme = false) :
    whenNext p next other tokens = other tokens := by
  rcases tokens with _ | ⟨token, tokens⟩
  · rfl
  · simp [whenNext, h token rfl]

end

end Reader

open Reader

/-! ## Brackets and lists -/

lemma map_eq_andThen (R : Reader α) (f : α → β) (tokens : List Token) :
    (R tokens).map (fun (a, rest) => (f a, rest)) = R.andThen (fun a => done (f a)) tokens := by
  cases h : R tokens <;> simp [andThen, h, done, bind, Except.bind, Except.map]

lemma bracketed_eq (inner : Reader α) :
    bracketed inner = (take .openParen).andThen fun _ =>
      inner.andThen fun a => (take .closeParen).andThen fun _ => done a := by
  funext tokens
  simp only [bracketed, andThen, take, done, bind_assoc, pure_bind]
  rfl

lemma commaList_succ (item : Reader Formula) (fuel : Nat) :
    commaList item (fuel + 1) = item.andThen fun first =>
      whenNext (· == .comma)
        (fun _ => (commaList item fuel).andThen fun others => done (first :: others))
        (done [first]) := by
  funext tokens
  rw [commaList, andThen]
  congr 1
  funext ⟨first, rest⟩
  rcases rest with _ | ⟨⟨lexeme, position⟩, rest⟩
  · rfl
  · cases lexeme <;> rfl

lemma choiceOf_eq (part : Reader Formula) :
    choiceOf part = (take .openParen).andThen fun _ => part.andThen fun condition =>
      (take .comma).andThen fun _ => part.andThen fun whenTrue =>
      (take .comma).andThen fun _ => part.andThen fun whenFalse =>
      (take .closeParen).andThen fun _ => done (choose condition whenTrue whenFalse) := by
  funext tokens
  simp only [choiceOf, bracketed, andThen, take, done, bind_assoc, pure_bind]
  rfl

lemma argumentsOf_eq (argument : Reader Formula) :
    argumentsOf argument = (take .openParen).andThen fun _ =>
      whenNext (· == .closeParen) (fun _ => done [])
        ((items argument).andThen fun args => (take .closeParen).andThen fun _ => done args) := by
  rw [argumentsOf, bracketed_eq]
  congr 1
  funext _ tokens
  rcases tokens with _ | ⟨⟨lexeme, position⟩, rest⟩
  · rfl
  · cases lexeme <;> rfl

lemma namedOf_eq (name : String) (inner : Reader Formula) :
    namedOf name inner =
      if name = "NOT" then (bracketed inner).andThen fun f => done (unary .not f)
      else if name = "IF" then choiceOf inner
      else (argumentsOf inner).andThen fun args => done (call name args) := by
  funext tokens
  simp only [namedOf, map_eq_andThen]
  split_ifs <;> rfl

/-! ## Operands -/

/-- Whether an operand may begin with a lexeme. -/
def beginsOperand : Lexeme → Bool
  | .operator op => op == .subtract
  | .closeParen | .comma => false
  | _ => true

/-- Reads an operand after its first lexeme. -/
def operandAfter (depth : Nat) : Lexeme → Reader Formula
  | .operator _ => (operand depth).andThen fun f => done (unary .negate f)
  | .function name => namedOf name (expression depth)
  | .number value => done (number value)
  | .string value => done (text value)
  | .columnRef name | .identifier name => done (column name)
  | .openParen => (expression depth).andThen fun f => (take .closeParen).andThen fun _ => done f
  | .closeParen | .comma => fail

lemma operand_succ (depth : Nat) :
    operand (depth + 1) = whenNext beginsOperand (operandAfter depth) fail := by
  funext tokens
  rcases tokens with _ | ⟨⟨lexeme, position⟩, rest⟩
  · simp [operand, whenNext, fail]
  cases lexeme with
  | operator op =>
    by_cases h : op = .subtract
    · subst h
      simp [operand, whenNext, beginsOperand, operandAfter, map_eq_andThen]
    · simp [operand, whenNext, fail, beginsOperand, h]
  | openParen =>
    rw [operand, bracketed_eq]
    simp [whenNext, beginsOperand, operandAfter, andThen, take, expect, Lexeme.kind, bind,
      Except.bind, pure, Except.pure]
  | _ => simp [operand, whenNext, fail, beginsOperand, operandAfter, done]

/-! ## Loops -/

/-- Reads what follows the lexeme with which a phrase goes on. -/
def continuation (tighter argument : Reader Formula) (left : Formula) : Lexeme → Reader Formula
  | .operator op => tighter.andThen fun right => done (binary op left right)
  | .function name => (bracketed (items argument)).andThen fun args =>
    done (call name (left :: args))
  | _ => fail

namespace Rank

/-- The step with which a rank goes on, given readers for right operands and for arguments. -/
def extension (r : Rank) (tighter argument : Reader Formula) : Extension :=
  match r with
  | disjunction => connectiveStep "OR" argument
  | conjunction => connectiveStep "AND" argument
  | operators level => operatorStep level tighter
  | operand | primary => fun _ _ => none

lemma extension_nil (r : Rank) (tighter argument : Reader Formula) (left : Formula) :
    r.extension tighter argument left [] = none := by
  cases r <;> rfl

lemma connectiveStep_function (name : String) (tighter argument : Reader Formula)
    (left : Formula) (word : String) (position : Int) (rest : List Token) :
    connectiveStep name argument left (⟨.function word, position⟩ :: rest) =
      if word = name then some (continuation tighter argument left (.function word) rest)
      else none := by
  by_cases h : word = name
  · subst h
    simp only [connectiveStep, if_true, continuation]
    exact congrArg some (map_eq_andThen (bracketed (items argument))
      (fun args => call word (left :: args)) rest)
  · simp [connectiveStep, h]

lemma extension_cons (r : Rank) (tighter argument : Reader Formula) (left : Formula)
    (token : Token) (rest : List Token) :
    r.extension tighter argument left (token :: rest) =
      if r.continues token.lexeme then
        some (continuation tighter argument left token.lexeme rest)
      else none := by
  obtain ⟨lexeme, position⟩ := token
  cases lexeme with
  | operator op =>
    cases r with
    | operators level => simp [extension, operatorStep, continues, continuation, map_eq_andThen]
    | _ => rfl
  | function word =>
    cases r with
    | disjunction | conjunction =>
      simp [extension, connectiveStep_function _ tighter, continues, connective?]
    | _ => rfl
  | _ => cases r <;> rfl

end Rank

lemma extend_succ (r : Rank) (tighter argument : Reader Formula) (fuel : Nat) (left : Formula) :
    extend (r.extension tighter argument) (fuel + 1) left =
      whenNext r.continues
        (fun x => (continuation tighter argument left x).andThen
          (extend (r.extension tighter argument) fuel))
        (done left) := by
  funext tokens
  rcases tokens with _ | ⟨token, rest⟩
  · simp [extend, r.extension_nil, whenNext, done]
  · by_cases h : r.continues token.lexeme
    · simp only [extend, r.extension_cons, whenNext, h, if_true]
      rfl
    · simp [extend, r.extension_cons, whenNext, h, done]

lemma extend_nil (r : Rank) (tighter argument : Reader Formula) (fuel : Nat) (left : Formula) :
    extend (r.extension tighter argument) fuel left [] = .ok (left, []) := by
  cases fuel <;> simp [extend, r.extension_nil]

/-- Goes on from a formula as far as the step does. -/
def goOn (step : Extension) (left : Formula) : Reader Formula := fun tokens =>
  extend step tokens.length left tokens

lemma leftward_eq (step : Extension) (tighter : Reader Formula) :
    leftward step tighter = tighter.andThen (goOn step) := rfl

/-- The reader of a rank, given readers for operands and for arguments. -/
def phraseReader (operand argument : Reader Formula) (r : Rank) : Reader Formula :=
  if r.looseness ≤ 1 then operand
  else
    leftward (r.extension (phraseReader operand argument r.tighter) argument)
      (phraseReader operand argument r.tighter)
termination_by r.looseness
decreasing_by all_goals
  rw [Rank.looseness_tighter]
  omega

lemma phraseReader_of_le {r : Rank} (hr : r.looseness ≤ 1) (operand argument : Reader Formula) :
    phraseReader operand argument r = operand := by
  rw [phraseReader, if_pos hr]

lemma phraseReader_of_not_le {r : Rank} (hr : ¬ r.looseness ≤ 1)
    (operand argument : Reader Formula) :
    phraseReader operand argument r =
      (phraseReader operand argument r.tighter).andThen
        (goOn (r.extension (phraseReader operand argument r.tighter) argument)) := by
  rw [phraseReader, if_neg hr, leftward_eq]

lemma expressionOf_eq (operand argument : Reader Formula) :
    expressionOf operand argument = phraseReader operand argument .disjunction := by
  unfold expressionOf operatorLevel
  simp [phraseReader, Rank.looseness, Rank.extension, Rank.tighter]

lemma expression_succ (depth : Nat) :
    expression (depth + 1) =
      phraseReader (operand depth) (expression depth) .disjunction := by
  funext tokens
  rw [expression, expressionOf_eq]

lemma operand_zero (tokens : List Token) : operand 0 tokens = .error .tooDeep := by
  rw [operand]

lemma expression_zero (tokens : List Token) : expression 0 tokens = .error .tooDeep := by
  rw [expression]

end TableFormula.Formula
