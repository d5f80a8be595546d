import TableFormula.Value.Basic

/-!
# Rules for given arguments

A function that is given values has a *rule*: how many arguments it takes and what it makes of them.
Some rules do without their last argument and take a fixed value instead.  Any other number of
arguments is a fault, whatever the arguments are.
-/

namespace TableFormula

/-- What a function makes of its arguments, by their number. -/
inductive Rule where
  | constant (result : Value)
  | one (run : Value → Except Fault Value)
  | two (run : Value → Value → Except Fault Value)
  | three (run : Value → Value → Value → Except Fault Value)
  | four (run : Value → Value → Value → Value → Except Fault Value)
  /-- Two arguments, of which the second may be left out. -/
  | oneOrTwo (second : Value) (run : Value → Value → Except Fault Value)
  /-- Three arguments, of which the third may be left out. -/
  | twoOrThree (third : Value) (run : Value → Value → Value → Except Fault Value)
  | any (run : List Value → Except Fault Value)

namespace Rule

/-- Whether a rule takes a number of arguments. -/
def accepts : Rule → Nat → Bool
  | constant _, n => n == 0
  | one _, n => n == 1
  | two _, n => n == 2
  | three _, n => n == 3
  | four _, n => n == 4
  | oneOrTwo _ _, n => n == 1 || n == 2
  | twoOrThree _ _, n => n == 2 || n == 3
  | any _, _ => true

/-- What a rule makes of some arguments, if it takes so many. -/
def run? : Rule → List Value → Option (Except Fault Value)
  | constant result, [] => some (.ok result)
  | one run, [a] => some (run a)
  | two run, [a, b] => some (run a b)
  | three run, [a, b, c] => some (run a b c)
  | four run, [a, b, c, d] => some (run a b c d)
  | oneOrTwo second run, [a] => some (run a second)
  | oneOrTwo _ run, [a, b] => some (run a b)
  | twoOrThree third run, [a, b] => some (run a b third)
  | twoOrThree _ run, [a, b, c] => some (run a b c)
  | any run, args => some (run args)
  | _, _ => none

theorem isSome_run? (rule : Rule) (args : List Value) :
    (rule.run? args).isSome = rule.accepts args.length := by
  cases rule <;> rcases args with _ | ⟨_, _ | ⟨_, _ | ⟨_, _ | ⟨_, _ | ⟨_, _⟩⟩⟩⟩⟩ <;>
    simp [run?, accepts]

/-- The value that a named function with a rule has for some arguments. -/
def apply (rule : Rule) (name : String) (args : List Value) : Except Fault Value :=
  (rule.run? args).getD (.error (.wrongCount name args.length))

end Rule

end TableFormula
