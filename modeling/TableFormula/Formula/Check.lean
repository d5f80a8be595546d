import TableFormula.Column
import TableFormula.Formula.Parse

/-!
# Checks without evaluation

A check walks a formula from left to right and stops at the first reference that names no column.
The walk goes down a bounded number of levels; a formula that goes on below that has no outcome,
unless the check stopped before.  How many arguments a function gets is not checked.
-/

namespace TableFormula

/-- How many levels a walk goes down.  This stands for the stack of the interpreter, which is no part
of the language: a walk stops a few levels earlier, by as many calls as are under way where it
begins. -/
def walkLimit : Nat := 1000

/-- What is wrong with a formula, found without evaluating it. -/
inductive Finding where
  | unreadable (fault : Formula.SyntaxFault)
  | unknownColumn (name : String)
  /-- The walk ended before the formula did. -/
  | tooDeep
deriving DecidableEq, Repr

/-- The text that describes a finding. -/
def Finding.message : Finding → String
  | unreadable fault => fault.message
  | unknownColumn name => (Fault.unknownColumn name).message
  | tooDeep => ""

namespace Formula

/-- What is wrong with one thing that a walk meets. -/
def Visit.finding? (columns : List Column) : Visit → Option Finding
  | reference name =>
    if (Column.find? columns name).isSome then none else some (.unknownColumn name)
  | tooDeep => some .tooDeep

/-- The first thing that is wrong with a formula. -/
def check (f : Formula) (columns : List Column) : Option Finding :=
  (f.visits walkLimit).findSome? (Visit.finding? columns)

/-- The references of a formula, if a walk reaches all of them. -/
def walkReferences? (f : Formula) : Option (List String) :=
  (f.visits walkLimit).mapM fun
    | .reference name => some name
    | .tooDeep => none

end Formula

end TableFormula
