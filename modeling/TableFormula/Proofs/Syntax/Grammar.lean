import Mathlib.Tactic.Common
import TableFormula.Token.Basic

/-!
# The grammar of formulas

What the readers of `Formula/Parse.lean` are meant to accept, said without them: a *phrase* of a
rank is a list of lexemes, and `Derives` relates it to the formula that it stands for.

**Ranks.**  There are eight, loosest first: disjunctions, conjunctions, the four levels of
operators, operands and primaries.  A phrase of a tighter rank is one of every looser rank, and a
formula in brackets is a primary.

**Grouping.**  Operators and connectives are left-recursive rules, so every rank groups to the left:
the left part of a phrase may be of its own rank, the right part has to be tighter.

**Connectives.**  `x OR(y, z)` derives the call `OR(x, y, z)` and needs at least one argument in its
brackets.  A call by name may have none.

A *sentence* is a phrase of the loosest rank, and a list is *viable* when some sentence begins with
it.
-/

namespace TableFormula.Formula

/-! ## Ranks -/

/-- The ranks of phrases. -/
inductive Rank where
  | disjunction
  | conjunction
  | operators (level : Level)
  | operand
  | primary
deriving DecidableEq, Repr

namespace Rank

/-- The next tighter rank; there is none below primaries. -/
def tighter : Rank → Rank
  | disjunction => conjunction
  | conjunction => operators .comparison
  | operators .comparison => operators .additive
  | operators .additive => operators .multiplicative
  | operators .multiplicative => operators .power
  | operators .power => operand
  | operand | primary => primary

/-- How many ranks are tighter. -/
def looseness : Rank → Nat
  | disjunction => 7
  | conjunction => 6
  | operators .comparison => 5
  | operators .additive => 4
  | operators .multiplicative => 3
  | operators .power => 2
  | operand => 1
  | primary => 0

/-- The word that goes on with a phrase of a rank, for the two ranks of connectives. -/
def connective? : Rank → Option String
  | disjunction => some "OR"
  | conjunction => some "AND"
  | operators _ | operand | primary => none

lemma looseness_tighter (r : Rank) : r.tighter.looseness = r.looseness - 1 := by
  rcases r with _ | _ | (_ | _ | _ | _) | _ | _ <;> rfl

lemma looseness_injective {r s : Rank} (h : r.looseness = s.looseness) : r = s := by
  rcases r with _ | _ | (_ | _ | _ | _) | _ | _ <;>
    rcases s with _ | _ | (_ | _ | _ | _) | _ | _ <;> first | rfl | cases h

/-- Whether a lexeme can go on with a phrase of a rank, where it has been read as far as it goes at
all tighter ranks. -/
def continues (r : Rank) : Lexeme → Bool
  | .operator op => match r with
    | operators level => op.level? == some level
    | _ => false
  | .function name => some name == r.connective?
  | _ => false

/-- A lexeme goes on with phrases of one rank only. -/
lemma eq_of_continues {r s : Rank} {x : Lexeme} (hr : r.continues x) (hs : s.continues x) :
    r = s := by
  cases x with
  | operator op =>
    cases r <;> cases s <;> simp_all [continues]
  | function name =>
    cases r <;> cases s <;> simp_all [continues, connective?]
  | _ => simp [continues] at hr

end Rank

/-! ## Phrases -/

/-- A list of lexemes and the formula that it is to stand for. -/
abbrev Part := List Lexeme × Formula

/-- The lexemes of some parts, with commas between them. -/
def separated (parts : List Part) : List Lexeme :=
  List.intercalate [.comma] (parts.map (·.1))

@[simp] lemma separated_nil : separated [] = [] := rfl

@[simp] lemma separated_singleton (part : Part) : separated [part] = part.1 := by
  simp [separated, List.intercalate]

@[simp] lemma separated_cons_cons (part other : Part) (parts : List Part) :
    separated (part :: other :: parts) = part.1 ++ .comma :: separated (other :: parts) := by
  simp [separated, List.intercalate_cons_cons]

/-- `Derives r w f` says that the lexemes `w` are a phrase of rank `r` for the formula `f`. -/
inductive Derives : Rank → List Lexeme → Formula → Prop
  | number (value : Float) : Derives .primary [.number value] (.number value)
  | text (value : String) : Derives .primary [.string value] (.text value)
  | columnRef (name : String) : Derives .primary [.columnRef name] (.column name)
  | identifier (name : String) : Derives .primary [.identifier name] (.column name)
  | choose {w₁ w₂ w₃ : List Lexeme} {condition whenTrue whenFalse : Formula}
      (hcondition : Derives .disjunction w₁ condition)
      (hwhenTrue : Derives .disjunction w₂ whenTrue)
      (hwhenFalse : Derives .disjunction w₃ whenFalse) :
      Derives .primary
        (.function "IF" :: .openParen :: (w₁ ++ .comma :: (w₂ ++ .comma :: (w₃ ++ [.closeParen]))))
        (.choose condition whenTrue whenFalse)
  | call {name : String} {parts : List Part} (hif : name ≠ "IF") (hnot : name ≠ "NOT")
      (hparts : ∀ part ∈ parts, Derives .disjunction part.1 part.2) :
      Derives .primary (.function name :: .openParen :: (separated parts ++ [.closeParen]))
        (.call name (parts.map (·.2)))
  | grouped {w : List Lexeme} {f : Formula} (h : Derives .disjunction w f) :
      Derives .primary (.openParen :: (w ++ [.closeParen])) f
  | negate {w : List Lexeme} {f : Formula} (h : Derives .operand w f) :
      Derives .operand (.operator .subtract :: w) (.unary .negate f)
  | not {w : List Lexeme} {f : Formula} (h : Derives .disjunction w f) :
      Derives .operand (.function "NOT" :: .openParen :: (w ++ [.closeParen])) (.unary .not f)
  | binary {level : Level} {op : Operator} {w₁ w₂ : List Lexeme} {left right : Formula}
      (hop : op.level? = some level) (hleft : Derives (.operators level) w₁ left)
      (hright : Derives (Rank.operators level).tighter w₂ right) :
      Derives (.operators level) (w₁ ++ .operator op :: w₂) (.binary op left right)
  | connect {r : Rank} {name : String} {w : List Lexeme} {left : Formula} {parts : List Part}
      (hname : r.connective? = some name) (hleft : Derives r w left) (hne : parts ≠ [])
      (hparts : ∀ part ∈ parts, Derives .disjunction part.1 part.2) :
      Derives r (w ++ .function name :: .openParen :: (separated parts ++ [.closeParen]))
        (.call name (left :: parts.map (·.2)))
  | tighter {r : Rank} {w : List Lexeme} {f : Formula} (h : Derives r.tighter w f) : Derives r w f

/-- A sentence: a whole formula. -/
abbrev Sentence (w : List Lexeme) (f : Formula) : Prop :=
  Derives .disjunction w f

/-- Some sentence begins with these lexemes. -/
def Viable (w : List Lexeme) : Prop :=
  ∃ more f, Sentence (w ++ more) f

namespace Derives

/-- A phrase is one of every looser rank. -/
lemma mono {r s : Rank} {w : List Lexeme} {f : Formula} (h : Derives r w f)
    (hrs : r.looseness ≤ s.looseness) : Derives s w f := by
  obtain ⟨n, hn⟩ : ∃ n, s.looseness = r.looseness + n := ⟨_, (Nat.add_sub_of_le hrs).symm⟩
  induction n generalizing s with
  | zero =>
    rw [Rank.looseness_injective hn]
    exact h
  | succ n ih =>
    have htighter := s.looseness_tighter
    exact .tighter (ih (by omega) (by omega))

lemma sentence {r : Rank} {w : List Lexeme} {f : Formula} (h : Derives r w f) : Sentence w f :=
  h.mono (by rcases r with _ | _ | (_ | _ | _ | _) | _ | _ <;> decide)

/-- A phrase begins with a lexeme that is no closing bracket. -/
lemma exists_cons {r : Rank} {w : List Lexeme} {f : Formula} (h : Derives r w f) :
    ∃ x rest, w = x :: rest ∧ x ≠ .closeParen := by
  induction h with
  | binary _ _ _ ih _ | connect _ _ _ _ ih _ =>
    obtain ⟨x, rest, rfl, hx⟩ := ih
    exact ⟨x, _, rfl, hx⟩
  | tighter _ ih => exact ih
  | _ => exact ⟨_, _, rfl, by simp⟩

/-- Parts begin with a lexeme that is no closing bracket. -/
lemma exists_cons_separated {r : Rank} {parts : List Part} (hne : parts ≠ [])
    (h : ∀ part ∈ parts, Derives r part.1 part.2) :
    ∃ x rest, separated parts = x :: rest ∧ x ≠ .closeParen := by
  obtain ⟨⟨w, f⟩, others, rfl⟩ := List.exists_cons_of_ne_nil hne
  obtain ⟨x, rest, hw, hx⟩ := (h (w, f) List.mem_cons_self).exists_cons
  obtain rfl : w = x :: rest := hw
  rcases others with _ | ⟨other, others⟩
  · exact ⟨x, rest, by rw [separated_singleton], hx⟩
  · exact ⟨x, _, by rw [separated_cons_cons, List.cons_append], hx⟩

end Derives

/-- What begins a viable list is viable. -/
lemma Viable.of_append {w more : List Lexeme} (h : Viable (w ++ more)) : Viable w := by
  obtain ⟨rest, f, hf⟩ := h
  exact ⟨more ++ rest, f, by simpa using hf⟩

lemma Derives.viable {r : Rank} {w : List Lexeme} {f : Formula} (h : Derives r w f) : Viable w :=
  ⟨[], f, by simpa using h.sentence⟩

end TableFormula.Formula
