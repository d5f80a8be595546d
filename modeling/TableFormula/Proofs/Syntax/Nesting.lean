import TableFormula.Proofs.Syntax.Locality

/-!
# How much nesting a list of tokens can need

A bracket or a sign takes a token before the reader goes one deeper, so a list of `n` tokens needs a
bound of no more than `2 * n + 2`: an expression and its first operand take one each, and so does
every token after that.
-/

namespace TableFormula.Formula

open Reader

variable {α β : Type}

/-- A reader does not find lists of up to `n` tokens nested too deeply. -/
def Fits (n : Nat) (R : Reader α) : Prop :=
  ∀ tokens, tokens.length ≤ n → R tokens ≠ .error .tooDeep

namespace Fits

variable {n : Nat}

lemma mono {m : Nat} {R : Reader α} (hR : Fits n R) (h : m ≤ n) : Fits m R :=
  fun tokens htokens => hR tokens (Nat.le_trans htokens h)

/-! ## Rules -/

lemma done (a : α) : Fits n (Reader.done a) :=
  fun _ _ h => nomatch h

lemma fail : Fits n (Reader.fail (α := α)) :=
  fun _ _ h => nomatch h

lemma take (kind : TokenKind) : Fits n (Reader.take kind) := by
  intro tokens _ h
  rcases tokens with _ | ⟨token, tokens⟩
  · cases h
  by_cases hkind : token.lexeme.kind = kind
  · rw [Reader.take_cons hkind] at h
    cases h
  · simp [Reader.take, expect, hkind, bind, Except.bind] at h

/-- What goes on from the next lexeme gets one token fewer. -/
lemma whenNext {p : Lexeme → Bool} {next : Lexeme → Reader α} {other : Reader α}
    (hnext : ∀ m, m + 1 = n → ∀ x, Fits m (next x)) (hother : Fits n other) :
    Fits n (Reader.whenNext p next other) := by
  intro tokens htokens
  rcases tokens with _ | ⟨token, tokens⟩
  · exact hother [] htokens
  rw [Reader.whenNext]
  split_ifs
  · rw [List.length_cons] at htokens
    exact hnext (n - 1) (by omega) _ tokens (by omega)
  · exact hother _ htokens

lemma andThen {first : Reader α} {second : α → Reader β} (hlocal : Local first)
    (hfirst : Fits n first) (hsecond : ∀ a, Fits n (second a)) :
    Fits n (first.andThen second) := by
  intro tokens htokens
  cases hone : first tokens with
  | error stop =>
    rw [andThen_error hone]
    intro h
    cases h
    exact hfirst tokens htokens hone
  | ok pair =>
    obtain ⟨a, rest⟩ := pair
    rw [andThen_ok hone]
    exact hsecond a rest (Nat.le_trans (hlocal.length_le hone) htokens)

lemma take_andThen {kind : TokenKind} {second : Unit → Reader β} (h : Fits n (second ())) :
    Fits n ((Reader.take kind).andThen second) :=
  andThen (Local.take kind) (take kind) fun _ => h

end Fits

/-! ## Brackets and lists -/

section

variable {n : Nat} {operand tighter argument : Reader Formula}

lemma fits_bracketed {inner : Reader α} (hlocal : Local inner) (h : Fits n inner) :
    Fits n (bracketed inner) := by
  rw [bracketed_eq]
  refine Fits.take_andThen (Fits.andThen hlocal h fun a => ?_)
  exact Fits.take_andThen (Fits.done a)

lemma fits_commaList (hlocal : Local argument) (harg : Fits n argument) (fuel : Nat) :
    Fits n (commaList argument fuel) := by
  induction fuel with
  | zero => exact Fits.fail
  | succ fuel ih =>
    rw [commaList_succ]
    refine Fits.andThen hlocal harg fun first => Fits.whenNext (fun m hm x => ?_) (Fits.done _)
    refine Fits.andThen (local_commaList hlocal fuel) (ih.mono (by omega)) fun others => ?_
    exact Fits.done _

lemma fits_items (hlocal : Local argument) (harg : Fits n argument) : Fits n (items argument) :=
  fun tokens => fits_commaList hlocal harg (tokens.length + 1) tokens

/-! ## Loops -/

lemma fits_continuation (hlocal : Local tighter) (hlocal' : Local argument)
    (htighter : Fits n tighter) (harg : Fits n argument) (left : Formula) (x : Lexeme) :
    Fits n (continuation tighter argument left x) := by
  cases x with
  | operator op => exact Fits.andThen hlocal htighter fun _ => Fits.done _
  | function name =>
    rw [continuation]
    refine Fits.andThen (local_bracketed (local_items hlocal')) ?_ fun _ => Fits.done _
    exact fits_bracketed (local_items hlocal') (fits_items hlocal' harg)
  | _ => exact Fits.fail

/-- Arguments come after a connective, so they have to fit a shorter list only. -/
lemma fits_extend (hlocal : Local tighter) (hlocal' : Local argument) (htighter : Fits n tighter)
    (harg : ∀ m, m + 1 = n → Fits m argument) (r : Rank) (fuel : Nat) (left : Formula) :
    Fits n (extend (r.extension tighter argument) fuel left) := by
  induction fuel generalizing left with
  | zero => exact Fits.done left
  | succ fuel ih =>
    rw [extend_succ]
    refine Fits.whenNext (fun m hm x => ?_) (Fits.done left)
    have hle : m ≤ n := by omega
    refine Fits.andThen (local_continuation hlocal hlocal' left x) ?_ fun next =>
      (ih next).mono hle
    exact fits_continuation hlocal hlocal' (htighter.mono hle) (harg m hm) left x

lemma fits_phraseReader (hlocal : Local operand) (hlocal' : Local argument)
    (hoperand : Fits n operand) (harg : ∀ m, m + 1 = n → Fits m argument) (r : Rank) :
    Fits n (phraseReader operand argument r) := by
  induction r using phraseReader.induct with
  | case1 r hle =>
    rw [phraseReader_of_le hle]
    exact hoperand
  | case2 r hle htighter =>
    have hlocal'' := local_phraseReader hlocal hlocal' r.tighter
    rw [phraseReader_of_not_le hle]
    refine Fits.andThen hlocal'' htighter fun left => ?_
    intro tokens htokens
    exact fits_extend hlocal'' hlocal' htighter harg r tokens.length left tokens htokens

/-! ## Operands -/

lemma fits_choiceOf (hlocal : Local argument) (harg : Fits n argument) :
    Fits n (choiceOf argument) := by
  rw [choiceOf_eq]
  refine Fits.take_andThen (Fits.andThen hlocal harg fun _ => ?_)
  refine Fits.take_andThen (Fits.andThen hlocal harg fun _ => ?_)
  refine Fits.take_andThen (Fits.andThen hlocal harg fun _ => ?_)
  exact Fits.take_andThen (Fits.done _)

lemma fits_argumentsOf (hlocal : Local argument) (harg : Fits n argument) :
    Fits n (argumentsOf argument) := by
  rw [argumentsOf_eq]
  refine Fits.take_andThen (Fits.whenNext (fun _ _ _ => Fits.done _) ?_)
  refine Fits.andThen (local_items hlocal) (fits_items hlocal harg) fun _ => ?_
  exact Fits.take_andThen (Fits.done _)

lemma fits_namedOf (hlocal : Local argument) (harg : Fits n argument) (name : String) :
    Fits n (namedOf name argument) := by
  rw [namedOf_eq]
  split_ifs
  · exact Fits.andThen (local_bracketed hlocal) (fits_bracketed hlocal harg) fun _ => Fits.done _
  · exact fits_choiceOf hlocal harg
  · exact Fits.andThen (local_argumentsOf hlocal) (fits_argumentsOf hlocal harg) fun _ =>
      Fits.done _

lemma fits_operandAfter {depth : Nat} (hoperand : Fits n (Formula.operand depth))
    (hexpression : Fits n (expression depth)) (x : Lexeme) : Fits n (operandAfter depth x) := by
  cases x with
  | operator op => exact Fits.andThen (local_operand depth) hoperand fun _ => Fits.done _
  | function name => exact fits_namedOf (local_expression depth) hexpression name
  | openParen =>
    rw [operandAfter]
    refine Fits.andThen (local_expression depth) hexpression fun _ => ?_
    exact Fits.take_andThen (Fits.done _)
  | closeParen | comma => exact Fits.fail
  | number | string | columnRef | identifier => exact Fits.done _

end

/-! ## Both readers -/

lemma fits_operand_expression (depth n : Nat) :
    (2 * n + 1 ≤ depth → Fits n (operand depth)) ∧
      (2 * n + 2 ≤ depth → Fits n (expression depth)) := by
  induction depth generalizing n with
  | zero => exact ⟨fun h => absurd h (by omega), fun h => absurd h (by omega)⟩
  | succ depth ih =>
    refine ⟨fun h => ?_, fun h => ?_⟩
    · rw [operand_succ]
      refine Fits.whenNext (fun m hm x => ?_) Fits.fail
      exact fits_operandAfter ((ih m).1 (by omega)) ((ih m).2 (by omega)) x
    · rw [expression_succ]
      refine fits_phraseReader (local_operand depth) (local_expression depth)
        ((ih n).1 (by omega)) (fun m hm => ?_) .disjunction
      exact (ih m).2 (by omega)

/-- A bound of twice the number of tokens and two is never too small. -/
lemma expression_ne_tooDeep {depth : Nat} {tokens : List Token}
    (h : 2 * tokens.length + 2 ≤ depth) : expression depth tokens ≠ .error .tooDeep :=
  (fits_operand_expression depth tokens.length).2 h tokens (Nat.le_refl _)

end TableFormula.Formula
