import TableFormula.Proofs.Syntax.Reader

/-!
# One lexeme ahead

What a reader does depends on the lexemes that it takes and on the one after them, and on nothing
else.  So it does the same where other tokens follow, as long as they begin with the same lexeme or
there are none: a reader that goes no further before some lexeme goes no further before the end.

The bounds of the loops are not part of this.  They are taken from the number of tokens, and
`commaList_eq_of_lt` and `extend_eq_of_le` say that a bound that is large enough does not show.
-/

namespace TableFormula.Formula

open Reader

variable {α β : Type}

/-- Tokens that a reader cannot tell from others by their first lexeme, or none at all. -/
def Alike (rest rest' : List Token) : Prop :=
  rest' = [] ∨ rest'.head?.map Token.lexeme = rest.head?.map Token.lexeme

/-- An outcome with other tokens left over. -/
def withRest (rest' : List Token) : Except Stop (α × List Token) → Except Stop (α × List Token)
  | .ok (a, _) => .ok (a, rest')
  | .error (.expected kind _) => .error (.expected kind rest')
  | .error (.unexpected _) => .error (.unexpected rest')
  | .error .tooDeep => .error .tooDeep

/-- The outcome of a reader depends on what it takes and on the lexeme after that. -/
def Local (R : Reader α) : Prop :=
  ∀ tokens rest, leftOver (R tokens) = some rest → ∃ taken, tokens = taken ++ rest ∧
    ∀ rest', Alike rest rest' → R (taken ++ rest') = withRest rest' (R tokens)

namespace Alike

lemma append_left {rest rest' : List Token} (h : Alike rest rest') (taken : List Token) :
    Alike (taken ++ rest) (taken ++ rest') := by
  rcases taken with _ | ⟨token, taken⟩
  · exact h
  · exact .inr rfl

/-- Tokens alike to some are none, or begin with the same lexeme. -/
lemma cases_cons {token : Token} {rest rest' : List Token} (h : Alike (token :: rest) rest') :
    rest' = [] ∨ ∃ token' others, rest' = token' :: others ∧ token'.lexeme = token.lexeme := by
  rcases rest' with _ | ⟨token', others⟩
  · exact .inl rfl
  · refine .inr ⟨token', others, rfl, ?_⟩
    simpa [Alike] using h

lemma eq_nil {rest' : List Token} (h : Alike [] rest') : rest' = [] := by
  rcases rest' with _ | ⟨token', others⟩
  · rfl
  · simp [Alike] at h

end Alike

namespace Local

/-- What a reader leaves is the end of what it got. -/
lemma length_le {R : Reader α} (hR : Local R) {tokens rest : List Token} {a : α}
    (h : R tokens = .ok (a, rest)) : rest.length ≤ tokens.length := by
  obtain ⟨taken, rfl, _⟩ := hR tokens rest (by rw [h, leftOver_ok])
  simp

/-! ## Rules -/

lemma done (a : α) : Local (Reader.done a) := by
  intro tokens rest h
  cases h
  exact ⟨[], rfl, fun rest' _ => rfl⟩

lemma fail : Local (Reader.fail (α := α)) := by
  intro tokens rest h
  cases h
  exact ⟨[], rfl, fun rest' _ => rfl⟩

lemma take (kind : TokenKind) : Local (Reader.take kind) := by
  intro tokens rest h
  rcases tokens with _ | ⟨token, tokens⟩
  · cases h
    refine ⟨[], rfl, fun rest' halike => ?_⟩
    rw [halike.eq_nil]
    rfl
  by_cases hkind : token.lexeme.kind = kind
  · rw [Reader.take_cons hkind] at h ⊢
    cases h
    exact ⟨[token], rfl, fun rest' _ => Reader.take_cons hkind rest'⟩
  · have hstop : Reader.take kind (token :: tokens) =
        .error (.expected kind (token :: tokens)) := by
      simp [Reader.take, expect, hkind, bind, Except.bind]
    rw [hstop] at h ⊢
    cases h
    refine ⟨[], rfl, fun rest' halike => ?_⟩
    obtain rfl | ⟨token', others, rfl, hsame⟩ := halike.cases_cons
    · rfl
    · simp [Reader.take, expect, hsame, hkind, bind, Except.bind, withRest]

lemma whenNext {p : Lexeme → Bool} {next : Lexeme → Reader α} {other : Reader α}
    (hnext : ∀ x, p x = true → Local (next x)) (hother : Local other) :
    Local (Reader.whenNext p next other) := by
  intro tokens rest h
  rcases tokens with _ | ⟨token, tokens⟩
  · obtain ⟨taken, htokens, hlocal⟩ := hother [] rest h
    obtain ⟨rfl, rfl⟩ := List.append_eq_nil_iff.mp htokens.symm
    refine ⟨[], rfl, fun rest' halike => ?_⟩
    rw [halike.eq_nil]
    exact hlocal [] (.inl rfl)
  by_cases hp : p token.lexeme = true
  · rw [whenNext_cons hp] at h ⊢
    obtain ⟨taken, rfl, hlocal⟩ := hnext _ hp _ _ h
    refine ⟨token :: taken, rfl, fun rest' halike => ?_⟩
    rw [List.cons_append, whenNext_cons hp]
    exact hlocal rest' halike
  · have hnot : p token.lexeme = false := by simpa using hp
    rw [whenNext_of_not (by simpa using hnot)] at h ⊢
    obtain ⟨taken, htokens, hlocal⟩ := hother _ _ h
    refine ⟨taken, htokens, fun rest' halike => ?_⟩
    rw [← hlocal rest' halike]
    refine whenNext_of_not fun first hfirst => ?_
    -- The first token is the old one, or one alike to it where nothing was taken.
    have halike' : Alike (token :: tokens) (taken ++ rest') := by
      rw [htokens]
      exact halike.append_left taken
    obtain hnil | ⟨token', others, hcons, hsame⟩ := halike'.cases_cons
    · simp [hnil] at hfirst
    · rw [hcons] at hfirst
      cases hfirst
      rwa [hsame]

lemma andThen {first : Reader α} {second : α → Reader β} (hfirst : Local first)
    (hsecond : ∀ a, Local (second a)) : Local (first.andThen second) := by
  intro tokens rest h
  cases hone : first tokens with
  | error stop =>
    rw [Reader.andThen_error hone] at h ⊢
    obtain ⟨taken, rfl, hlocal⟩ := hfirst tokens rest (by rw [hone]; exact h)
    refine ⟨taken, rfl, fun rest' halike => ?_⟩
    have hread := hlocal rest' halike
    rw [hone] at hread
    cases stop <;> exact Reader.andThen_error hread
  | ok pair =>
    obtain ⟨a, between⟩ := pair
    rw [Reader.andThen_ok hone] at h ⊢
    obtain ⟨taken, rfl, hlocal⟩ := hfirst tokens between (by rw [hone, leftOver_ok])
    obtain ⟨others, rfl, hlocal'⟩ := hsecond a _ _ h
    refine ⟨taken ++ others, (List.append_assoc _ _ _).symm, fun rest' halike => ?_⟩
    have hread := hlocal (others ++ rest') (halike.append_left others)
    rw [hone] at hread
    rw [List.append_assoc, Reader.andThen_ok hread]
    exact hlocal' rest' halike

/-- A reader that takes its bound from the number of tokens, where a larger bound does not show. -/
lemma of_bound {R : Reader α} {bounded : Nat → Reader α} (hbounded : ∀ fuel, Local (bounded fuel))
    (hR : ∀ tokens fuel, tokens.length < fuel → R tokens = bounded fuel tokens) : Local R := by
  intro tokens rest h
  have hread := hR tokens _ (Nat.lt_succ_self _)
  obtain ⟨taken, htokens, -⟩ := hbounded _ tokens rest (hread ▸ h)
  refine ⟨taken, htokens, fun rest' halike => ?_⟩
  -- One bound that is large enough for both lists of tokens.
  let fuel := tokens.length + (taken ++ rest').length + 1
  have hfuel : R tokens = bounded fuel tokens := hR tokens fuel (by omega)
  have hfuel' : R (taken ++ rest') = bounded fuel (taken ++ rest') :=
    hR (taken ++ rest') fuel (by omega)
  obtain ⟨taken', htokens', hlocal⟩ := hbounded fuel tokens rest (hfuel ▸ h)
  obtain rfl : taken' = taken := List.append_cancel_right (htokens'.symm.trans htokens)
  rw [hfuel, hfuel']
  exact hlocal rest' halike

end Local

/-! ## Brackets and lists -/

section

variable {operand tighter argument : Reader Formula}

lemma local_bracketed {inner : Reader α} (h : Local inner) : Local (bracketed inner) := by
  rw [bracketed_eq]
  exact (Local.take _).andThen fun _ => h.andThen fun _ => (Local.take _).andThen fun _ =>
    Local.done _

lemma local_commaList (harg : Local argument) (fuel : Nat) : Local (commaList argument fuel) := by
  induction fuel with
  | zero => exact Local.fail
  | succ fuel ih =>
    rw [commaList_succ]
    refine harg.andThen fun first => Local.whenNext (fun _ _ => ?_) (Local.done _)
    exact ih.andThen fun others => Local.done _

/-- A bound above the number of tokens does not show. -/
lemma commaList_eq_of_lt (harg : Local argument) {fuel fuel' : Nat} {tokens : List Token}
    (h : tokens.length < fuel) (h' : tokens.length < fuel') :
    commaList argument fuel tokens = commaList argument fuel' tokens := by
  induction fuel generalizing fuel' tokens with
  | zero => exact absurd h (Nat.not_lt_zero _)
  | succ fuel ih =>
    obtain ⟨fuel', rfl⟩ := Nat.exists_eq_succ_of_ne_zero (Nat.ne_of_gt (Nat.zero_lt_of_lt h'))
    rw [commaList_succ, commaList_succ]
    refine andThen_congr fun first rest hfirst => whenNext_congr fun token others hrest => ?_
    have hle := harg.length_le hfirst
    rw [hrest, List.length_cons] at hle
    have hothers : commaList argument fuel others = commaList argument fuel' others :=
      ih (by omega) (by omega)
    rw [Reader.andThen, Reader.andThen, hothers]

/-- A list without its bound. -/
lemma items_eq (harg : Local argument) :
    items argument = argument.andThen fun first =>
      whenNext (· == .comma)
        (fun _ => (items argument).andThen fun others => done (first :: others))
        (done [first]) := by
  funext tokens
  rw [items, commaList_succ]
  refine andThen_congr fun first rest hfirst => whenNext_congr fun token others hrest => ?_
  have hle := harg.length_le hfirst
  rw [hrest, List.length_cons] at hle
  have hothers : commaList argument tokens.length others = items argument others :=
    commaList_eq_of_lt harg hle (Nat.lt_succ_self _)
  rw [Reader.andThen, Reader.andThen, hothers]

lemma local_items (harg : Local argument) : Local (items argument) :=
  Local.of_bound (local_commaList harg) fun _ _ hfuel =>
    commaList_eq_of_lt harg (Nat.lt_succ_self _) hfuel

/-! ## Loops -/

lemma local_continuation (htighter : Local tighter) (harg : Local argument) (left : Formula)
    (x : Lexeme) : Local (continuation tighter argument left x) := by
  cases x with
  | operator op => exact htighter.andThen fun _ => Local.done _
  | function name =>
    rw [continuation]
    exact (local_bracketed (local_items harg)).andThen fun _ => Local.done _
  | _ => exact Local.fail

lemma local_extend (htighter : Local tighter) (harg : Local argument) (r : Rank) (fuel : Nat)
    (left : Formula) : Local (extend (r.extension tighter argument) fuel left) := by
  induction fuel generalizing left with
  | zero => exact Local.done left
  | succ fuel ih =>
    rw [extend_succ]
    refine Local.whenNext (fun x _ => ?_) (Local.done left)
    exact (local_continuation htighter harg left x).andThen ih

/-- A bound of at least the number of tokens does not show. -/
lemma extend_eq_of_le (htighter : Local tighter) (harg : Local argument) (r : Rank)
    {fuel fuel' : Nat} {left : Formula} {tokens : List Token} (h : tokens.length ≤ fuel)
    (h' : tokens.length ≤ fuel') :
    extend (r.extension tighter argument) fuel left tokens =
      extend (r.extension tighter argument) fuel' left tokens := by
  induction fuel generalizing fuel' left tokens with
  | zero =>
    obtain rfl := List.length_eq_zero_iff.mp (Nat.le_zero.mp h)
    rw [extend_nil, extend_nil]
  | succ fuel ih =>
    rcases fuel' with _ | fuel'
    · obtain rfl := List.length_eq_zero_iff.mp (Nat.le_zero.mp h')
      rw [extend_nil, extend_nil]
    rw [extend_succ, extend_succ]
    refine whenNext_congr fun token others htokens => andThen_congr fun next rest hnext => ?_
    have hle := (local_continuation htighter harg left _).length_le hnext
    rw [htokens, List.length_cons] at h h'
    exact ih (by omega) (by omega)

/-- The loop of a rank without its bound. -/
lemma goOn_eq (htighter : Local tighter) (harg : Local argument) (r : Rank) (left : Formula) :
    goOn (r.extension tighter argument) left =
      whenNext r.continues
        (fun x => (continuation tighter argument left x).andThen
          (goOn (r.extension tighter argument)))
        (done left) := by
  funext tokens
  rcases tokens with _ | ⟨token, tokens⟩
  · exact extend_nil r tighter argument 0 left
  rw [goOn, List.length_cons, extend_succ]
  refine whenNext_congr fun first others hcons => andThen_congr fun next rest hnext => ?_
  cases hcons
  have hle := (local_continuation htighter harg left _).length_le hnext
  exact extend_eq_of_le htighter harg r hle (Nat.le_refl _)

lemma local_goOn (htighter : Local tighter) (harg : Local argument) (r : Rank) (left : Formula) :
    Local (goOn (r.extension tighter argument) left) :=
  Local.of_bound (fun fuel => local_extend htighter harg r fuel left) fun _ _ hfuel =>
    extend_eq_of_le htighter harg r (Nat.le_refl _) (Nat.le_of_lt hfuel)

lemma local_phraseReader (hoperand : Local operand) (harg : Local argument) (r : Rank) :
    Local (phraseReader operand argument r) := by
  induction r using phraseReader.induct with
  | case1 r hle =>
    rw [phraseReader_of_le hle]
    exact hoperand
  | case2 r hle htighter =>
    rw [phraseReader_of_not_le hle]
    exact htighter.andThen (local_goOn htighter harg r)

/-! ## Operands -/

lemma local_choiceOf (harg : Local argument) : Local (choiceOf argument) := by
  rw [choiceOf_eq]
  refine (Local.take _).andThen fun _ => harg.andThen fun _ => ?_
  refine (Local.take _).andThen fun _ => harg.andThen fun _ => ?_
  refine (Local.take _).andThen fun _ => harg.andThen fun _ => ?_
  exact (Local.take _).andThen fun _ => Local.done _

lemma local_argumentsOf (harg : Local argument) : Local (argumentsOf argument) := by
  rw [argumentsOf_eq]
  refine (Local.take _).andThen fun _ => Local.whenNext (fun _ _ => Local.done _) ?_
  exact (local_items harg).andThen fun _ => (Local.take _).andThen fun _ => Local.done _

lemma local_namedOf (harg : Local argument) (name : String) : Local (namedOf name argument) := by
  rw [namedOf_eq]
  split_ifs
  · exact (local_bracketed harg).andThen fun _ => Local.done _
  · exact local_choiceOf harg
  · exact (local_argumentsOf harg).andThen fun _ => Local.done _

lemma local_operandAfter {depth : Nat} (hoperand : Local (Formula.operand depth))
    (hexpression : Local (expression depth)) (x : Lexeme) : Local (operandAfter depth x) := by
  cases x with
  | operator op => exact hoperand.andThen fun _ => Local.done _
  | function name => exact local_namedOf hexpression name
  | openParen =>
    rw [operandAfter]
    exact hexpression.andThen fun _ => (Local.take _).andThen fun _ => Local.done _
  | closeParen | comma => exact Local.fail
  | number | string | columnRef | identifier => exact Local.done _

end

/-! ## Both readers -/

lemma local_operand_expression (depth : Nat) :
    Local (operand depth) ∧ Local (expression depth) := by
  induction depth with
  | zero =>
    refine ⟨fun tokens rest h => ?_, fun tokens rest h => ?_⟩
    · rw [operand_zero] at h
      cases h
    · rw [expression_zero] at h
      cases h
  | succ depth ih =>
    obtain ⟨hoperand, hexpression⟩ := ih
    refine ⟨?_, ?_⟩
    · rw [operand_succ]
      exact Local.whenNext (fun x _ => local_operandAfter hoperand hexpression x) Local.fail
    · rw [expression_succ]
      exact local_phraseReader hoperand hexpression .disjunction

lemma local_operand (depth : Nat) : Local (operand depth) :=
  (local_operand_expression depth).1

lemma local_expression (depth : Nat) : Local (expression depth) :=
  (local_operand_expression depth).2

end TableFormula.Formula
