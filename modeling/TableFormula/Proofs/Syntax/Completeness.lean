import TableFormula.Proofs.Syntax.Locality

/-!
# What readers find

Where some tokens are a phrase, the reader of its rank gives the formula that the phrase stands for
and leaves what follows, unless it finds the nesting too deep.

**Why an induction over phrases needs more.**  A phrase of a left-recursive rank is the left part of
longer ones, and the reader of the rank does not stop after the left part.  So the induction says
where the *loop* of the rank gets to: the reader of the rank, before a phrase and what follows, does
what its loop does after the phrase.  What follows must not go on with the phrase at tighter ranks,
and it ends the phrase if it does not go on with it at its own rank either.
-/

namespace TableFormula.Formula

open Reader

variable {α β : Type}

/-! ## Outcomes up to nesting -/

/-- A reader gives a value and leaves some tokens, unless it finds the nesting too deep. -/
def Gives (R : Reader α) (tokens : List Token) (a : α) (rest : List Token) : Prop :=
  R tokens = .ok (a, rest) ∨ R tokens = .error .tooDeep

namespace Gives

lemma done (a : α) (rest : List Token) : Gives (Reader.done a) rest a rest :=
  .inl rfl

lemma andThen {first : Reader α} {second : α → Reader β} {tokens between rest : List Token} {a : α}
    {b : β} (hfirst : Gives first tokens a between) (hsecond : Gives (second a) between b rest) :
    Gives (first.andThen second) tokens b rest := by
  obtain hone | hone := hfirst
  · rw [Gives, andThen_ok hone]
    exact hsecond
  · exact .inr (andThen_error hone)

lemma take {kind : TokenKind} {second : Unit → Reader β} {token : Token} {tokens rest : List Token}
    {b : β} (hkind : token.lexeme.kind = kind) (h : Gives (second ()) tokens b rest) :
    Gives ((Reader.take kind).andThen second) (token :: tokens) b rest :=
  andThen (.inl (take_cons hkind tokens)) h

lemma whenNext {p : Lexeme → Bool} {next : Lexeme → Reader α} {other : Reader α} {token : Token}
    {tokens rest : List Token} {a : α} (hp : p token.lexeme = true)
    (h : Gives (next token.lexeme) tokens a rest) :
    Gives (Reader.whenNext p next other) (token :: tokens) a rest := by
  rw [Gives, whenNext_cons hp]
  exact h

lemma whenNext_of_not {p : Lexeme → Bool} {next : Lexeme → Reader α} {other : Reader α}
    {tokens rest : List Token} {a : α} (hp : ∀ token ∈ tokens.head?, p token.lexeme = false)
    (h : Gives other tokens a rest) : Gives (Reader.whenNext p next other) tokens a rest := by
  rw [Gives, Reader.whenNext_of_not hp]
  exact h

end Gives

/-! ## What ends a phrase -/

/-- Tokens that do not go on with a phrase of fewer than `n` tighter ranks. -/
def Closed (n : Nat) (rest : List Token) : Prop :=
  ∀ r : Rank, r.looseness < n → ∀ token ∈ rest.head?, r.continues token.lexeme = false

namespace Closed

lemma mono {m n : Nat} {rest : List Token} (h : Closed n rest) (hmn : m ≤ n) : Closed m rest :=
  fun r hr => h r (Nat.lt_of_lt_of_le hr hmn)

lemma nil (n : Nat) : Closed n [] := by
  intro r _ token h
  cases h

/-- Nothing goes on with primaries and operands. -/
lemma of_le_two {n : Nat} (hn : n ≤ 2) (rest : List Token) : Closed n rest := by
  intro r hr token _
  rcases r with _ | _ | (_ | _ | _ | _) | _ | _ <;>
    first | (cases token.lexeme <;> rfl) | (simp only [Rank.looseness] at hr; omega)

/-- Commas and closing brackets end every phrase. -/
lemma cons {token : Token} (h : token.lexeme = .comma ∨ token.lexeme = .closeParen) (n : Nat)
    (rest : List Token) : Closed n (token :: rest) := by
  intro r _ first hfirst
  cases hfirst
  obtain h | h := h <;> rw [h] <;> rfl

/-- What goes on with a phrase of a rank does not do so at tighter ranks. -/
lemma of_continues {r : Rank} {token : Token} (h : r.continues token.lexeme = true)
    (rest : List Token) : Closed r.looseness (token :: rest) := by
  intro s hs first hfirst
  cases hfirst
  by_contra hcontinues
  have hrs := Rank.eq_of_continues h (by simpa using hcontinues)
  rw [hrs] at hs
  exact Nat.lt_irrefl _ hs

end Closed

/-! ## Readers and loops of ranks -/

/-- The reader of a rank at some depth. -/
def readerOf (depth : Nat) (r : Rank) : Reader Formula :=
  phraseReader (operand depth) (expression depth) r

/-- The loop of a rank at some depth. -/
def loopOf (depth : Nat) (r : Rank) : Formula → Reader Formula :=
  goOn (r.extension (readerOf depth r.tighter) (expression depth))

lemma local_readerOf (depth : Nat) (r : Rank) : Local (readerOf depth r) :=
  local_phraseReader (local_operand depth) (local_expression depth) r

lemma loopOf_eq (depth : Nat) (r : Rank) (left : Formula) :
    loopOf depth r left =
      whenNext r.continues
        (fun x => (continuation (readerOf depth r.tighter) (expression depth) left x).andThen
          (loopOf depth r))
        (done left) :=
  goOn_eq (local_readerOf depth r.tighter) (local_expression depth) r left

lemma readerOf_of_le {r : Rank} (hr : r.looseness ≤ 1) (depth : Nat) :
    readerOf depth r = operand depth :=
  phraseReader_of_le hr _ _

lemma readerOf_of_not_le {r : Rank} (hr : ¬ r.looseness ≤ 1) (depth : Nat) :
    readerOf depth r = (readerOf depth r.tighter).andThen (loopOf depth r) :=
  phraseReader_of_not_le hr _ _

/-- A loop ends where the next lexeme does not go on with phrases of its rank. -/
lemma loopOf_of_closed {r : Rank} {rest : List Token} (h : Closed (r.looseness + 1) rest)
    (depth : Nat) (left : Formula) : loopOf depth r left rest = .ok (left, rest) := by
  rw [loopOf_eq, whenNext_of_not (h r (Nat.lt_succ_self _))]
  rfl

/-! ## Phrases -/

/-- Some lexemes are found to be a phrase of a rank for a formula: before them and what does not go
on with them at tighter ranks, the reader of the rank does what its loop does after them. -/
def Found (r : Rank) (w : List Lexeme) (f : Formula) : Prop :=
  ∀ depth tokens rest, lexemes tokens = w → Closed r.looseness rest →
    readerOf depth r (tokens ++ rest) = loopOf depth r f rest ∨
      readerOf depth r (tokens ++ rest) = .error .tooDeep

namespace Found

variable {r : Rank} {w : List Lexeme} {f : Formula}

/-- A phrase that nothing goes on with is read. -/
lemma gives (h : Found r w f) (depth : Nat) {tokens rest : List Token}
    (htokens : lexemes tokens = w) (hclosed : Closed (r.looseness + 1) rest) :
    Gives (readerOf depth r) (tokens ++ rest) f rest := by
  obtain hread | hread := h depth tokens rest htokens (hclosed.mono (Nat.le_succ _))
  · rw [loopOf_of_closed hclosed] at hread
    exact .inl hread
  · exact .inr hread

/-- A sentence that nothing goes on with is read. -/
lemma gives_expression (h : Found .disjunction w f) (depth : Nat) {tokens rest : List Token}
    (htokens : lexemes tokens = w) (hclosed : Closed 8 rest) :
    Gives (expression depth) (tokens ++ rest) f rest := by
  rcases depth with _ | depth
  · exact .inr (expression_zero _)
  · rw [expression_succ]
    exact h.gives depth htokens hclosed

/-- An operand is found if it is read. -/
lemma of_gives (hr : r.looseness ≤ 1)
    (h : ∀ depth tokens rest, lexemes tokens = w → Gives (operand depth) (tokens ++ rest) f rest) :
    Found r w f := by
  intro depth tokens rest htokens _
  rw [readerOf_of_le hr, loopOf_of_closed (Closed.of_le_two (by omega) rest)]
  exact h depth tokens rest htokens

lemma of_operandAfter {x : Lexeme} (hr : r.looseness ≤ 1) (hx : beginsOperand x = true)
    (h : ∀ depth tokens rest, lexemes tokens = w →
      Gives (operandAfter depth x) (tokens ++ rest) f rest) : Found r (x :: w) f := by
  refine of_gives hr fun depth tokens rest htokens => ?_
  obtain ⟨token, others, rfl, rfl, hothers⟩ := eq_cons_of_lexemes htokens
  rcases depth with _ | depth
  · exact .inr (operand_zero _)
  · rw [operand_succ]
    exact Gives.whenNext hx (h depth others rest hothers)

end Found

/-! ## Brackets and lists -/

lemma gives_bracketed {inner : Reader α} {tokens rest : List Token} {w : List Lexeme} {a : α}
    (htokens : lexemes tokens = .openParen :: (w ++ [.closeParen]))
    (h : ∀ between last, lexemes between = w → last.lexeme = .closeParen →
      Gives inner (between ++ last :: rest) a (last :: rest)) :
    Gives (bracketed inner) (tokens ++ rest) a rest := by
  obtain ⟨first, others, rfl, hfirst, hothers⟩ := eq_cons_of_lexemes htokens
  obtain ⟨between, last, rfl, hbetween, hlast⟩ := eq_concat_of_lexemes hothers
  rw [bracketed_eq, List.cons_append, List.append_assoc]
  refine Gives.take (by rw [hfirst]; rfl) ((h between last hbetween hlast).andThen ?_)
  exact Gives.take (by rw [hlast]; rfl) (Gives.done a rest)

lemma gives_items {parts : List Part} (hne : parts ≠ [])
    (hparts : ∀ part ∈ parts, Found .disjunction part.1 part.2) (depth : Nat)
    {tokens rest : List Token} {last : Token} (htokens : lexemes tokens = separated parts)
    (hlast : last.lexeme = .closeParen) :
    Gives (items (expression depth)) (tokens ++ last :: rest) (parts.map (·.2))
      (last :: rest) := by
  induction parts generalizing tokens with
  | nil => exact absurd rfl hne
  | cons part parts ih =>
    have hpart := hparts part List.mem_cons_self
    rw [items_eq (local_expression depth)]
    rcases parts with _ | ⟨other, parts⟩
    · rw [separated_singleton] at htokens
      refine (hpart.gives_expression depth htokens (Closed.cons (.inr hlast) 8 rest)).andThen ?_
      refine Gives.whenNext_of_not ?_ (Gives.done _ _)
      simp [hlast]
    · rw [separated_cons_cons] at htokens
      obtain ⟨first, comma, others, rfl, hfirst, hcomma, hothers⟩ :=
        eq_append_cons_of_lexemes htokens
      have hparts' : ∀ part ∈ other :: parts, Found .disjunction part.1 part.2 :=
        fun part hmem => hparts part (List.mem_cons_of_mem _ hmem)
      have hread := ih (by simp) hparts' hothers
      rw [List.append_assoc, List.cons_append]
      refine (hpart.gives_expression depth hfirst (Closed.cons (.inl hcomma) 8 _)).andThen ?_
      refine Gives.whenNext (by simp [hcomma]) (hread.andThen ?_)
      exact Gives.done _ _

namespace Found

/-! ## Operands -/

lemma of_done {x : Lexeme} {f : Formula} (hx : beginsOperand x = true)
    (h : ∀ depth, operandAfter depth x = done f) : Found .primary [x] f := by
  refine of_operandAfter (by decide) hx fun depth tokens rest htokens => ?_
  obtain rfl : tokens = [] := List.map_eq_nil_iff.mp htokens
  rw [h depth]
  exact Gives.done f rest

lemma grouped {w : List Lexeme} {f : Formula} (h : Found .disjunction w f) :
    Found .primary (.openParen :: (w ++ [.closeParen])) f := by
  refine of_operandAfter (by decide) rfl fun depth tokens rest htokens => ?_
  obtain ⟨between, last, rfl, hbetween, hlast⟩ := eq_concat_of_lexemes htokens
  rw [operandAfter, List.append_assoc]
  refine (h.gives_expression depth hbetween (Closed.cons (.inr hlast) 8 rest)).andThen ?_
  exact Gives.take (by rw [hlast]; rfl) (Gives.done f rest)

lemma negate {w : List Lexeme} {f : Formula} (h : Found .operand w f) :
    Found .operand (.operator .subtract :: w) (.unary .negate f) := by
  refine of_operandAfter (by decide) rfl fun depth tokens rest htokens => ?_
  have hread := h.gives depth htokens (Closed.of_le_two (by decide) rest)
  rw [readerOf_of_le (by decide)] at hread
  rw [operandAfter]
  exact hread.andThen (Gives.done _ rest)

lemma not {w : List Lexeme} {f : Formula} (h : Found .disjunction w f) :
    Found .operand (.function "NOT" :: .openParen :: (w ++ [.closeParen])) (.unary .not f) := by
  refine of_operandAfter (by decide) rfl fun depth tokens rest htokens => ?_
  rw [operandAfter, namedOf_eq, if_pos rfl]
  refine (gives_bracketed htokens fun between last hbetween hlast => ?_).andThen (Gives.done _ rest)
  exact h.gives_expression depth hbetween (Closed.cons (.inr hlast) 8 rest)

lemma call {name : String} {parts : List Part} (hif : name ≠ "IF") (hnot : name ≠ "NOT")
    (hparts : ∀ part ∈ parts, Derives .disjunction part.1 part.2)
    (hfound : ∀ part ∈ parts, Found .disjunction part.1 part.2) :
    Found .primary (.function name :: .openParen :: (separated parts ++ [.closeParen]))
      (.call name (parts.map (·.2))) := by
  refine of_operandAfter (by decide) rfl fun depth tokens rest htokens => ?_
  rw [operandAfter, namedOf_eq, if_neg hnot, if_neg hif]
  refine Gives.andThen ?_ (Gives.done _ rest)
  obtain ⟨first, others, rfl, hfirst, hothers⟩ := eq_cons_of_lexemes htokens
  obtain ⟨between, last, rfl, hbetween, hlast⟩ := eq_concat_of_lexemes hothers
  rw [argumentsOf_eq, List.cons_append, List.append_assoc]
  refine Gives.take (by rw [hfirst]; rfl) ?_
  by_cases hempty : parts = []
  · subst hempty
    obtain rfl : between = [] := List.map_eq_nil_iff.mp hbetween
    exact Gives.whenNext (by simp [hlast]) (Gives.done _ rest)
  · obtain ⟨x, more, hx, hne⟩ := Derives.exists_cons_separated hempty hparts
    obtain ⟨token, others, rfl, rfl, -⟩ := eq_cons_of_lexemes (hbetween.trans hx)
    refine Gives.whenNext_of_not (by simpa using hne) ?_
    refine (gives_items hempty hfound depth hbetween hlast).andThen ?_
    exact Gives.take (by rw [hlast]; rfl) (Gives.done _ rest)

lemma choose {w₁ w₂ w₃ : List Lexeme} {condition whenTrue whenFalse : Formula}
    (hcondition : Found .disjunction w₁ condition) (hwhenTrue : Found .disjunction w₂ whenTrue)
    (hwhenFalse : Found .disjunction w₃ whenFalse) :
    Found .primary
      (.function "IF" :: .openParen :: (w₁ ++ .comma :: (w₂ ++ .comma :: (w₃ ++ [.closeParen]))))
      (.choose condition whenTrue whenFalse) := by
  refine of_operandAfter (by decide) rfl fun depth tokens rest htokens => ?_
  obtain ⟨first, ts, rfl, hfirst, h⟩ := eq_cons_of_lexemes htokens
  obtain ⟨ts₁, comma, ts, rfl, h₁, hcomma, h⟩ := eq_append_cons_of_lexemes h
  obtain ⟨ts₂, comma', ts, rfl, h₂, hcomma', h⟩ := eq_append_cons_of_lexemes h
  obtain ⟨ts₃, last, rfl, h₃, hlast⟩ := eq_concat_of_lexemes h
  rw [operandAfter, namedOf_eq, if_neg (by decide), if_pos rfl, choiceOf_eq]
  simp only [List.cons_append, List.append_assoc, List.nil_append]
  refine Gives.take (by rw [hfirst]; rfl) ?_
  refine (hcondition.gives_expression depth h₁ (Closed.cons (.inl hcomma) 8 _)).andThen ?_
  refine Gives.take (by rw [hcomma]; rfl) ?_
  refine (hwhenTrue.gives_expression depth h₂ (Closed.cons (.inl hcomma') 8 _)).andThen ?_
  refine Gives.take (by rw [hcomma']; rfl) ?_
  refine (hwhenFalse.gives_expression depth h₃ (Closed.cons (.inr hlast) 8 rest)).andThen ?_
  exact Gives.take (by rw [hlast]; rfl) (Gives.done _ rest)

/-! ## Longer phrases -/

/-- **What goes on with a phrase.**  The loop of the rank reads it and goes on after it. -/
lemma of_continuation {r : Rank} {w v : List Lexeme} {left f : Formula} {x : Lexeme}
    (hx : r.continues x = true) (hleft : Found r w left)
    (h : ∀ depth tokens rest, lexemes tokens = v → Closed r.looseness rest →
      Gives (continuation (readerOf depth r.tighter) (expression depth) left x) (tokens ++ rest)
        f rest) : Found r (w ++ x :: v) f := by
  intro depth tokens rest htokens hclosed
  obtain ⟨first, token, others, rfl, hfirst, rfl, hothers⟩ := eq_append_cons_of_lexemes htokens
  rw [List.append_assoc, List.cons_append]
  obtain hread | hread := hleft depth first (token :: (others ++ rest)) hfirst
    (Closed.of_continues hx _)
  · rw [hread, loopOf_eq, whenNext_cons hx]
    obtain hnext | hnext := h depth others rest hothers hclosed
    · rw [andThen_ok hnext]
      exact .inl rfl
    · exact .inr (andThen_error hnext)
  · exact .inr hread

lemma binary {level : Level} {op : Operator} {w₁ w₂ : List Lexeme} {left right : Formula}
    (hop : op.level? = some level) (hleft : Found (.operators level) w₁ left)
    (hright : Found (Rank.operators level).tighter w₂ right) :
    Found (.operators level) (w₁ ++ .operator op :: w₂) (.binary op left right) := by
  refine of_continuation (by simp [Rank.continues, hop]) hleft fun depth tokens rest htokens h => ?_
  rw [continuation]
  refine Gives.andThen (hright.gives depth htokens (h.mono ?_)) (Gives.done _ rest)
  cases level <;> decide

lemma connect {r : Rank} {name : String} {w : List Lexeme} {left : Formula} {parts : List Part}
    (hname : r.connective? = some name) (hleft : Found r w left) (hne : parts ≠ [])
    (hparts : ∀ part ∈ parts, Found .disjunction part.1 part.2) :
    Found r (w ++ .function name :: .openParen :: (separated parts ++ [.closeParen]))
      (.call name (left :: parts.map (·.2))) := by
  have hcontinues : r.continues (.function name) = true := by simp [Rank.continues, hname]
  refine of_continuation hcontinues hleft fun depth tokens rest htokens _ => ?_
  rw [continuation]
  refine (gives_bracketed htokens fun between last hbetween hlast => ?_).andThen (Gives.done _ rest)
  exact gives_items hne hparts depth hbetween hlast

lemma tighter {r : Rank} {w : List Lexeme} {f : Formula} (h : Found r.tighter w f) :
    Found r w f := by
  intro depth tokens rest htokens hclosed
  have htighter := r.looseness_tighter
  by_cases hr : r.looseness ≤ 1
  · have hread := h.gives depth htokens (Closed.of_le_two (by omega) rest)
    rw [readerOf_of_le (by omega)] at hread
    rw [readerOf_of_le hr, loopOf_of_closed (Closed.of_le_two (by omega) rest)]
    exact hread
  · rw [readerOf_of_not_le hr]
    obtain hread | hread := h.gives depth htokens (hclosed.mono (by omega))
    · exact .inl (andThen_ok hread)
    · exact .inr (andThen_error hread)

end Found

/-! ## Completeness -/

/-- **Completeness.**  Every phrase is found. -/
lemma Derives.found {r : Rank} {w : List Lexeme} {f : Formula} (h : Derives r w f) :
    Found r w f := by
  induction h with
  | number | text | columnRef | identifier => exact .of_done rfl fun _ => rfl
  | choose _ _ _ ih₁ ih₂ ih₃ => exact .choose ih₁ ih₂ ih₃
  | call hif hnot hparts ih => exact .call hif hnot hparts ih
  | grouped _ ih => exact .grouped ih
  | negate _ ih => exact .negate ih
  | not _ ih => exact .not ih
  | binary hop _ _ ih₁ ih₂ => exact .binary hop ih₁ ih₂
  | connect hname _ hne _ ih ihs => exact .connect hname ih hne ihs
  | tighter _ ih => exact .tighter ih

/-- A sentence with nothing after it is read, unless the nesting is found too deep. -/
lemma Derives.gives {tokens : List Token} {f : Formula} (h : Sentence (lexemes tokens) f)
    (depth : Nat) : Gives (expression depth) tokens f [] := by
  have hread := h.found.gives_expression depth rfl (Closed.nil 8)
  rwa [List.append_nil] at hread

end TableFormula.Formula
