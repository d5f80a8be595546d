import TableFormula.Proofs.Syntax.Soundness
import TableFormula.Proofs.Syntax.Nesting
import TableFormula.Proofs.Syntax.Completeness

/-!
# The language of formulas

**How far reading goes.**  An expression is read as far as some sentence goes on with what has been
taken.  It is not read any further, because what follows does not go on with a sentence; and it is
not read any less far: if one more lexeme could have been part of a sentence, then the reader would
take that lexeme in the whole sentence, and it looks no further ahead than that.

**What comes of it.**  What was taken is a sentence or only the beginning of one.  In the first case
the formula that it stands for is read, and there is only one.  In the second case reading stops at
the token after it.
-/

namespace TableFormula.Formula

/-! ## Viable beginnings -/

/-- The longest beginning of a list that some sentence begins with has this length. -/
structure LongestViable (w : List Lexeme) (n : Nat) : Prop where
  le_length : n ≤ w.length
  viable : Viable (w.take n)
  longest : ∀ k ≤ w.length, Viable (w.take k) → k ≤ n

lemma LongestViable.unique {w : List Lexeme} {m n : Nat} (hm : LongestViable w m)
    (hn : LongestViable w n) : m = n :=
  Nat.le_antisymm (hn.longest m hm.le_length hm.viable) (hm.longest n hn.le_length hn.viable)

/-- Some tokens with given lexemes. -/
def tokensOf (w : List Lexeme) : List Token :=
  w.map fun x => ⟨x, 0⟩

@[simp] lemma lexemes_tokensOf (w : List Lexeme) : lexemes (tokensOf w) = w := by
  rw [lexemes, tokensOf, List.map_map]
  exact List.map_id w

/-- A beginning is the longest viable one if it is viable and does not stay so with one lexeme
more. -/
lemma LongestViable.of_append {w v : List Lexeme} (hviable : Viable w)
    (hmaximal : ∀ x others, v = x :: others → ¬ Viable (w ++ [x])) :
    LongestViable (w ++ v) w.length where
  le_length := by simp
  viable := by rwa [List.take_left]
  longest k hk hviable' := by
    by_contra hlt
    have hlt' : w.length < k := Nat.lt_of_not_le hlt
    rcases v with _ | ⟨x, others⟩
    · rw [List.append_nil] at hk
      exact hlt hk
    · obtain ⟨n, rfl⟩ := Nat.exists_eq_add_of_lt hlt'
      refine hmaximal x others rfl (?_)
      have htake : (w ++ x :: others).take (w.length + n + 1) = (w ++ [x]) ++ others.take n := by
        rw [Nat.add_assoc, List.take_length_add_append, List.take_succ_cons, List.append_assoc,
          List.singleton_append]
      rw [htake] at hviable'
      exact hviable'.of_append

/-! ## Sentences and what is read -/

/-- **Unambiguity.**  A sentence stands for one formula. -/
lemma Sentence.unique {w : List Lexeme} {f g : Formula} (hf : Sentence w f) (hg : Sentence w g) :
    f = g := by
  let depth := 2 * (tokensOf w).length + 2
  have hshallow : expression depth (tokensOf w) ≠ .error .tooDeep :=
    expression_ne_tooDeep (Nat.le_refl _)
  rw [← lexemes_tokensOf w] at hf hg
  obtain hread | hread := hf.gives depth
  · obtain hread' | hread' := hg.gives depth
    · rw [hread] at hread'
      cases hread'
      rfl
    · exact absurd hread' hshallow
  · exact absurd hread hshallow

lemma exists_leftOver {α : Type} {outcome : Except Stop (α × List Token)}
    (h : outcome ≠ .error .tooDeep) : ∃ rest, leftOver outcome = some rest := by
  rcases outcome with (⟨_, rest⟩ | rest | _) | ⟨_, rest⟩
  · exact ⟨rest, rfl⟩
  · exact ⟨rest, rfl⟩
  · exact absurd rfl h
  · exact ⟨rest, rfl⟩

lemma leftOver_withRest {α : Type} {outcome : Except Stop (α × List Token)} {rest : List Token}
    (h : leftOver outcome = some rest) (rest' : List Token) :
    leftOver (withRest rest' outcome) = some rest' := by
  rcases outcome with (_ | _ | _) | ⟨a, _⟩
  · rfl
  · rfl
  · cases h
  · rfl

lemma eq_ok_of_withRest {α : Type} {outcome : Except Stop (α × List Token)} {a : α}
    {rest rest' : List Token} (h : withRest rest' outcome = .ok (a, rest'))
    (hrest : leftOver outcome = some rest) : outcome = .ok (a, rest) := by
  rcases outcome with (_ | _ | _) | ⟨b, _⟩
  · cases h
  · cases h
  · cases h
  · cases h
    cases hrest
    rfl

/-- Where a sentence is all there is, nothing of it is left over. -/
lemma Sentence.leftOver_eq_nil {tokens rest : List Token} {f : Formula}
    (hf : Sentence (lexemes tokens) f) {depth : Nat}
    (h : leftOver (expression depth tokens) = some rest) : rest = [] := by
  obtain hread | hread := hf.gives depth
  · rw [hread] at h
    cases h
    rfl
  · rw [hread] at h
    cases h

/-- What is taken is viable. -/
lemma viable_taken {depth : Nat} {taken rest : List Token}
    (h : leftOver (expression depth (taken ++ rest)) = some rest) : Viable (lexemes taken) := by
  have hreads := (reads_operand_expression depth).2
  cases hread : expression depth (taken ++ rest) with
  | ok pair =>
    obtain ⟨f, rest'⟩ := pair
    rw [hread] at h
    cases h
    obtain ⟨taken', htaken, hf⟩ := hreads.ok hread
    rw [List.append_cancel_right htaken]
    exact hf.viable
  | error stop =>
    rw [hread] at h
    obtain ⟨taken', htaken, more, f, hf⟩ := hreads.error hread h
    rw [List.append_cancel_right htaken]
    exact ⟨more, f, hf⟩

/-- **Nothing stops short.**  What is taken does not stay viable with the lexeme after it. -/
lemma not_viable_next {depth : Nat} {taken rest : List Token} {token : Token}
    (h : leftOver (expression depth (taken ++ token :: rest)) = some (token :: rest)) :
    ¬ Viable (lexemes taken ++ [token.lexeme]) := by
  rintro ⟨more, f, hf⟩
  obtain ⟨taken', htaken, hlocal⟩ := local_expression depth _ _ h
  obtain rfl : taken = taken' := List.append_cancel_right htaken
  -- The whole sentence begins alike, so its reader stops before the same lexeme.
  have hread := hlocal (token :: tokensOf more) (.inr rfl)
  have hsentence : Sentence (lexemes (taken ++ token :: tokensOf more)) f := by
    simpa using hf
  have hnil := hsentence.leftOver_eq_nil (hread ▸ leftOver_withRest h _)
  cases hnil

/-- **How far reading goes.** -/
lemma longestViable_taken {depth : Nat} {taken rest : List Token}
    (h : leftOver (expression depth (taken ++ rest)) = some rest) :
    LongestViable (lexemes (taken ++ rest)) taken.length := by
  have hlength : (lexemes taken).length = taken.length := List.length_map _
  rw [lexemes_append, ← hlength]
  refine LongestViable.of_append (viable_taken h) fun x others hrest => ?_
  obtain ⟨token, rest, rfl, rfl, -⟩ := eq_cons_of_lexemes hrest
  exact not_viable_next h

/-- **What is read.**  It is the formula that the taken lexemes stand for. -/
lemma expression_eq_ok_iff {depth : Nat} {taken rest : List Token} (f : Formula)
    (h : leftOver (expression depth (taken ++ rest)) = some rest) :
    expression depth (taken ++ rest) = .ok (f, rest) ↔ Sentence (lexemes taken) f := by
  constructor
  · intro hread
    obtain ⟨taken', htaken, hf⟩ := (reads_operand_expression depth).2.ok hread
    rw [List.append_cancel_right htaken]
    exact hf
  · intro hf
    obtain ⟨taken', htaken, hlocal⟩ := local_expression depth _ _ h
    obtain rfl : taken = taken' := List.append_cancel_right htaken
    have hread := hlocal [] (.inl rfl)
    rw [List.append_nil] at hread
    have hleft := leftOver_withRest h []
    rw [← hread] at hleft
    obtain hread' | hread' := hf.gives depth
    · rw [hread'] at hread
      exact eq_ok_of_withRest hread.symm h
    · rw [hread'] at hleft
      cases hleft

/-! ## Whole formulas -/

/-- The kind and the position of the token after some, the end of the text among them. -/
def markAfter (list : TokenList) (n : Nat) : TokenKind × Int :=
  match list.tokens.drop n with
  | token :: _ => (token.lexeme.kind, token.position)
  | [] => (.finish, list.finish)

/-- Reading that stops tells of the first token that is left over. -/
lemma fault_of_rest? {stop : Stop} {list : TokenList} {n : Nat}
    (h : stop.rest? = some (list.tokens.drop n)) :
    ∃ expected, stop.fault list.finish =
      .token expected (markAfter list n).1 (markAfter list n).2 := by
  rcases stop with ⟨kind, rest⟩ | rest | _
  · cases h
    refine ⟨some kind, ?_⟩
    cases hdrop : list.tokens.drop n <;> simp [markAfter, hdrop, Stop.fault]
  · cases h
    refine ⟨none, ?_⟩
    cases hdrop : list.tokens.drop n <;> simp [markAfter, hdrop, Stop.fault]
  · cases h

/-- Reading finds the nesting too deep only where the bound is too small. -/
lemma ofTokensWithin_eq_tooDeep {depth : Nat} {list : TokenList}
    (h : expression depth list.tokens = .error .tooDeep) :
    ofTokensWithin depth list = .error .tooDeep ∧ depth < 2 * list.tokens.length + 2 := by
  refine ⟨?_, ?_⟩
  · rw [ofTokensWithin, h]
    rfl
  · by_contra hdepth
    exact expression_ne_tooDeep (Nat.le_of_not_lt hdepth) h

/-- A sentence with nothing after it is read as its formula. -/
lemma ofTokensWithin_of_sentence {list : TokenList} {f : Formula}
    (h : Sentence (lexemes list.tokens) f) (depth : Nat) :
    ofTokensWithin depth list = .ok f ∨
      ofTokensWithin depth list = .error .tooDeep ∧ depth < 2 * list.tokens.length + 2 := by
  obtain hread | hread := h.gives depth
  · rw [ofTokensWithin, hread]
    exact .inl rfl
  · exact .inr (ofTokensWithin_eq_tooDeep hread)

/-- What is read at one depth, where the nesting is not found too deep. -/
lemma ofTokensWithin_of_leftOver {depth : Nat} {list : TokenList} {rest : List Token}
    (h : leftOver (expression depth list.tokens) = some rest) :
    ∃ n, LongestViable (lexemes list.tokens) n ∧
      (∀ f, ofTokensWithin depth list = .ok f ↔ Sentence ((lexemes list.tokens).take n) f) ∧
      ((∃ f, Sentence ((lexemes list.tokens).take n) f) ∨
        ∃ expected, ofTokensWithin depth list =
          .error (.token expected (markAfter list n).1 (markAfter list n).2)) := by
  obtain ⟨taken, htokens, -⟩ := local_expression depth _ _ h
  have htake : (lexemes list.tokens).take taken.length = lexemes taken := by
    rw [htokens, lexemes, ← List.map_take, List.take_left, lexemes]
  have hdrop : list.tokens.drop taken.length = rest := by
    rw [htokens, List.drop_left]
  rw [htokens] at h
  have hok := fun f => expression_eq_ok_iff f h
  have hlongest := longestViable_taken h
  rw [← htokens] at h hok hlongest
  refine ⟨taken.length, hlongest, ?_, ?_⟩
  · intro f
    rw [htake, ← hok f, ofTokensWithin]
    cases hread : expression depth list.tokens with
    | ok pair =>
      rw [hread] at h
      cases h
      simp [Prod.ext_iff]
    | error stop => simp
  · cases hread : expression depth list.tokens with
    | ok pair =>
      obtain ⟨f, rest'⟩ := pair
      rw [hread] at h
      cases h
      refine .inl ⟨f, ?_⟩
      rw [htake]
      exact (hok f).mp hread
    | error stop =>
      rw [hread, leftOver_error, ← hdrop] at h
      obtain ⟨expected, hfault⟩ := fault_of_rest? h
      refine .inr ⟨expected, ?_⟩
      rw [ofTokensWithin, hread, ← hfault]

/-- **The exact language.**  For every list of tokens there is a longest viable beginning, and it is
a sentence for at most one formula.  Reading gives that formula if there is one; otherwise it tells
of the token after the beginning.  Only where the bound is smaller than what the tokens can need may
reading find the nesting too deep instead. -/
theorem ofTokensWithin_exact (list : TokenList) :
    ∃ n, LongestViable (lexemes list.tokens) n ∧
      (∀ f g, Sentence ((lexemes list.tokens).take n) f →
        Sentence ((lexemes list.tokens).take n) g → f = g) ∧
      ∀ depth,
        (ofTokensWithin depth list = .error .tooDeep ∧ depth < 2 * list.tokens.length + 2) ∨
        ((∀ f, ofTokensWithin depth list = .ok f ↔
            Sentence ((lexemes list.tokens).take n) f) ∧
          ((∃ f, Sentence ((lexemes list.tokens).take n) f) ∨
            ∃ expected, ofTokensWithin depth list =
              .error (.token expected (markAfter list n).1 (markAfter list n).2))) := by
  have hdeep : expression (2 * list.tokens.length + 2) list.tokens ≠ .error .tooDeep :=
    expression_ne_tooDeep (Nat.le_refl _)
  obtain ⟨rest, hrest⟩ := exists_leftOver hdeep
  obtain ⟨n, hn, -, -⟩ := ofTokensWithin_of_leftOver hrest
  refine ⟨n, hn, fun f g hf hg => hf.unique hg, fun depth => ?_⟩
  by_cases h : expression depth list.tokens = .error .tooDeep
  · exact .inl (ofTokensWithin_eq_tooDeep h)
  · obtain ⟨rest', hrest'⟩ := exists_leftOver h
    obtain ⟨m, hm, hread⟩ := ofTokensWithin_of_leftOver hrest'
    obtain rfl := hn.unique hm
    exact .inr hread

end TableFormula.Formula
