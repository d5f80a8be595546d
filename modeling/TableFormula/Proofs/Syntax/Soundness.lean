import TableFormula.Proofs.Syntax.Reader

/-!
# What readers take

A reader that gives a value has taken a phrase of the grammar that stands for it, and a reader that
stops has taken lexemes with which some phrase begins.  Both are said at once by `Reads`, for a
language of lists of lexemes with values.

The rules go along the five readers.  A second part is read after a list that is already taken, so
its language is the rest of the language of the whole: `Reads.andThen` asks for a reader of
`fun v b => L (w ++ v) b` after every `w` that the first part can take.
-/

namespace TableFormula.Formula

open Reader

variable {α β : Type}

/-- A reader takes lists of a language: all of one where it gives a value, the beginning of one
where it stops. -/
structure Reads (L : List Lexeme → α → Prop) (R : Reader α) : Prop where
  /-- Some list is in the language. -/
  inhabited : ∃ w a, L w a
  ok {tokens rest : List Token} {a : α} (h : R tokens = .ok (a, rest)) :
    ∃ taken, tokens = taken ++ rest ∧ L (lexemes taken) a
  error {tokens rest : List Token} {stop : Stop} (h : R tokens = .error stop)
    (hrest : stop.rest? = some rest) :
    ∃ taken, tokens = taken ++ rest ∧ ∃ more a, L (lexemes taken ++ more) a

namespace Reads

variable {L : List Lexeme → α → Prop}

/-! ## Rules -/

lemma mono {L' : List Lexeme → α → Prop} {R : Reader α} (hR : Reads L R)
    (h : ∀ {w a}, L w a → L' w a) : Reads L' R where
  inhabited := by
    obtain ⟨w, a, hw⟩ := hR.inhabited
    exact ⟨w, a, h hw⟩
  ok hread := by
    obtain ⟨taken, htokens, ha⟩ := hR.ok hread
    exact ⟨taken, htokens, h ha⟩
  error hread hrest := by
    obtain ⟨taken, htokens, more, a, ha⟩ := hR.error hread hrest
    exact ⟨taken, htokens, more, a, h ha⟩

/-- Nothing is said of a reader that finds the nesting too deep. -/
lemma of_tooDeep {R : Reader α} (h : ∃ w a, L w a) (hR : ∀ tokens, R tokens = .error .tooDeep) :
    Reads L R where
  inhabited := h
  ok hread := by simp [hR] at hread
  error hread hrest := by
    simp only [hR, Except.error.injEq] at hread
    subst hread
    cases hrest

lemma done {a : α} (h : L [] a) : Reads L (Reader.done a) where
  inhabited := ⟨[], a, h⟩
  ok hread := by
    cases hread
    exact ⟨[], rfl, h⟩
  error hread := nomatch hread

lemma fail (h : ∃ w a, L w a) : Reads L Reader.fail where
  inhabited := h
  ok hread := nomatch hread
  error hread hrest := by
    cases hread
    cases hrest
    exact ⟨[], rfl, h⟩

/-- Taking a token of a kind that only one lexeme has. -/
lemma take {L : List Lexeme → Unit → Prop} {x : Lexeme} (hx : ∀ y, y.kind = x.kind → y = x)
    (h : L [x] ()) : Reads L (Reader.take x.kind) where
  inhabited := ⟨[x], (), h⟩
  ok {tokens rest a} hread := by
    rcases tokens with _ | ⟨token, tokens⟩
    · cases hread
    by_cases hkind : token.lexeme.kind = x.kind
    · rw [Reader.take_cons hkind] at hread
      cases hread
      refine ⟨[token], rfl, ?_⟩
      rwa [lexemes_cons, lexemes_nil, hx _ hkind]
    · simp [Reader.take, expect, hkind, bind, Except.bind] at hread
  error {tokens rest stop} hread hrest := by
    have hstop : rest = tokens := by
      rcases tokens with _ | ⟨token, tokens⟩
      · cases hread
        cases hrest
        rfl
      by_cases hkind : token.lexeme.kind = x.kind
      · rw [Reader.take_cons hkind] at hread
        cases hread
      · simp only [Reader.take, expect, hkind, bind, Except.bind, if_false,
          Except.error.injEq] at hread
        subst hread
        cases hrest
        rfl
    exact ⟨[], hstop.symm, [x], (), h⟩

lemma whenNext {p : Lexeme → Bool} {next : Lexeme → Reader α} {other : Reader α}
    (hnext : ∀ x, p x = true → Reads (fun v a => L (x :: v) a) (next x)) (hother : Reads L other) :
    Reads L (Reader.whenNext p next other) where
  inhabited := hother.inhabited
  ok {tokens rest a} hread := by
    rcases tokens with _ | ⟨token, tokens⟩
    · exact hother.ok hread
    rw [Reader.whenNext] at hread
    split_ifs at hread with hp
    · obtain ⟨taken, rfl, ha⟩ := (hnext _ hp).ok hread
      exact ⟨token :: taken, rfl, ha⟩
    · exact hother.ok hread
  error {tokens rest stop} hread hrest := by
    rcases tokens with _ | ⟨token, tokens⟩
    · exact hother.error hread hrest
    rw [Reader.whenNext] at hread
    split_ifs at hread with hp
    · obtain ⟨taken, rfl, more, a, ha⟩ := (hnext _ hp).error hread hrest
      exact ⟨token :: taken, rfl, more, a, ha⟩
    · exact hother.error hread hrest

/-- Two parts: the second goes on where the first ends. -/
lemma andThen {L₁ : List Lexeme → α → Prop} {L : List Lexeme → β → Prop} {first : Reader α}
    {second : α → Reader β} (hfirst : Reads L₁ first)
    (hsecond : ∀ w a, L₁ w a → Reads (fun v b => L (w ++ v) b) (second a)) :
    Reads L (first.andThen second) where
  inhabited := by
    obtain ⟨w, a, hw⟩ := hfirst.inhabited
    obtain ⟨v, b, hv⟩ := (hsecond w a hw).inhabited
    exact ⟨w ++ v, b, hv⟩
  ok {tokens rest b} hread := by
    cases hone : first tokens with
    | error stop =>
      rw [Reader.andThen_error hone] at hread
      cases hread
    | ok pair =>
      obtain ⟨a, between⟩ := pair
      rw [Reader.andThen_ok hone] at hread
      obtain ⟨taken, rfl, ha⟩ := hfirst.ok hone
      obtain ⟨others, rfl, hb⟩ := (hsecond _ a ha).ok hread
      refine ⟨taken ++ others, (List.append_assoc _ _ _).symm, ?_⟩
      rwa [lexemes_append]
  error {tokens rest stop} hread hrest := by
    cases hone : first tokens with
    | error early =>
      rw [Reader.andThen_error hone] at hread
      cases hread
      obtain ⟨taken, rfl, more, a, ha⟩ := hfirst.error hone hrest
      obtain ⟨v, b, hb⟩ := (hsecond _ a ha).inhabited
      refine ⟨taken, rfl, more ++ v, b, ?_⟩
      rwa [← List.append_assoc]
    | ok pair =>
      obtain ⟨a, between⟩ := pair
      rw [Reader.andThen_ok hone] at hread
      obtain ⟨taken, rfl, ha⟩ := hfirst.ok hone
      obtain ⟨others, rfl, more, b, hb⟩ := (hsecond _ a ha).error hread hrest
      refine ⟨taken ++ others, (List.append_assoc _ _ _).symm, more, b, ?_⟩
      rwa [lexemes_append, List.append_assoc]

/-- A mark and what follows it. -/
lemma mark {L : List Lexeme → β → Prop} {x : Lexeme} {second : Unit → Reader β}
    (hx : ∀ y, y.kind = x.kind → y = x)
    (hsecond : Reads (fun v b => L (x :: v) b) (second ())) :
    Reads L ((Reader.take x.kind).andThen second) := by
  refine andThen (take (L := fun w _ => w = [x]) hx rfl) ?_
  rintro w ⟨⟩ rfl
  exact hsecond

end Reads

/-! ## Marks -/

section

variable {L : List Lexeme → β → Prop} {second : Unit → Reader β}

lemma reads_openParen (h : Reads (fun v b => L (.openParen :: v) b) (second ())) :
    Reads L ((take .openParen).andThen second) :=
  Reads.mark (x := .openParen) (by rintro ⟨⟩ <;> simp [Lexeme.kind]) h

lemma reads_closeParen (h : Reads (fun v b => L (.closeParen :: v) b) (second ())) :
    Reads L ((take .closeParen).andThen second) :=
  Reads.mark (x := .closeParen) (by rintro ⟨⟩ <;> simp [Lexeme.kind]) h

lemma reads_comma (h : Reads (fun v b => L (.comma :: v) b) (second ())) :
    Reads L ((take .comma).andThen second) :=
  Reads.mark (x := .comma) (by rintro ⟨⟩ <;> simp [Lexeme.kind]) h

end

/-! ## Brackets and lists -/

/-- The lists of at least one formula, with commas between them. -/
def Items (w : List Lexeme) (formulas : List Formula) : Prop :=
  ∃ parts : List Part, parts ≠ [] ∧ (∀ part ∈ parts, Derives .disjunction part.1 part.2) ∧
    w = separated parts ∧ formulas = parts.map (·.2)

lemma Items.single {w : List Lexeme} {f : Formula} (h : Derives .disjunction w f) :
    Items w [f] :=
  ⟨[(w, f)], by simp, by simpa using h, by simp, rfl⟩

lemma Items.cons {w v : List Lexeme} {f : Formula} {formulas : List Formula}
    (h : Derives .disjunction w f) (hothers : Items v formulas) :
    Items (w ++ .comma :: v) (f :: formulas) := by
  obtain ⟨parts, hne, hparts, rfl, rfl⟩ := hothers
  obtain ⟨part, parts, rfl⟩ := List.exists_cons_of_ne_nil hne
  exact ⟨(w, f) :: part :: parts, by simp, by simpa using ⟨h, by simpa using hparts⟩,
    by simp, rfl⟩

/-- The lists in brackets. -/
def InBrackets (L : List Lexeme → α → Prop) (w : List Lexeme) (a : α) : Prop :=
  ∃ v, L v a ∧ w = .openParen :: (v ++ [.closeParen])

lemma reads_bracketed {L : List Lexeme → α → Prop} {inner : Reader α} (h : Reads L inner) :
    Reads (InBrackets L) (bracketed inner) := by
  rw [bracketed_eq]
  refine reads_openParen (h.andThen fun v a hv => reads_closeParen (Reads.done ?_))
  exact ⟨v, hv, rfl⟩

section

variable {operand argument : Reader Formula}

lemma reads_commaList (harg : Reads (Derives .disjunction) argument) (fuel : Nat) :
    Reads Items (commaList argument fuel) := by
  induction fuel with
  | zero => exact Reads.fail ⟨_, _, Items.single (.mono (.number 0) (by decide))⟩
  | succ fuel ih =>
    rw [commaList_succ]
    refine harg.andThen fun w f hf => Reads.whenNext (fun x hx => ?_) (Reads.done ?_)
    · obtain rfl : x = .comma := by simpa using hx
      refine ih.andThen fun v formulas hv => Reads.done ?_
      rw [List.append_nil]
      exact Items.cons hf hv
    · rw [List.append_nil]
      exact Items.single hf

lemma reads_items (harg : Reads (Derives .disjunction) argument) :
    Reads Items (items argument) where
  inhabited := (reads_commaList harg 0).inhabited
  ok h := (reads_commaList harg _).ok h
  error h := (reads_commaList harg _).error h

/-! ## Operands -/

lemma reads_choiceOf (harg : Reads (Derives .disjunction) argument) :
    Reads (fun v f => Derives .primary (.function "IF" :: v) f) (choiceOf argument) := by
  rw [choiceOf_eq]
  refine reads_openParen <| harg.andThen fun w₁ f₁ h₁ => reads_comma <|
    harg.andThen fun w₂ f₂ h₂ => reads_comma <|
    harg.andThen fun w₃ f₃ h₃ => reads_closeParen <| Reads.done ?_
  exact .choose h₁ h₂ h₃

lemma reads_argumentsOf (harg : Reads (Derives .disjunction) argument) {name : String}
    (hif : name ≠ "IF") (hnot : name ≠ "NOT") :
    Reads (fun v args => Derives .primary (.function name :: v) (.call name args))
      (argumentsOf argument) := by
  rw [argumentsOf_eq]
  refine reads_openParen (Reads.whenNext (fun x hx => Reads.done ?_) ?_)
  · obtain rfl : x = .closeParen := by simpa using hx
    have hempty : ∀ part ∈ ([] : List Part), Derives .disjunction part.1 part.2 := nofun
    exact .call hif hnot hempty
  · refine (reads_items harg).andThen fun w args hargs => reads_closeParen (Reads.done ?_)
    obtain ⟨parts, _, hparts, rfl, rfl⟩ := hargs
    exact .call hif hnot hparts

lemma reads_namedOf (harg : Reads (Derives .disjunction) argument) (name : String) :
    Reads (fun v f => Derives .operand (.function name :: v) f) (namedOf name argument) := by
  rw [namedOf_eq]
  split_ifs with hnot hif
  · subst hnot
    refine (reads_bracketed harg).andThen fun w f hf => Reads.done ?_
    obtain ⟨v, hv, rfl⟩ := hf
    simpa using Derives.not hv
  · subst hif
    exact (reads_choiceOf harg).mono (.tighter (r := .operand))
  · refine (reads_argumentsOf harg hif hnot).andThen fun w args hargs => Reads.done ?_
    rw [List.append_nil]
    exact .tighter (r := .operand) hargs

lemma reads_operandAfter {depth : Nat}
    (hoperand : Reads (Derives .operand) (Formula.operand depth))
    (hexpression : Reads (Derives .disjunction) (expression depth)) {x : Lexeme}
    (hx : beginsOperand x = true) :
    Reads (fun v f => Derives .operand (x :: v) f) (operandAfter depth x) := by
  cases x with
  | operator op =>
    obtain rfl : op = .subtract := by simpa [beginsOperand] using hx
    refine hoperand.andThen fun v f hf => Reads.done ?_
    rw [List.append_nil]
    exact .negate hf
  | function name => exact reads_namedOf hexpression name
  | number value => exact Reads.done (.tighter (r := .operand) (.number value))
  | string value => exact Reads.done (.tighter (r := .operand) (.text value))
  | columnRef name => exact Reads.done (.tighter (r := .operand) (.columnRef name))
  | identifier name => exact Reads.done (.tighter (r := .operand) (.identifier name))
  | openParen =>
    rw [operandAfter]
    refine hexpression.andThen fun v f hf => reads_closeParen (Reads.done ?_)
    exact .tighter (r := .operand) (.grouped hf)
  | closeParen | comma => simp [beginsOperand] at hx

/-! ## Loops -/

/-- The step with which a rank goes on takes what makes a longer phrase of the rank. -/
lemma reads_continuation {r : Rank} {tighter : Reader Formula}
    (htighter : Reads (Derives r.tighter) tighter) (harg : Reads (Derives .disjunction) argument)
    {w : List Lexeme} {left : Formula} (hleft : Derives r w left) {x : Lexeme}
    (hx : r.continues x = true) :
    Reads (fun v f => Derives r (w ++ x :: v) f) (continuation tighter argument left x) := by
  cases x with
  | operator op =>
    obtain ⟨level, rfl, hop⟩ : ∃ level, r = .operators level ∧ op.level? = some level := by
      cases r <;> simp_all [Rank.continues]
    refine htighter.andThen fun v right hright => Reads.done ?_
    rw [List.append_nil]
    exact .binary hop hleft hright
  | function name =>
    have hname : some name = r.connective? := by
      simpa [Rank.continues] using hx
    rw [continuation]
    refine (reads_bracketed (reads_items harg)).andThen fun v args hargs => Reads.done ?_
    obtain ⟨_, ⟨parts, hne, hparts, rfl, rfl⟩, rfl⟩ := hargs
    rw [List.append_nil]
    exact .connect hname.symm hleft hne hparts
  | _ => simp [Rank.continues] at hx

/-- **The loop of a rank.**  After a phrase of the rank it takes what makes a longer one. -/
lemma reads_extend {r : Rank} {tighter : Reader Formula}
    (htighter : Reads (Derives r.tighter) tighter) (harg : Reads (Derives .disjunction) argument)
    (fuel : Nat) {w : List Lexeme} {left : Formula} (hleft : Derives r w left) :
    Reads (fun v f => Derives r (w ++ v) f)
      (extend (r.extension tighter argument) fuel left) := by
  have hdone : Derives r (w ++ []) left := by rwa [List.append_nil]
  induction fuel generalizing w left with
  | zero => exact Reads.done hdone
  | succ fuel ih =>
    rw [extend_succ]
    refine Reads.whenNext (fun x hx => ?_) (Reads.done hdone)
    refine (reads_continuation htighter harg hleft hx).andThen fun v f hf => ?_
    simpa using ih hf (by rwa [List.append_nil])

lemma reads_goOn {r : Rank} {tighter : Reader Formula}
    (htighter : Reads (Derives r.tighter) tighter) (harg : Reads (Derives .disjunction) argument)
    {w : List Lexeme} {left : Formula} (hleft : Derives r w left) :
    Reads (fun v f => Derives r (w ++ v) f) (goOn (r.extension tighter argument) left) where
  inhabited := ⟨[], left, by rwa [List.append_nil]⟩
  ok h := (reads_extend htighter harg _ hleft).ok h
  error h := (reads_extend htighter harg _ hleft).error h

lemma reads_phraseReader (hoperand : Reads (Derives .operand) operand)
    (harg : Reads (Derives .disjunction) argument) (r : Rank) (hr : 1 ≤ r.looseness) :
    Reads (Derives r) (phraseReader operand argument r) := by
  induction r using phraseReader.induct with
  | case1 r hle =>
    have hr' : r = .operand := Rank.looseness_injective (Nat.le_antisymm hle hr)
    rw [phraseReader_of_le hle, hr']
    exact hoperand
  | case2 r hle ih =>
    have htighter := ih (by rw [r.looseness_tighter]; omega)
    rw [phraseReader_of_not_le hle]
    refine htighter.andThen fun w left hleft => ?_
    exact reads_goOn htighter harg (.tighter hleft)

end

/-! ## Both readers -/

/-- **Soundness.**  Operands are read as phrases of their rank and expressions as sentences. -/
lemma reads_operand_expression (depth : Nat) :
    Reads (Derives .operand) (operand depth) ∧ Reads (Derives .disjunction) (expression depth) := by
  induction depth with
  | zero =>
    have hoperand : Derives .operand [.number 0] (.number 0) := .tighter (r := .operand) (.number 0)
    exact ⟨Reads.of_tooDeep ⟨_, _, hoperand⟩ operand_zero,
      Reads.of_tooDeep ⟨_, _, hoperand.sentence⟩ expression_zero⟩
  | succ depth ih =>
    obtain ⟨hoperand, hexpression⟩ := ih
    refine ⟨?_, ?_⟩
    · rw [operand_succ]
      refine Reads.whenNext (fun x hx => reads_operandAfter hoperand hexpression hx) ?_
      exact Reads.fail ⟨_, _, .tighter (r := .operand) (.number 0)⟩
    · rw [expression_succ]
      exact reads_phraseReader hoperand hexpression .disjunction (by decide)

/-- A text that is read begins with a sentence for its formula; the other tokens are left over. -/
lemma exists_taken_of_parse {source : String} {f : Formula} (h : parse source = .ok f) :
    ∃ taken rest, (scan source).tokens = taken ++ rest ∧
      expression nestingLimit (scan source).tokens = .ok (f, rest) ∧
      Sentence (lexemes taken) f := by
  rw [parse, ofTokens, ofTokensWithin] at h
  cases hread : expression nestingLimit (scan source).tokens with
  | error stop =>
    rw [hread] at h
    cases h
  | ok pair =>
    obtain ⟨g, rest⟩ := pair
    rw [hread] at h
    cases h
    obtain ⟨taken, htokens, hf⟩ := (reads_operand_expression nestingLimit).2.ok hread
    exact ⟨taken, rest, htokens, rfl, hf⟩

end TableFormula.Formula
