import TableFormula.Proofs.Evaluation.Outcome
import TableFormula.Proofs.Syntax.Language

/-!
# Laws of the connectives

A conjunction and a disjunction take any number of arguments, evaluate all of them, and give one or
zero.  What they make of an argument is its *truth*: the truth value that its outcome is read as, or
the fault that it fails with.

**Signalling decimals.**  These are the only values that have no truth value.  A connective reads
its arguments only as far as it needs, so it may never come to such a value, and the laws below hold
for arguments with other values only.  A negation reads its operand always.

**Chains.**  What is written `x AND(y) AND(z)` is read as one connective of two arguments inside the
other.  The connective of all of them at once has the same outcome.
-/

namespace TableFormula

/-- Whether a value is a decimal that cannot be compared. -/
def Value.isSignalling : Value → Bool
  | .decimal (.nan _ signalling _) => signalling
  | _ => false

/-- All other values have a truth value. -/
lemma Value.exists_toTruth {v : Value} (h : v.isSignalling = false) : ∃ b, v.toTruth = .ok b := by
  cases v with
  | decimal d =>
    cases d with
    | finite negative digits exponent => exact ⟨_, rfl⟩
    | infinite negative => exact ⟨_, rfl⟩
    | nan negative signalling payload =>
      obtain rfl : signalling = false := h
      exact ⟨_, rfl⟩
  | _ => exact ⟨_, rfl⟩

/-! ## The two connectives -/

/-- The connectives. -/
inductive Connective where
  | all
  | any
deriving DecidableEq, Repr

namespace Connective

/-- The function that a connective calls. -/
def function : Connective → Function
  | all => .and
  | any => .or

/-- The rank of the phrases that a connective goes on with. -/
def rank : Connective → Formula.Rank
  | all => .conjunction
  | any => .disjunction

/-- The other connective. -/
def dual : Connective → Connective
  | all => any
  | any => all

/-- The truth value of a connective for the truth values of its arguments. -/
def truth : Connective → List Bool → Bool
  | all, bs => bs.all id
  | any, bs => bs.any id

/-- The question that a connective asks of the values of its arguments. -/
def ask : Connective → List Value → Except Fault Bool
  | all => Function.allTrue
  | any => Function.anyTrue

variable (k : Connective)

lemma connective?_rank : k.rank.connective? = some k.function.name := by
  cases k
  · rfl
  · rfl

lemma meaning_function (reader : Everyday.Reader) :
    k.function.meaning reader = .ofValues (.any fun vs => (k.ask vs).map Function.ofTruth) := by
  cases k
  · rfl
  · rfl

/-- Two arguments may be connected first. -/
lemma truth_truth_cons (a b : Bool) (bs : List Bool) :
    k.truth (k.truth [a, b] :: bs) = k.truth (a :: b :: bs) := by
  cases k
  · simp [truth, Bool.and_assoc]
  · simp [truth, Bool.or_assoc]

/-- The laws of De Morgan for truth values. -/
lemma not_truth (bs : List Bool) : (!k.truth bs) = k.dual.truth (bs.map (!·)) := by
  cases k
  · simp [truth, dual, List.not_all_eq_any_not]
  · simp [truth, dual, List.not_any_eq_all_not]

/-- Values that all have truth values are connected by them. -/
lemma ask_eq_ok {vs : List Value} {bs : List Bool}
    (h : List.Forall₂ (fun v b => v.toTruth = .ok b) vs bs) : k.ask vs = .ok (k.truth bs) := by
  induction h with
  | nil =>
    cases k
    · rfl
    · rfl
  | @cons v b vs bs hv _ ih =>
    -- The value that settles the question ends it; those behind it are not read.
    cases k
    · change List.allM _ _ = _ at ih ⊢
      rw [List.allM_cons, hv]
      cases b
      · rfl
      · exact ih
    · change List.anyM _ _ = _ at ih ⊢
      rw [List.anyM_cons, hv]
      cases b
      · exact ih
      · rfl

end Connective

namespace Formula

/-! ## The truth of a formula -/

/-- What an outcome is read as where a truth value is needed. -/
def truth (f : Formula) (c : Context) : Except Fault Bool := do
  (← f.outcome c).toTruth

/-- A formula has a value that has a truth value, if it has a value at all. -/
def IsReadable (c : Context) (f : Formula) : Prop :=
  ∀ v, f.outcome c = .ok v → v.isSignalling = false

variable {c : Context} {f : Formula} {args : List Formula}

/-- A formula that gives back a truth value has it as its truth. -/
lemma truth_of_outcome {x : Except Fault Bool} (h : f.outcome c = x.map Function.ofTruth) :
    f.truth c = x := by
  rw [truth, h]
  cases x with
  | error fault => rfl
  | ok b => exact Function.toTruth_ofTruth b

lemma isReadable_of_outcome {x : Except Fault Bool} (h : f.outcome c = x.map Function.ofTruth) :
    IsReadable c f := by
  intro v hv
  rw [h] at hv
  cases x with
  | error fault => cases hv
  | ok b =>
    cases hv
    rfl

lemma outcome_not (f : Formula) (c : Context) :
    (unary .not f).outcome c = ((f.truth c).map (!·)).map Function.ofTruth := by
  rw [outcome_unary, truth]
  cases f.outcome c with
  | error fault => rfl
  | ok v =>
    show v.toTruth.map (Function.ofTruth !·) = (v.toTruth.map (!·)).map Function.ofTruth
    cases v.toTruth with
    | error fault => rfl
    | ok b => rfl

/-- Arguments with truth values fail in the same order in which their outcomes do, and where they
all have values the truth values are those of the values. -/
lemma truths_of_outcomes (h : ∀ f ∈ args, IsReadable c f) :
    (∃ fault, args.mapM (·.outcome c) = .error fault ∧ args.mapM (truth · c) = .error fault) ∨
      ∃ vs bs, args.mapM (·.outcome c) = .ok vs ∧ args.mapM (truth · c) = .ok bs ∧
        List.Forall₂ (fun v b => v.toTruth = .ok b) vs bs := by
  induction args with
  | nil => exact .inr ⟨[], [], rfl, rfl, .nil⟩
  | cons f args ih =>
    obtain ⟨hf, hargs⟩ := List.forall_mem_cons.mp h
    rw [List.mapM_cons, List.mapM_cons, truth]
    cases hv : f.outcome c with
    | error fault => exact .inl ⟨fault, rfl, rfl⟩
    | ok v =>
      obtain ⟨b, hb⟩ := Value.exists_toTruth (hf v hv)
      obtain ⟨fault, hvs, hbs⟩ | ⟨vs, bs, hvs, hbs, hread⟩ := ih hargs
      · refine .inl ⟨fault, ?_, ?_⟩
        · rw [hvs]
          rfl
        · show (v.toTruth >>= _) = _
          rw [hb, hbs]
          rfl
      · refine .inr ⟨v :: vs, b :: bs, ?_, ?_, .cons hb hread⟩
        · rw [hvs]
          rfl
        · show (v.toTruth >>= _) = _
          rw [hb, hbs]
          rfl

/-! ## Connected formulas -/

/-- The call of a connective. -/
def connected (k : Connective) (args : List Formula) : Formula :=
  call k.function.name args

/-- The calls that a connective stands for between its operands, each around the one before. -/
def connectedInTurn (k : Connective) (first : Formula) (rest : List Formula) : Formula :=
  rest.foldl (fun left f => connected k [left, f]) first

variable (k : Connective)

lemma outcome_connected (h : ∀ f ∈ args, IsReadable c f) :
    (connected k args).outcome c =
      ((args.mapM (truth · c)).map k.truth).map Function.ofTruth := by
  rw [connected, outcome_call_ofValues c (k.meaning_function _)]
  obtain ⟨fault, hvs, hbs⟩ | ⟨vs, bs, hvs, hbs, hread⟩ := truths_of_outcomes h
  · rw [hvs, hbs]
    rfl
  · rw [hvs, hbs]
    show (k.ask vs).map Function.ofTruth = _
    rw [k.ask_eq_ok hread]
    rfl

lemma truth_connected (h : ∀ f ∈ args, IsReadable c f) :
    (connected k args).truth c = (args.mapM (truth · c)).map k.truth :=
  truth_of_outcome (outcome_connected k h)

lemma isReadable_connected (h : ∀ f ∈ args, IsReadable c f) : IsReadable c (connected k args) :=
  isReadable_of_outcome (outcome_connected k h)

/-- Two operands that are connected first count as two. -/
lemma truths_connected_cons {first f : Formula} (h : ∀ g ∈ [first, f], IsReadable c g)
    (rest : List Formula) :
    ((connected k [first, f] :: rest).mapM (truth · c)).map k.truth =
      ((first :: f :: rest).mapM (truth · c)).map k.truth := by
  simp only [List.mapM_cons, List.mapM_nil, truth_connected k h]
  cases first.truth c with
  | error fault => rfl
  | ok a =>
    cases f.truth c with
    | error fault => rfl
    | ok b =>
      cases rest.mapM (truth · c) with
      | error fault => rfl
      | ok bs => exact congrArg Except.ok (k.truth_truth_cons a b bs)

/-- Operands that are connected one after the other have the outcome that they have together. -/
lemma outcome_connectedInTurn {first : Formula} {rest : List Formula} (hne : rest ≠ [])
    (h : ∀ f ∈ first :: rest, IsReadable c f) :
    (connectedInTurn k first rest).outcome c =
      (((first :: rest).mapM (truth · c)).map k.truth).map Function.ofTruth := by
  induction rest generalizing first with
  | nil => exact absurd rfl hne
  | cons f rest ih =>
    by_cases hlast : rest = []
    · subst hlast
      exact outcome_connected k h
    · -- The first two operands are the first operand of what is left.
      obtain ⟨hfirst, hrest⟩ := List.forall_mem_cons.mp h
      obtain ⟨hf, hrest⟩ := List.forall_mem_cons.mp hrest
      have hpair : ∀ g ∈ [first, f], IsReadable c g := by simp [hfirst, hf]
      have hall := List.forall_mem_cons.mpr ⟨isReadable_connected k hpair, hrest⟩
      rw [← truths_connected_cons k hpair]
      exact ih hlast hall

lemma truth_not (f : Formula) (c : Context) : (unary .not f).truth c = (f.truth c).map (!·) :=
  truth_of_outcome (outcome_not f c)

lemma truths_not (args : List Formula) (c : Context) :
    (args.map (unary .not)).mapM (truth · c) =
      (args.mapM (truth · c)).map (List.map (!·)) := by
  rw [List.mapM_map, ← mapM_map]
  exact congrArg (List.mapM · args) (funext fun f => truth_not f c)

/-- The negation of a connective is the other connective of the negations. -/
lemma outcome_not_connected (h : ∀ f ∈ args, IsReadable c f) :
    (unary .not (connected k args)).outcome c =
      (connected k.dual (args.map (unary .not))).outcome c := by
  have hread : ∀ g ∈ args.map (unary .not), IsReadable c g := by
    intro g hg
    obtain ⟨f, -, rfl⟩ := List.mem_map.mp hg
    exact isReadable_of_outcome (outcome_not f c)
  rw [outcome_not, truth_connected k h, outcome_connected k.dual hread, truths_not]
  cases args.mapM (truth · c) with
  | error fault => rfl
  | ok bs => exact congrArg (fun b => Except.ok (Function.ofTruth b)) (k.not_truth bs)

/-- A choice with a negated condition takes the other branch. -/
lemma outcome_choose_not (condition whenTrue whenFalse : Formula) (c : Context) :
    (choose (unary .not condition) whenTrue whenFalse).outcome c =
      (choose condition whenFalse whenTrue).outcome c := by
  rw [outcome_choose, outcome_choose, ← bind_assoc, ← bind_assoc]
  change ((unary .not condition).truth c >>= _) = (condition.truth c >>= _)
  rw [truth_not]
  cases condition.truth c with
  | error fault => rfl
  | ok b =>
    cases b
    · rfl
    · rfl

/-! ## What is written with connectives -/

/-- The lexemes of an operand and of further ones, each between the brackets of a connective. -/
def connectedLexemes (k : Connective) (w : List Lexeme) (parts : List Part) : List Lexeme :=
  w ++ parts.flatMap fun part =>
    .function k.function.name :: .openParen :: (part.1 ++ [.closeParen])

/-- They are a phrase for the operands connected one after the other. -/
lemma derives_connectedLexemes {w : List Lexeme} {first : Formula} {parts : List Part}
    (hfirst : Derives k.rank w first)
    (hparts : ∀ part ∈ parts, Derives .disjunction part.1 part.2) :
    Derives k.rank (connectedLexemes k w parts)
      (connectedInTurn k first (parts.map (·.2))) := by
  induction parts generalizing w first with
  | nil => simpa [connectedLexemes, connectedInTurn] using hfirst
  | cons part parts ih =>
    obtain ⟨hpart, hparts⟩ := List.forall_mem_cons.mp hparts
    have hone := Derives.connect k.connective?_rank hfirst (List.cons_ne_nil part [])
      (List.forall_mem_singleton.mpr hpart)
    rw [separated_singleton] at hone
    simpa [connectedLexemes, connectedInTurn, connected] using ih hone hparts

/-! ## The laws -/

/-- With room for a connective, what is said about the values of its arguments holds for their
outcomes. -/
lemma isReadable_of_hasRoom (hroom : c.HasRoom (connected k args))
    (hread : ∀ f ∈ args, ∀ v, f.eval c = .ok v → v.isSignalling = false) :
    ∀ f ∈ args, IsReadable c f := by
  intro f hf v hv
  apply hread f hf v
  rw [eval_eq_outcome (hasRoom_of_mem_parts hf hroom), hv]

/-- The outcome of a connective from those of its arguments in the same context. -/
lemma eval_connected (hroom : c.HasRoom (connected k args))
    (hread : ∀ f ∈ args, ∀ v, f.eval c = .ok v → v.isSignalling = false) :
    (connected k args).eval c =
      ((args.mapM fun f => f.eval c >>= Value.toTruth).map k.truth).map Function.ofTruth := by
  have htruths : (args.mapM fun f => f.eval c >>= Value.toTruth) = args.mapM (truth · c) := by
    apply mapM_congr
    intro f hf
    rw [eval_eq_outcome (hasRoom_of_mem_parts hf hroom), truth]
  rw [eval_eq_outcome hroom, htruths, outcome_connected k (isReadable_of_hasRoom k hroom hread)]

/-- **Connectives.**  Where no argument has a signalling decimal as its value, a connective fails as
the first of its arguments that fails, and otherwise gives what its arguments' truth values give.
What is written between operands one after the other is read as a formula with the same outcome; a
negation of one connective has the outcome of the other connective of the negations; and a choice
with a negated condition, whatever its value is, has that of the choice with its branches
exchanged. -/
theorem connected_laws (k : Connective) (c : Context) {first : Formula} {rest : List Formula}
    (hne : rest ≠ [])
    (hread : ∀ f ∈ first :: rest, ∀ v, f.eval c = .ok v → v.isSignalling = false) :
    (c.HasRoom (connected k (first :: rest)) →
      (connected k (first :: rest)).eval c =
        (((first :: rest).mapM fun f => f.eval c >>= Value.toTruth).map k.truth).map
          Function.ofTruth) ∧
    AgreesAt c (connectedInTurn k first rest) (connected k (first :: rest)) ∧
    (∀ w parts, Derives k.rank w first → parts.map (·.2) = rest →
      (∀ part ∈ parts, Derives .disjunction part.1 part.2) →
      ∀ list : TokenList, lexemes list.tokens = connectedLexemes k w parts → ∀ depth,
        ofTokensWithin depth list = .ok (connectedInTurn k first rest) ∨
          ofTokensWithin depth list = .error .tooDeep ∧ depth < 2 * list.tokens.length + 2) ∧
    AgreesAt c (unary .not (connected k (first :: rest)))
      (connected k.dual ((first :: rest).map (unary .not))) ∧
    ∀ condition whenTrue whenFalse,
      AgreesAt c (choose (unary .not condition) whenTrue whenFalse)
        (choose condition whenFalse whenTrue) := by
  refine ⟨fun hroom => eval_connected k hroom hread, ?_, ?_, ?_, ?_⟩
  · intro hturn hroom
    have hreadable := isReadable_of_hasRoom k hroom hread
    rw [eval_eq_outcome hturn, eval_eq_outcome hroom, outcome_connectedInTurn k hne hreadable,
      outcome_connected k hreadable]
  · rintro w parts hfirst rfl hparts list hlist depth
    have hphrase := (derives_connectedLexemes k hfirst hparts).sentence
    rw [← hlist] at hphrase
    exact ofTokensWithin_of_sentence hphrase depth
  · intro hnot hdual
    have hroom := hasRoom_of_mem_parts (g := connected k (first :: rest)) (by simp [parts]) hnot
    rw [eval_eq_outcome hnot, eval_eq_outcome hdual,
      outcome_not_connected k (isReadable_of_hasRoom k hroom hread)]
  · intro condition whenTrue whenFalse
    exact .of_outcome (outcome_choose_not condition whenTrue whenFalse c)

/-- A false operand does not keep the ones behind it from failing. -/
theorem eval_connectedInTurn_missing :
    (∀ f ∈ [text "no", column "missing", text "yes"], ∀ v, f.eval (.plain 3) = .ok v →
      v.isSignalling = false) ∧
    (Context.plain 3).HasRoom
      (connectedInTurn .all (text "no") [column "missing", text "yes"]) ∧
    (Context.plain 3).HasRoom (connected .all [text "no", column "missing", text "yes"]) ∧
    (connectedInTurn .all (text "no") [column "missing", text "yes"]).eval (.plain 3) =
      .error (.unknownColumn "missing") := by
  have hread : ∀ f ∈ [text "no", column "missing", text "yes"], ∀ v,
      f.eval (.plain 3) = .ok v → v.isSignalling = false := by
    intro f hf v hv
    obtain rfl | rfl | rfl := by simpa using hf
    · cases hv
      rfl
    · cases hv
    · cases hv
      rfl
  have hturn : (Context.plain 3).HasRoom
      (connectedInTurn .all (text "no") [column "missing", text "yes"]) := by decide
  have hroom : (Context.plain 3).HasRoom
      (connected .all [text "no", column "missing", text "yes"]) := by decide
  obtain ⟨hconnected, hagrees, -⟩ := connected_laws .all (.plain 3) (List.cons_ne_nil _ _) hread
  exact ⟨hread, hturn, hroom, (hagrees hturn hroom).trans ((hconnected hroom).trans rfl)⟩

end Formula

end TableFormula
