import TableFormula.Proofs.Evaluation.Outcome

/-!
# Switches as cascades of choices

A switch compares its subject with one case after the other and takes the result behind the first
one that equals it.  So does a *cascade*: a choice whose condition is that the subject equals the
first case, and whose other branch is the cascade of the cases after it.  The subject is evaluated
once for every condition that a cascade comes to, but it has the same outcome each time.

**The end.**  Behind the last case stands the last argument of the switch if it has no partner, and
a call that gives blank otherwise.

Only a switch with a case has a cascade: without any, the switch evaluates its subject all the same.
-/

namespace TableFormula

/-- An equation as a condition is decided by the comparison that it makes. -/
lemma Operator.apply_equal_toTruth (v w : Value) :
    (Operator.equal.apply v w >>= Value.toTruth) = v.same w := by
  rw [Operator.apply]
  cases v.same w with
  | error e => rfl
  | ok b => exact Function.toTruth_ofTruth b

namespace Formula

/-! ## The two formulas -/

/-- Cases and their results, as arguments. -/
def caseArguments (cases : List (Formula × Formula)) : List Formula :=
  cases.flatMap fun (case, result) => [case, result]

/-- A switch over some cases, with or without an argument for where none of them fits. -/
def switchOver (subject : Formula) (cases : List (Formula × Formula))
    (otherwise : Option Formula) : Formula :=
  call "SWITCH" (subject :: (caseArguments cases ++ otherwise.toList))

/-- The choices that a switch stands for. -/
def cascade (subject : Formula) (otherwise : Option Formula) :
    List (Formula × Formula) → Formula
  | [] => otherwise.getD (call "COALESCE" [])
  | (case, result) :: rest =>
    choose (binary .equal subject case) result (cascade subject otherwise rest)

variable {subject : Formula} {otherwise : Option Formula} {cases : List (Formula × Formula)}
  {c : Context}

/-! ## Room -/

lemma heightAll_le {args : List Formula} {n : Nat} (h : ∀ f ∈ args, f.height ≤ n) :
    heightAll args ≤ n := by
  induction args with
  | nil => exact Nat.zero_le n
  | cons f args ih =>
    obtain ⟨hf, hargs⟩ := List.forall_mem_cons.mp h
    exact Nat.max_le.mpr ⟨hf, ih hargs⟩

/-- No argument behind the subject is higher than the cascade. -/
lemma height_le_cascade {f : Formula} (hf : f ∈ caseArguments cases ++ otherwise.toList) :
    f.height ≤ (cascade subject otherwise cases).height := by
  induction cases with
  | nil =>
    obtain rfl : otherwise = some f := by simpa [caseArguments] using hf
    exact Nat.le_refl _
  | cons pair rest ih =>
    obtain ⟨case, result⟩ := pair
    rw [cascade, height, height]
    have hmem : f = case ∨ f = result ∨ f ∈ caseArguments rest ++ otherwise.toList := by
      simpa [caseArguments] using hf
    obtain rfl | rfl | hrest := hmem
    · omega
    · omega
    · have hle := ih hrest
      omega

/-- All arguments of a switch with a case are lower than its cascade. -/
lemma height_lt_cascade (hcases : cases ≠ []) {f : Formula}
    (hf : f ∈ subject :: (caseArguments cases ++ otherwise.toList)) :
    f.height < (cascade subject otherwise cases).height := by
  obtain ⟨⟨case, result⟩, rest, rfl⟩ := List.exists_cons_of_ne_nil hcases
  rw [cascade, height, height]
  have hmem : f = subject ∨ f = case ∨ f = result ∨
      f ∈ caseArguments rest ++ otherwise.toList := by
    simpa [caseArguments] using hf
  obtain rfl | rfl | rfl | hrest := hmem
  · omega
  · omega
  · omega
  · have hle : f.height ≤ (cascade subject otherwise rest).height := height_le_cascade hrest
    omega

lemma hasRoom_switchOver (hcases : cases ≠ [])
    (hroom : c.HasRoom (cascade subject otherwise cases)) :
    c.HasRoom (switchOver subject cases otherwise) := by
  have hheight : (switchOver subject cases otherwise).height ≤
      (cascade subject otherwise cases).height := by
    have hpos := (cascade subject otherwise cases).one_le_height
    have hargs : heightAll (subject :: (caseArguments cases ++ otherwise.toList)) ≤
        (cascade subject otherwise cases).height - 1 := by
      apply heightAll_le
      intro f hf
      have hlower := height_lt_cascade hcases hf
      omega
    rw [switchOver, height]
    omega
  exact hroom.of_le hheight

/-! ## The two outcomes -/

/-- A switch evaluates its subject and looks for the first case. -/
lemma outcome_switchOver (subject : Formula) (cases : List (Formula × Formula))
    (otherwise : Option Formula) (c : Context) :
    (switchOver subject cases otherwise).outcome c = (do
      let v ← subject.outcome c
      Function.firstCase v ((caseArguments cases ++ otherwise.toList).map outcome) c) :=
  outcome_call_function c .switch (subject :: (caseArguments cases ++ otherwise.toList))

/-- One more case in front. -/
lemma firstCase_cons (v : Value) (case result : Formula) (rest : List (Formula × Formula)) :
    Function.firstCase v
        ((caseArguments ((case, result) :: rest) ++ otherwise.toList).map outcome) c = (do
      if ← v.same (← case.outcome c) then result.outcome c
      else Function.firstCase v ((caseArguments rest ++ otherwise.toList).map outcome) c) := by
  rfl

/-- A cascade of choices looks for the first case, once its subject has a value. -/
lemma outcome_cascade {v : Value} (hv : subject.outcome c = .ok v) :
    (cascade subject otherwise cases).outcome c =
      Function.firstCase v ((caseArguments cases ++ otherwise.toList).map outcome) c := by
  induction cases with
  | nil =>
    cases otherwise with
    | none => exact outcome_call_function c .coalesce []
    | some f => rfl
  | cons pair rest ih =>
    obtain ⟨case, result⟩ := pair
    rw [cascade, outcome_choose, outcome_binary, hv, ih, firstCase_cons]
    cases case.outcome c with
    | error e => rfl
    | ok w =>
      show (Operator.equal.apply v w >>= _) = (v.same w >>= _)
      rw [← Operator.apply_equal_toTruth v w, bind_assoc]

/-! ## Which result is taken -/

/-- Whether the value of a subject equals a case. -/
def fits (c : Context) (v : Value) (case : Formula) : Except Fault Bool := do
  v.same (← case.eval c)

/-- Cases that the subject does not equal are passed over. -/
lemma firstCase_append {v : Value} {before : List (Formula × Formula)}
    (hbefore : ∀ pair ∈ before, (pair.1.outcome c >>= v.same) = .ok false)
    (rest : List (Formula × Formula)) :
    Function.firstCase v ((caseArguments (before ++ rest) ++ otherwise.toList).map outcome) c =
      Function.firstCase v ((caseArguments rest ++ otherwise.toList).map outcome) c := by
  induction before with
  | nil => rfl
  | cons pair before ih =>
    obtain ⟨hne, hbefore⟩ := List.forall_mem_cons.mp hbefore
    rw [List.cons_append, firstCase_cons, ← bind_assoc, hne]
    exact ih hbefore

lemma mem_caseArguments {pair : Formula × Formula} (hpair : pair ∈ cases) :
    pair.1 ∈ caseArguments cases ∧ pair.2 ∈ caseArguments cases := by
  unfold caseArguments
  constructor
  · exact List.mem_flatMap.mpr ⟨pair, hpair, List.mem_cons_self⟩
  · exact List.mem_flatMap.mpr ⟨pair, hpair, List.mem_cons_of_mem _ List.mem_cons_self⟩

section

variable (hcases : cases ≠ []) (hroom : c.HasRoom (cascade subject otherwise cases))

include hcases hroom

/-- With room for the cascade there is room for everything in the switch. -/
lemma eval_argument {f : Formula}
    (hf : f ∈ subject :: (caseArguments cases ++ otherwise.toList)) : f.eval c = f.outcome c := by
  have hlower := height_lt_cascade hcases hf
  exact eval_eq_outcome (hroom.of_le (Nat.le_of_lt hlower))

lemma eval_case {pair : Formula × Formula} (hpair : pair ∈ cases) :
    pair.1.eval c = pair.1.outcome c ∧ pair.2.eval c = pair.2.outcome c := by
  obtain ⟨hcase, hresult⟩ := mem_caseArguments hpair
  constructor
  · exact eval_argument hcases hroom (by simp [hcase])
  · exact eval_argument hcases hroom (by simp [hresult])

/-- A switch whose subject has a value looks for the first case. -/
lemma eval_switchOver {v : Value} (hv : subject.eval c = .ok v) :
    (switchOver subject cases otherwise).eval c =
      Function.firstCase v ((caseArguments cases ++ otherwise.toList).map outcome) c := by
  rw [eval_argument hcases hroom List.mem_cons_self] at hv
  rw [eval_eq_outcome (hasRoom_switchOver hcases hroom), outcome_switchOver, hv]
  rfl

section

variable {v : Value} (hv : subject.eval c = .ok v)

include hv

/-- Cases that the subject does not equal are passed over, whatever stands behind them. -/
lemma eval_switchOver_append {before rest : List (Formula × Formula)}
    (hsplit : cases = before ++ rest) (hbefore : ∀ pair ∈ before, fits c v pair.1 = .ok false) :
    (switchOver subject cases otherwise).eval c =
      Function.firstCase v ((caseArguments rest ++ otherwise.toList).map outcome) c := by
  rw [eval_switchOver hcases hroom hv, hsplit]
  apply firstCase_append
  intro pair hpair
  rw [← (eval_case hcases hroom (by simp [hsplit, hpair])).1]
  exact hbefore pair hpair

/-- The first case that does not merely differ settles the switch. -/
lemma eval_switchOver_of_first {before after : List (Formula × Formula)} {case result : Formula}
    (hsplit : cases = before ++ (case, result) :: after)
    (hbefore : ∀ pair ∈ before, fits c v pair.1 = .ok false) :
    (fits c v case = .ok true → (switchOver subject cases otherwise).eval c = result.eval c) ∧
      ∀ e, fits c v case = .error e →
        (switchOver subject cases otherwise).eval c = .error e := by
  have hmem : (case, result) ∈ cases := by simp [hsplit]
  obtain ⟨hcase, hresult⟩ := eval_case hcases hroom hmem
  rw [eval_switchOver_append hcases hroom hv hsplit hbefore, firstCase_cons, ← bind_assoc,
    ← hcase, hresult]
  change (_ → (fits c v case >>= _) = _) ∧ ∀ e, _ → (fits c v case >>= _) = _
  constructor
  · intro hfits
    rw [hfits]
    rfl
  · intro e hfails
    rw [hfails]
    rfl

lemma eval_switchOver_of_none (hnone : ∀ pair ∈ cases, fits c v pair.1 = .ok false) :
    (switchOver subject cases otherwise).eval c = otherwise.elim (.ok .blank) (·.eval c) := by
  rw [eval_switchOver_append hcases hroom hv (List.append_nil cases).symm hnone]
  cases otherwise with
  | none => rfl
  | some f => exact (eval_argument hcases hroom (by simp)).symm

end

end

/-- **A switch is a cascade of choices.**  It has the same outcome as the choices between its cases,
one inside the other.

So it has the outcome of the result behind the first case that its subject equals, whatever the
other results and the cases behind that one are; a case that cannot be compared before one fits makes
it fail; and where no case fits it has the outcome of its last argument, or blank. -/
theorem eval_switchOver_eq_cascade (hcases : cases ≠ [])
    (hroom : c.HasRoom (cascade subject otherwise cases)) :
    (switchOver subject cases otherwise).eval c = (cascade subject otherwise cases).eval c ∧
      ∀ v, subject.eval c = .ok v →
        (∀ before case result after, cases = before ++ (case, result) :: after →
          (∀ pair ∈ before, fits c v pair.1 = .ok false) →
            (fits c v case = .ok true →
              (switchOver subject cases otherwise).eval c = result.eval c) ∧
            ∀ e, fits c v case = .error e →
              (switchOver subject cases otherwise).eval c = .error e) ∧
        ((∀ pair ∈ cases, fits c v pair.1 = .ok false) →
          (switchOver subject cases otherwise).eval c =
            otherwise.elim (.ok .blank) (·.eval c)) := by
  constructor
  · rw [eval_eq_outcome (hasRoom_switchOver hcases hroom), eval_eq_outcome hroom,
      outcome_switchOver]
    cases hv : subject.outcome c with
    | ok v => exact (outcome_cascade hv).symm
    | error e =>
      -- The first condition of the cascade evaluates the subject too.
      obtain ⟨⟨case, result⟩, rest, rfl⟩ := List.exists_cons_of_ne_nil hcases
      rw [cascade, outcome_choose, outcome_binary, hv]
      rfl
  · intro v hv
    constructor
    · intro before case result after hsplit hbefore
      exact eval_switchOver_of_first hcases hroom hv hsplit hbefore
    · exact eval_switchOver_of_none hcases hroom hv

/-- The second of three cases fits.  No column stands for the names in the other places. -/
theorem eval_switchOver_secondCase :
    (Context.plain 5).HasRoom (cascade (text "low") (some (column "otherwise"))
        [(text "high", column "first"), (text "low", text "later"), (column "never", hole)]) ∧
      (switchOver (text "low") [(text "high", column "first"), (text "low", text "later"),
        (column "never", hole)] (some (column "otherwise"))).eval (.plain 5) =
          .ok (.text "later") := by
  have hroom : (Context.plain 5).HasRoom (cascade (text "low") (some (column "otherwise"))
      [(text "high", column "first"), (text "low", text "later"), (column "never", hole)]) := by
    decide
  obtain ⟨-, hsettled⟩ := eval_switchOver_eq_cascade (List.cons_ne_nil _ _) hroom
  have hsecond := (hsettled (.text "low") rfl).1 [(text "high", column "first")] (text "low")
    (text "later") _ rfl (List.forall_mem_singleton.mpr rfl)
  exact ⟨hroom, hsecond.1 rfl⟩

end Formula

end TableFormula
