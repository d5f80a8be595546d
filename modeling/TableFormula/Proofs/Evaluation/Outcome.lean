import TableFormula.Calendar.Everyday.Reader
import TableFormula.Proofs.Evaluation.Limit

/-!
# Outcomes without levels

Laws between formulas of different shapes, such as a switch and the choices that it stands for,
evaluate the same part at different levels.  Where the limit leaves room for both formulas, the
levels do not matter: a part has one *outcome*, the one that it has with as much room as it needs.

The outcome of a formula is put together from the outcomes of its parts by the equations of this
module, in which no level and no limit occurs.  So a law between formulas is proved for outcomes and
carried over to every context with room (`eval_eq_outcome`).
-/

namespace TableFormula

/-! ## Values of an operator and of a list -/

/-- A truth value that an operator gives back is read as itself. -/
@[simp] lemma Function.toTruth_ofTruth (b : Bool) : (ofTruth b).toTruth = .ok b := by
  cases b
  · decide
  · decide

section

variable {α β γ : Type}

lemma mapM_congr {f g : α → Except Fault β} {as : List α} (h : ∀ a ∈ as, f a = g a) :
    as.mapM f = as.mapM g := by
  apply SameUnless.eq
  apply SameUnless.mapM
  rw [List.forall₂_same]
  exact fun a ha => .of_eq (h a ha)

/-- What is made of every value may be made of the list of them. -/
lemma mapM_map (f : α → Except Fault β) (g : β → γ) (as : List α) :
    (as.mapM fun a => (f a).map g) = (as.mapM f).map (List.map g) := by
  induction as with
  | nil => rfl
  | cons a as ih =>
    rw [List.mapM_cons, List.mapM_cons, ih]
    cases f a with
    | error fault => rfl
    | ok b =>
      cases as.mapM f with
      | error fault => rfl
      | ok bs => rfl

end

/-- Values with texts show these. -/
lemma mapM_toText {vs : List Value} (h : ∀ v ∈ vs, v.hasText = true) :
    vs.mapM Value.toText = .ok (vs.map Value.shown) := by
  refine mapM_eq_ok_of_forall₂ (List.forall₂_map_right_iff.mpr (List.forall₂_same.mpr ?_))
  exact fun v hv => Value.toText_of_hasText (h v hv)

/-- A value without a text is enough to have none for all of them. -/
lemma mapM_toText_of_textless {vs : List Value} (h : ∃ v ∈ vs, v.hasText = false) :
    vs.mapM Value.toText = .error (.noValue .digits) := by
  obtain ⟨v, hv, hnone⟩ := h
  induction vs with
  | nil => cases hv
  | cons w vs ih =>
    rw [List.mapM_cons]
    cases hw : w.hasText with
    | false =>
      rw [Value.toText_of_not_hasText hw]
      rfl
    | true =>
      have hne : v ≠ w := by
        rintro rfl
        exact absurd (hw.symm.trans hnone) (by decide)
      rw [Value.toText_of_hasText hw, ih (List.mem_of_ne_of_mem hne hv)]
      rfl

/-! ## Room -/

/-- The limit of a context leaves room for the height of a formula. -/
def Context.HasRoom (c : Context) (f : Formula) : Prop :=
  c.depth + f.height ≤ c.limit

instance (c : Context) (f : Formula) : Decidable (c.HasRoom f) :=
  inferInstanceAs (Decidable (_ ≤ _))

/-- What is no higher has room as well. -/
lemma Context.HasRoom.of_le {c : Context} {f g : Formula} (h : c.HasRoom f)
    (hle : g.height ≤ f.height) : c.HasRoom g := by
  unfold HasRoom at h ⊢
  omega

/-- A context without columns, on a leap day. -/
def Context.plain (limit : Int) : Context :=
  .top (.atMidnight ⟨2024, 2, 29, by decide⟩) limit [] none []

/-! ## Outcomes -/

namespace Formula

/-- The outcome that a formula has where there is room for it. -/
def outcome (f : Formula) : Evaluator := fun c =>
  f.eval { c with limit := f.height, depth := 0 }

/-- Where there is room for a formula, it has its outcome. -/
lemma eval_eq_outcome {f : Formula} {c : Context} (hroom : c.HasRoom f) :
    f.eval c = f.outcome c := by
  have hheight : ((0 : Nat) : Int) + f.height ≤ (f.height : Int) := by omega
  obtain hsame | ⟨_, ⟨limit, rfl⟩, hdeep⟩ := sameUnless_eval_of_room f c hheight
  · exact hsame
  · exact absurd hdeep (eval_ne_tooDeep hroom limit)

/-- Two formulas have the same outcome in a context that has room for both. -/
def AgreesAt (c : Context) (f g : Formula) : Prop :=
  c.HasRoom f → c.HasRoom g → f.eval c = g.eval c

lemma AgreesAt.of_outcome {c : Context} {f g : Formula} (h : f.outcome c = g.outcome c) :
    AgreesAt c f g := by
  intro hf hg
  rw [eval_eq_outcome hf, eval_eq_outcome hg, h]

/-- There is room for every part of a formula for which there is room. -/
lemma hasRoom_of_mem_parts {f g : Formula} {c : Context} (hg : g ∈ f.parts) (hf : c.HasRoom f) :
    c.HasRoom g :=
  hf.of_le (Nat.le_of_lt (height_lt_of_mem_parts hg))

/-- A part has its outcome below a node that has all the room it needs. -/
lemma eval_part_eq_outcome {f g : Formula} (hg : g ∈ f.parts) (c : Context) :
    g.eval (Context.deeper { c with limit := f.height, depth := 0 }) = g.outcome c := by
  have hlower := height_lt_of_mem_parts hg
  apply eval_eq_outcome
  show ((0 + 1 : Nat) : Int) + g.height ≤ f.height
  omega

/-- A node is not too deep where it has all the room it needs. -/
lemma guarded_outcome (f : Formula) (e : Evaluator) (c : Context) :
    Evaluator.guarded e { c with limit := f.height, depth := 0 } =
      e (Context.deeper { c with limit := f.height, depth := 0 }) := by
  have hheight := f.one_le_height
  apply Evaluator.guarded_of_le
  show ((0 : Nat) : Int) + 1 ≤ f.height
  omega

/-! ## Equations -/

section

variable (c : Context)

lemma outcome_binary (op : Operator) (left right : Formula) :
    (binary op left right).outcome c = (do
      let v ← left.outcome c
      let w ← right.outcome c
      op.apply v w) := by
  rw [outcome, eval, guarded_outcome, Evaluator.ofBinary,
    eval_part_eq_outcome (by simp [parts]), eval_part_eq_outcome (by simp [parts])]

lemma outcome_unary (sign : Sign) (operand : Formula) :
    (unary sign operand).outcome c = operand.outcome c >>= sign.apply := by
  rw [outcome, eval, guarded_outcome, Evaluator.ofUnary, eval_part_eq_outcome (by simp [parts])]

lemma outcome_choose (condition whenTrue whenFalse : Formula) :
    (choose condition whenTrue whenFalse).outcome c = (do
      if ← (← condition.outcome c).toTruth then whenTrue.outcome c else whenFalse.outcome c) := by
  rw [outcome, eval, guarded_outcome, Evaluator.ofChoice, eval_part_eq_outcome (by simp [parts]),
    eval_part_eq_outcome (by simp [parts]), eval_part_eq_outcome (by simp [parts])]

/-- The outcome of a call is made of the outcomes of its arguments, in the rows of the table for a
total. -/
lemma outcome_call (name : String) (args : List Formula) :
    (call name args).outcome c = Evaluator.ofCall name (args.map outcome) c := by
  rw [outcome, eval, guarded_outcome, evalAll_eq_map]
  have hargs : ∀ g ∈ args, ∀ c, g.eval (Context.deeper
      { c with limit := (call name args).height, depth := 0 }) = g.outcome c :=
    fun g hg c => eval_part_eq_outcome hg c
  apply SameUnless.eq
  by_cases hname : isTotalName name = true
  · refine Evaluator.sameUnless_ofCall_of_isTotalName hname (.of_eq rfl rfl) ?_
    rw [List.forall₂_map_left_iff, List.forall₂_map_right_iff, List.forall₂_same]
    rintro g hg row _ rfl
    exact .of_eq (hargs g hg (c.atRow row))
  · refine Evaluator.sameUnless_ofCall (by simpa using hname) rfl ?_
    rw [Function.SameHere, List.forall₂_map_left_iff, List.forall₂_map_right_iff, List.forall₂_same]
    exact fun g hg => .of_eq (hargs g hg c)

lemma outcome_call_function (f : Function) (args : List Formula) :
    (call f.name args).outcome c = f.call (args.map outcome) c := by
  rw [outcome_call, Evaluator.ofCall, Function.ofName?_name]

/-- A function of values is given the outcomes of its arguments, or fails as the first of them that
fails. -/
lemma outcome_call_ofValues {f : Function} {rule : Rule}
    (hrule : f.meaning c.clock.everyday = .ofValues rule)
    (args : List Formula) :
    (call f.name args).outcome c = args.mapM (·.outcome c) >>= rule.apply f.name := by
  rw [outcome_call_function, Function.call, hrule]
  dsimp only
  rw [List.mapM_map]
  rfl

end

end Formula

end TableFormula
