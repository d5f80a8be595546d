import TableFormula.Proofs.Evaluation.Depth
import TableFormula.Proofs.Evaluation.Faults

/-!
# The course of an evaluation

An evaluation comes to some nodes of a formula and not to others: a choice leaves out a branch, a
switch stops at the first case that fits, a total goes through the rows of the table.
`f.Evaluates c g c'` says that evaluating `f` in the context `c` evaluates the node `g` in `c'`.

**Faults are passed on.**  Nothing catches a fault.  If an evaluation comes to a node that fails,
then the formula fails in the same way (`eval_eq_error_of_evaluates`).
-/

namespace TableFormula

variable {α β : Type}

/-! ## Going through a list in order -/

/-- A computation for every member fails as it does for the first member for which it fails. -/
lemma mapM_eq_error_of_prefix {f : α → Except Fault β} {before after : List α} {a : α}
    {fault : Fault} (hbefore : ∀ b ∈ before, ∃ v, f b = .ok v) (ha : f a = .error fault) :
    (before ++ a :: after).mapM f = .error fault := by
  induction before with
  | nil =>
    rw [List.nil_append, List.mapM_cons, ha]
    rfl
  | cons b before ih =>
    obtain ⟨⟨v, hv⟩, hbefore⟩ := List.forall_mem_cons.mp hbefore
    rw [List.cons_append, List.mapM_cons, hv, ih hbefore]
    rfl

/-! ## Levels -/

namespace Evaluator

lemma guarded_of_le {c : Context} (h : c.depth + 1 ≤ c.limit) (e : Evaluator) :
    guarded e c = e c.deeper := by
  rw [guarded, if_neg (Int.not_lt.mpr h)]

lemma guarded_of_lt {c : Context} (h : c.limit < c.depth + 1) (e : Evaluator) :
    guarded e c = .error (.tooDeep c.limit) := by
  rw [guarded, if_pos h]

end Evaluator

/-! ## Which parts are evaluated -/

/-- Whether a function is a total of numbers. -/
def Function.isNumeric : Function → Bool
  | sum | average | minimum | maximum => true
  | _ => false

/-- A total can read a value: a total of numbers as a number, a count of texts as a text. -/
def Function.CanRead (f : Function) (v : Value) : Prop :=
  (f.isNumeric = true → ∃ x, v.toNumber = .ok x) ∧ (f = .distinct → ∃ s, v.toText = .ok s)

namespace Formula

/-- A formula has a value in a context. -/
def HasValue (f : Formula) (c : Context) : Prop :=
  ∃ v, f.eval c = .ok v

/-- A total goes past a row: its argument has a value there, and the total can read it. -/
def PassesRow (f : Function) (p : Formula) (c : Context) (row : Row) : Prop :=
  ∃ v, p.eval (c.atRow row) = .ok v ∧ f.CanRead v

/-- The cases, results and the last argument that a switch evaluates for its subject. -/
inductive EvaluatesCase (c : Context) (subject : Value) : List Formula → Formula → Prop
  | otherwise (p : Formula) : EvaluatesCase c subject [p] p
  | case (p result : Formula) (rest : List Formula) :
    EvaluatesCase c subject (p :: result :: rest) p
  | result {p result : Formula} {rest : List Formula} {v : Value} (hp : p.eval c = .ok v)
      (hsame : subject.same v = .ok true) : EvaluatesCase c subject (p :: result :: rest) result
  | later {p result g : Formula} {rest : List Formula} {v : Value} (hp : p.eval c = .ok v)
      (hsame : subject.same v = .ok false) (hg : EvaluatesCase c subject rest g) :
    EvaluatesCase c subject (p :: result :: rest) g

/-- The arguments that a call evaluates, and where: in the context of the call, or in a row of the
table. -/
inductive EvaluatesArgument (c : Context) : Function → List Formula → Formula → Context → Prop
  | value {f : Function} {before after : List Formula} {p : Formula} (hf : f.isDeferred = false)
      (hbefore : ∀ q ∈ before, q.HasValue c) : EvaluatesArgument c f (before ++ p :: after) p c
  | inRow {f : Function} {p : Formula} {rest : List Formula} {before after : List Row} {row : Row}
      (hf : f.isTotal = true) (htable : c.table = some (before ++ row :: after))
      (hbefore : ∀ earlier ∈ before, PassesRow f p c earlier) :
    EvaluatesArgument c f (p :: rest) p (c.atRow row)
  | here {f : Function} {p : Formula} {rest : List Formula} (hf : f.isNumeric = true)
      (htable : c.table = none) : EvaluatesArgument c f (p :: rest) p c
  | subject (p : Formula) (rest : List Formula) : EvaluatesArgument c .switch (p :: rest) p c
  | case {p g : Formula} {rest : List Formula} {v : Value} (hp : p.eval c = .ok v)
      (hg : EvaluatesCase c v rest g) : EvaluatesArgument c .switch (p :: rest) g c
  | filled {before after : List Formula} {p : Formula}
      (hbefore : ∀ q ∈ before, ∃ v, q.eval c = .ok v ∧ v.isEmpty = true) :
    EvaluatesArgument c .coalesce (before ++ p :: after) p c

/-- A node evaluates one of its parts in a context. -/
inductive EvaluatesPart : Formula → Context → Formula → Context → Prop
  | left {op : Operator} {left right : Formula} {c : Context} (hlevel : c.depth + 1 ≤ c.limit) :
    EvaluatesPart (.binary op left right) c left c.deeper
  | right {op : Operator} {left right : Formula} {c : Context} (hlevel : c.depth + 1 ≤ c.limit)
      (hleft : left.HasValue c.deeper) : EvaluatesPart (.binary op left right) c right c.deeper
  | operand {sign : Sign} {operand : Formula} {c : Context} (hlevel : c.depth + 1 ≤ c.limit) :
    EvaluatesPart (.unary sign operand) c operand c.deeper
  | condition {condition whenTrue whenFalse : Formula} {c : Context}
      (hlevel : c.depth + 1 ≤ c.limit) :
    EvaluatesPart (.choose condition whenTrue whenFalse) c condition c.deeper
  | whenTrue {condition whenTrue whenFalse : Formula} {c : Context} {v : Value}
      (hlevel : c.depth + 1 ≤ c.limit) (hcondition : condition.eval c.deeper = .ok v)
      (hv : v.toTruth = .ok true) :
    EvaluatesPart (.choose condition whenTrue whenFalse) c whenTrue c.deeper
  | whenFalse {condition whenTrue whenFalse : Formula} {c : Context} {v : Value}
      (hlevel : c.depth + 1 ≤ c.limit) (hcondition : condition.eval c.deeper = .ok v)
      (hv : v.toTruth = .ok false) :
    EvaluatesPart (.choose condition whenTrue whenFalse) c whenFalse c.deeper
  | argument {name : String} {f : Function} {args : List Formula} {p : Formula} {c c' : Context}
      (hlevel : c.depth + 1 ≤ c.limit) (hname : Function.ofName? name = some f)
      (hp : EvaluatesArgument c.deeper f args p c') : EvaluatesPart (.call name args) c p c'

/-- Evaluating a formula in a context evaluates a node of it in a context. -/
inductive Evaluates : Formula → Context → Formula → Context → Prop
  | self (f : Formula) (c : Context) : Evaluates f c f c
  | part {f p g : Formula} {c c' c'' : Context} (hp : EvaluatesPart f c p c')
      (hg : Evaluates p c' g c'') : Evaluates f c g c''

/-! ### Where parts lie -/

section

variable {f g p : Formula} {c c' : Context}

lemma EvaluatesCase.mem {subject : Value} {args : List Formula}
    (h : EvaluatesCase c subject args p) : p ∈ args := by
  induction h with
  | otherwise | case | result => simp
  | later _ _ _ ih => exact List.mem_cons_of_mem _ (List.mem_cons_of_mem _ ih)

lemma EvaluatesArgument.mem {function : Function} {args : List Formula}
    (h : EvaluatesArgument c function args p c') : p ∈ args := by
  cases h with
  | value | filled => simp
  | inRow | here | subject => exact List.mem_cons_self
  | case _ hg => exact List.mem_cons_of_mem _ hg.mem

/-- An argument is evaluated in the context of its call, up to the row. -/
lemma EvaluatesArgument.exists_atRow {function : Function} {args : List Formula}
    (h : EvaluatesArgument c function args p c') : ∃ row, c' = c.atRow row := by
  cases h with
  | inRow => exact ⟨_, rfl⟩
  | value | here | subject | case | filled => exact ⟨c.row, rfl⟩

lemma EvaluatesPart.mem_parts (h : EvaluatesPart f c p c') : p ∈ f.parts := by
  cases h with
  | left | right | operand | condition | whenTrue | whenFalse => simp [parts]
  | argument _ _ hp => exact hp.mem

/-- A part is evaluated one level further down, in some row. -/
lemma EvaluatesPart.exists_atRow (h : EvaluatesPart f c p c') :
    ∃ row, c' = c.deeper.atRow row := by
  cases h with
  | argument _ _ hp => exact hp.exists_atRow
  | left | right | operand | condition | whenTrue | whenFalse => exact ⟨c.deeper.row, rfl⟩

end

/-! ## Faults are passed on -/

section

variable {c c' : Context} {fault : Fault}

/-- A total of numbers is one of the numbers that its argument has in the rows. -/
lemma exists_call_eq_totalOf {f : Function} (hf : f.isNumeric = true) :
    ∃ total, (∀ xs : List Float, FailsWith (fun fault => ∃ name, fault = .noRows name) (total xs)) ∧
      ∀ es c, f.call es c = Function.totalOf f.name total es c := by
  have hnonempty : ∀ (g : Float → List Float → Float) (xs : List Float),
      FailsWith (fun fault => ∃ name, fault = .noRows name) (Function.nonempty f.name g xs) := by
    intro g xs
    cases xs with
    | nil => exact .error ⟨f.name, rfl⟩
    | cons x xs => exact .ok _
  cases f with
  | sum => exact ⟨_, fun _ => .ok _, fun _ _ => rfl⟩
  | average | minimum | maximum => exact ⟨_, hnonempty _, fun _ _ => rfl⟩
  | _ => cases hf

/-- Totals are totals of numbers, and the two counts. -/
lemma isTotal_cases {f : Function} (hf : f.isTotal = true) :
    f.isNumeric = true ∨ f = .count ∨ f = .distinct := by
  cases f <;> first | exact .inl rfl | exact .inr (.inl rfl) | exact .inr (.inr rfl) | cases hf

lemma overRows_eq_error {e : Evaluator} {read : Value → Except Fault α} {before after : List Row}
    {row : Row} (hbefore : ∀ earlier ∈ before, ∃ v a, e (c.atRow earlier) = .ok v ∧ read v = .ok a)
    (hrow : e (c.atRow row) = .error fault) :
    e.overRows read (before ++ row :: after) c = .error fault := by
  refine mapM_eq_error_of_prefix (fun earlier hearlier => ?_) ?_
  · obtain ⟨v, a, hv, ha⟩ := hbefore earlier hearlier
    refine ⟨a, ?_⟩
    simp only [hv]
    exact ha
  · simp only [hrow]
    rfl

lemma firstCase_eq_error {subject : Value} {args : List Formula} {p : Formula}
    (h : EvaluatesCase c subject args p) (hp : p.eval c = .error fault) :
    Function.firstCase subject (args.map eval) c = .error fault := by
  induction h with
  | otherwise p => exact hp
  | case p result rest =>
    rw [List.map_cons, List.map_cons, Function.firstCase, hp]
    rfl
  | result hcase hsame =>
    rw [List.map_cons, List.map_cons, Function.firstCase, hcase]
    simp only [bind, Except.bind, hsame, if_true, hp]
  | later hcase hsame _ ih =>
    rw [List.map_cons, List.map_cons, Function.firstCase, hcase]
    simpa only [bind, Except.bind, hsame, Bool.false_eq_true, if_false] using ih hp

lemma firstFilled_eq_error {before after : List Formula} {p : Formula}
    (hbefore : ∀ q ∈ before, ∃ v, q.eval c = .ok v ∧ v.isEmpty = true)
    (hp : p.eval c = .error fault) :
    Function.firstFilled ((before ++ p :: after).map eval) c = .error fault := by
  induction before with
  | nil =>
    rw [List.nil_append, List.map_cons, Function.firstFilled, hp]
    rfl
  | cons q before ih =>
    obtain ⟨⟨v, hv, hempty⟩, hbefore⟩ := List.forall_mem_cons.mp hbefore
    rw [List.cons_append, List.map_cons, Function.firstFilled, hv]
    simpa only [bind, Except.bind, hempty, if_true] using ih hbefore

/-- A total fails as its argument does in a row that it comes to. -/
lemma call_eq_error_of_row {f : Function} {p : Formula} {rest : List Formula}
    {before after : List Row} {row : Row} (hf : f.isTotal = true)
    (htable : c.table = some (before ++ row :: after))
    (hbefore : ∀ earlier ∈ before, PassesRow f p c earlier)
    (hp : p.eval (c.atRow row) = .error fault) :
    f.call ((p :: rest).map eval) c = .error fault := by
  have hpasses : ∀ {α : Type} (read : Value → Except Fault α),
      (∀ v, f.CanRead v → ∃ a, read v = .ok a) →
      p.eval.overRows read (before ++ row :: after) c = .error fault := by
    intro α read hread
    refine overRows_eq_error (fun earlier hearlier => ?_) hp
    obtain ⟨v, hv, hcan⟩ := hbefore earlier hearlier
    obtain ⟨a, ha⟩ := hread v hcan
    exact ⟨v, a, hv, ha⟩
  obtain hnumeric | rfl | rfl := isTotal_cases hf
  · obtain ⟨total, -, hcall⟩ := exists_call_eq_totalOf hnumeric
    have hrows := hpasses Value.toNumber fun v hcan => hcan.1 hnumeric
    rw [hcall, List.map_cons, Function.totalOf, Function.firstArgument]
    simp only [htable, bind, Except.bind, hrows]
  · show Function.countRows ((p :: rest).map eval) c = .error fault
    have hrows := hpasses .ok fun v _ => ⟨v, rfl⟩
    rw [List.map_cons, Function.countRows]
    simp only [htable, bind, Except.bind, hrows]
  · show Function.countTexts Function.distinct.name ((p :: rest).map eval) c = .error fault
    have hrows := hpasses Value.toText fun v hcan => hcan.2 rfl
    rw [List.map_cons, Function.countTexts, Function.firstArgument]
    simp only [htable, bind, Except.bind, hrows]

/-- A call fails as every argument does that it evaluates. -/
lemma call_eq_error_of_argument {f : Function} {args : List Formula} {p : Formula}
    (h : EvaluatesArgument c f args p c') (hp : p.eval c' = .error fault) :
    f.call (args.map eval) c = .error fault := by
  cases h with
  | @value _ before after p hf hbefore =>
    obtain ⟨rule, hrule⟩ := Function.exists_rule c.clock.everyday hf
    have hvalues : ((before ++ p :: after).map eval).mapM (· c) = .error fault := by
      rw [List.mapM_map]
      exact mapM_eq_error_of_prefix hbefore hp
    rw [Function.call, hrule]
    simp only [hvalues]
    rfl
  | inRow hf htable hbefore => exact call_eq_error_of_row hf htable hbefore hp
  | here hf htable =>
    obtain ⟨total, -, hcall⟩ := exists_call_eq_totalOf hf
    rw [hcall, List.map_cons, Function.totalOf, Function.firstArgument]
    simp only [htable, bind, Except.bind, hp]
  | subject p rest =>
    show Function.switchOn Function.switch.name ((p :: rest).map eval) c = .error fault
    rw [List.map_cons, Function.switchOn, hp]
    rfl
  | case hsubject hg =>
    show Function.switchOn Function.switch.name (List.map eval (_ :: _)) c = .error fault
    rw [List.map_cons, Function.switchOn, hsubject]
    exact firstCase_eq_error hg hp
  | filled hbefore => exact firstFilled_eq_error hbefore hp

/-- **Step.**  A node fails as every part does that it evaluates. -/
lemma eval_eq_error_of_part {f p : Formula} (h : EvaluatesPart f c p c')
    (hp : p.eval c' = .error fault) : f.eval c = .error fault := by
  cases h with
  | left hlevel =>
    rw [eval, Evaluator.guarded_of_le hlevel, Evaluator.ofBinary, hp]
    rfl
  | right hlevel hleft =>
    obtain ⟨v, hv⟩ := hleft
    rw [eval, Evaluator.guarded_of_le hlevel, Evaluator.ofBinary, hv]
    simp only [bind, Except.bind, hp]
  | operand hlevel =>
    rw [eval, Evaluator.guarded_of_le hlevel, Evaluator.ofUnary, hp]
    rfl
  | condition hlevel =>
    rw [eval, Evaluator.guarded_of_le hlevel, Evaluator.ofChoice, hp]
    rfl
  | whenTrue hlevel hcondition hv =>
    rw [eval, Evaluator.guarded_of_le hlevel, Evaluator.ofChoice, hcondition]
    simp only [bind, Except.bind, hv, if_true, hp]
  | whenFalse hlevel hcondition hv =>
    rw [eval, Evaluator.guarded_of_le hlevel, Evaluator.ofChoice, hcondition]
    simp only [bind, Except.bind, hv, Bool.false_eq_true, if_false, hp]
  | argument hlevel hname hargument =>
    rw [eval, evalAll_eq_map, Evaluator.guarded_of_le hlevel, Evaluator.ofCall, hname]
    exact call_eq_error_of_argument hargument hp

/-- **Run.**  A formula fails as every node does that its evaluation comes to. -/
lemma eval_eq_error_of_evaluates {f g : Formula} (h : f.Evaluates c g c')
    (hg : g.eval c' = .error fault) : f.eval c = .error fault := by
  induction h with
  | self => exact hg
  | part hp _ ih => exact eval_eq_error_of_part hp (ih hg)

end

end Formula

end TableFormula
