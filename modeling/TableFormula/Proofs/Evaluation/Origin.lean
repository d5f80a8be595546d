import Mathlib.Data.List.Induction
import TableFormula.Proofs.Evaluation.Course

/-!
# Where a fault arises

If a formula fails, then its evaluation comes to a node at which the fault arises: this node fails
though all parts that it evaluates have values (`exists_origin`).  `OwnFault` says which faults may
arise at a node, so whatever makes a formula fail can be read off one of its nodes.

Most of the work is to see that the parts that a node evaluates are all that it depends on.  A call
is settled in four ways: by the rule of its function, by the rows of the table, by cases and by
arguments that are filled.
-/

namespace TableFormula

variable {α β : Type}

/-! ## Going through a list in order -/

/-- What holds of a member if it holds of all members before, holds of all members. -/
lemma forall_mem_of_prefix {P : α → Prop} {as : List α}
    (h : ∀ before a after, as = before ++ a :: after → (∀ b ∈ before, P b) → P a) :
    ∀ a ∈ as, P a := by
  induction as using List.reverseRecOn with
  | nil => exact List.forall_mem_nil _
  | append_singleton as a ih =>
    have has : ∀ b ∈ as, P b := by
      refine ih fun before b after heq hbefore => ?_
      exact h before b (after ++ [a]) (by simp [heq]) hbefore
    have ha : P a := h as a [] rfl has
    exact List.forall_mem_append.mpr ⟨has, by simpa using ha⟩

/-- A computation that has a value for every member has a list of values. -/
lemma exists_mapM_eq_ok {f : α → Except Fault β} {as : List α} (h : ∀ a ∈ as, ∃ v, f a = .ok v) :
    ∃ values, as.mapM f = .ok values ∧ values.length = as.length := by
  induction as with
  | nil => exact ⟨[], rfl, rfl⟩
  | cons a as ih =>
    obtain ⟨⟨v, hv⟩, has⟩ := List.forall_mem_cons.mp h
    obtain ⟨values, hvalues, hlength⟩ := ih has
    refine ⟨v :: values, ?_, by simp [hlength]⟩
    rw [List.mapM_cons, hv, hvalues]
    rfl

/-- Either a computation has a value for every member, or there is a first one for which it fails. -/
lemma forall_ok_or_exists_first_error (f : α → Except Fault β) (as : List α) :
    (∀ a ∈ as, ∃ v, f a = .ok v) ∨ ∃ before a after fault, as = before ++ a :: after ∧
      (∀ b ∈ before, ∃ v, f b = .ok v) ∧ f a = .error fault := by
  induction as with
  | nil => exact .inl (List.forall_mem_nil _)
  | cons a as ih =>
    cases ha : f a with
    | error fault => exact .inr ⟨[], a, as, fault, rfl, List.forall_mem_nil _, ha⟩
    | ok v =>
      obtain hall | ⟨before, a', after, fault, rfl, hbefore, ha'⟩ := ih
      · exact .inl (List.forall_mem_cons.mpr ⟨⟨v, ha⟩, hall⟩)
      · exact .inr ⟨a :: before, a', after, fault, rfl,
          List.forall_mem_cons.mpr ⟨⟨v, ha⟩, hbefore⟩, ha'⟩

/-- A computation for every member fails in some ways only, if it does for every member behind
members that have values. -/
lemma FailsWith.mapM_of_prefix {P : Fault → Prop} {f : α → Except Fault β} {as : List α}
    (h : ∀ before a after, as = before ++ a :: after → (∀ b ∈ before, ∃ v, f b = .ok v) →
      FailsWith P (f a)) : FailsWith P (as.mapM f) := by
  induction as with
  | nil => exact .ok []
  | cons a as ih =>
    have ha : FailsWith P (f a) := h [] a as rfl (List.forall_mem_nil _)
    rw [List.mapM_cons]
    cases hv : f a with
    | error fault => exact .error (ha fault hv)
    | ok v =>
      have has : FailsWith P (as.mapM f) := by
        refine ih fun before b after heq hbefore => ?_
        have hvalues : ∀ b ∈ a :: before, ∃ v, f b = .ok v :=
          List.forall_mem_cons.mpr ⟨⟨v, hv⟩, hbefore⟩
        exact h (a :: before) b after (by rw [heq, List.cons_append]) hvalues
      exact has.bind fun values => .ok (v :: values)

/-! ## Faults of a node -/

/-- A fault of a function that evaluates its arguments itself: one of values, that an argument is
missing, or that a table has no rows. -/
def Fault.isOfDeferred (fault : Fault) : Prop :=
  fault.isOfValues ∨ (∃ name needed given, fault = missingArgument name needed given) ∨
    ∃ name, fault = noRows name

namespace Formula

/-- The faults that a node may have of its own in a context.  Besides those of values there is one
for a level below the limit, one for every kind of node that is not known, and one for a number of
arguments that a function does not take. -/
inductive OwnFault (c : Context) : Formula → Fault → Prop
  | tooDeep (f : Formula) (hlevel : c.limit < c.depth + 1) : OwnFault c f (.tooDeep c.limit)
  | hole : OwnFault c .hole .hole
  | unknownColumn {name : String} (hname : Column.find? c.columns name = none) :
    OwnFault c (.column name) (.unknownColumn name)
  | unknownOperator (symbol : String) (left right : Formula) :
    OwnFault c (.binary (.other symbol) left right) (.unknownOperator symbol)
  | unknownSign (symbol : String) (operand : Formula) :
    OwnFault c (.unary (.other symbol) operand) (.unknownSign symbol)
  | unknownFunction {name : String} {args : List Formula} (hname : Function.ofName? name = none) :
    OwnFault c (.call name args) (.unknownFunction name)
  | wrongCount {f : Function} {rule : Rule} {args : List Formula}
      (hrule : f.meaning c.clock.everyday = .ofValues rule)
      (hcount : rule.accepts args.length = false) :
    OwnFault c (.call f.name args) (.wrongCount f.name args.length)
  | deferred {f : Function} {args : List Formula} {fault : Fault} (hf : f.isDeferred = true)
      (h : fault.isOfDeferred) : OwnFault c (.call f.name args) fault
  | values (f : Formula) {fault : Fault} (h : fault.isOfValues) : OwnFault c f fault

section

variable {c : Context} {f : Function} {args : List Formula}

lemma failsWith_overRows_of_passes {p : Formula} {rest : List Formula} {rows : List Row}
    {read : Value → Except Fault α} (hf : f.isTotal = true) (htable : c.table = some rows)
    (hpasses : ∀ v a, read v = .ok a → f.CanRead v)
    (hread : ∀ v, FailsByValues (read v))
    (hargs : ∀ q c', EvaluatesArgument c f (p :: rest) q c' → q.HasValue c') :
    FailsByValues (p.eval.overRows read rows c) := by
  refine FailsWith.mapM_of_prefix fun before row after hrows hbefore => ?_
  have hrow : p.HasValue (c.atRow row) := by
    refine hargs p (c.atRow row) (.inRow hf (htable.trans (congrArg some hrows)) ?_)
    intro earlier hearlier
    obtain ⟨a, ha⟩ := hbefore earlier hearlier
    cases hv : p.eval (c.atRow earlier) with
    | error fault =>
      rw [hv] at ha
      cases ha
    | ok v =>
      rw [hv] at ha
      exact ⟨v, hv, hpasses v a ha⟩
  obtain ⟨v, hv⟩ := hrow
  rw [hv]
  exact hread v

lemma failsByValues_firstCase {subject : Value} : (args : List Formula) →
    (∀ p, EvaluatesCase c subject args p → p.HasValue c) →
      FailsByValues (Function.firstCase subject (args.map eval) c)
  | [], _ => .ok _
  | [p], hargs => by
    obtain ⟨v, hv⟩ := hargs p (.otherwise p)
    rw [List.map_singleton, Function.firstCase, hv]
    exact .ok v
  | p :: result :: rest, hargs => by
    obtain ⟨v, hv⟩ := hargs p (.case p result rest)
    rw [List.map_cons, List.map_cons, Function.firstCase, hv]
    show FailsByValues (subject.same v >>= fun b => if b = true then result.eval c else
      Function.firstCase subject (rest.map eval) c)
    cases hsame : subject.same v with
    | error fault => exact .error (subject.failsByValues_same v fault hsame)
    | ok same =>
      cases same with
      | true =>
        obtain ⟨w, hw⟩ := hargs result (.result hv hsame)
        exact hw ▸ .ok w
      | false =>
        exact failsByValues_firstCase rest fun g hg => hargs g (.later hv hsame hg)

lemma exists_firstFilled_eq_ok (hargs : ∀ before p after, args = before ++ p :: after →
      (∀ q ∈ before, ∃ v, q.eval c = .ok v ∧ v.isEmpty = true) → p.HasValue c) :
    ∃ v, Function.firstFilled (args.map eval) c = .ok v := by
  induction args with
  | nil => exact ⟨_, rfl⟩
  | cons p rest ih =>
    obtain ⟨v, hv⟩ := hargs [] p rest rfl (List.forall_mem_nil _)
    rw [List.map_cons, Function.firstFilled, hv]
    cases hempty : v.isEmpty with
    | false => exact ⟨v, by simp only [bind, Except.bind, hempty]; rfl⟩
    | true =>
      have hrest : ∃ w, Function.firstFilled (rest.map eval) c = .ok w := by
        refine ih fun before q after heq hbefore => ?_
        refine hargs (p :: before) q after (by rw [heq, List.cons_append]) ?_
        exact List.forall_mem_cons.mpr ⟨⟨v, hv, hempty⟩, hbefore⟩
      obtain ⟨w, hw⟩ := hrest
      exact ⟨w, by simpa only [bind, Except.bind, hempty, if_true] using hw⟩

lemma failsWith_totalOf_of_hasValue (hf : f.isNumeric = true)
    (hargs : ∀ p c', EvaluatesArgument c f args p c' → p.HasValue c') (name : String)
    {total : List Float → Except Fault Float}
    (htotal : ∀ xs, FailsWith (fun fault => ∃ name, fault = .noRows name) (total xs)) :
    FailsWith Fault.isOfDeferred (Function.totalOf name total (args.map eval) c) := by
  cases args with
  | nil => exact .error (.inr (.inl ⟨name, 1, 0, rfl⟩))
  | cons p rest =>
    rw [List.map_cons, Function.totalOf, Function.firstArgument]
    cases htable : c.table with
    | none =>
      obtain ⟨v, hv⟩ := hargs p c (.here hf htable)
      simp only [bind, Except.bind, hv]
      exact .ok v
    | some rows =>
      have htotalOf : f.isTotal = true := by
        cases f <;> first | rfl | cases hf
      have hdistinct : f ≠ .distinct := by
        rintro rfl
        cases hf
      have hrows : FailsByValues (p.eval.overRows Value.toNumber rows c) :=
        failsWith_overRows_of_passes htotalOf htable
          (fun v x hx => ⟨fun _ => ⟨x, hx⟩, fun h => absurd h hdistinct⟩)
          Value.failsByValues_toNumber hargs
      refine (hrows.mono fun _ => .inl).bind fun xs => ?_
      have hxs : FailsWith Fault.isOfDeferred (total xs) :=
        (htotal xs).mono fun _ hrows => .inr (.inr hrows)
      exact hxs.bind fun x => .ok _

lemma failsWith_countRows_of_hasValue
    (hargs : ∀ p c', EvaluatesArgument c .count args p c' → p.HasValue c') :
    FailsWith Fault.isOfDeferred (Function.countRows (args.map eval) c) := by
  rw [Function.countRows]
  cases htable : c.table with
  | none => exact .ok _
  | some rows =>
    cases args with
    | nil => exact .ok _
    | cons p rest =>
      have hrows : FailsByValues (p.eval.overRows .ok rows c) :=
        failsWith_overRows_of_passes (f := .count) rfl htable
          (fun _ _ _ => ⟨fun h => (by cases h), fun h => (by cases h)⟩) FailsWith.ok hargs
      exact (hrows.mono fun _ => .inl).bind fun values => .ok _

lemma failsWith_countTexts_of_hasValue (name : String)
    (hargs : ∀ p c', EvaluatesArgument c .distinct args p c' → p.HasValue c') :
    FailsWith Fault.isOfDeferred (Function.countTexts name (args.map eval) c) := by
  rw [Function.countTexts]
  cases htable : c.table with
  | none => exact .ok _
  | some rows =>
    cases args with
    | nil => exact .error (.inr (.inl ⟨name, 1, 0, rfl⟩))
    | cons p rest =>
      have hrows : FailsByValues (p.eval.overRows Value.toText rows c) :=
        failsWith_overRows_of_passes (f := .distinct) rfl htable
          (fun _ s hs => ⟨fun h => (by cases h), fun _ => ⟨s, hs⟩⟩) Value.failsByValues_toText
          hargs
      exact (hrows.mono fun _ => .inl).bind fun texts => .ok _

lemma failsWith_switchOn_of_hasValue (name : String)
    (hargs : ∀ p c', EvaluatesArgument c .switch args p c' → p.HasValue c') :
    FailsWith Fault.isOfDeferred (Function.switchOn name (args.map eval) c) := by
  cases args with
  | nil => exact .error (.inr (.inl ⟨name, 1, 0, rfl⟩))
  | cons p rest =>
    obtain ⟨v, hv⟩ := hargs p c (.subject p rest)
    rw [List.map_cons, Function.switchOn, hv]
    have hcases : FailsByValues (Function.firstCase v (rest.map eval) c) :=
      failsByValues_firstCase rest fun g hg => hargs g c (.case hv hg)
    exact hcases.mono fun _ => .inl

/-- A deferred call whose arguments have values where it evaluates them fails in its own ways. -/
lemma failsWith_call_of_isDeferred (hf : f.isDeferred = true)
    (hargs : ∀ p c', EvaluatesArgument c f args p c' → p.HasValue c') :
    FailsWith Fault.isOfDeferred (f.call (args.map eval) c) := by
  have hclock : ∀ text : Moment → List Char,
      FailsWith Fault.isOfDeferred (Function.fromClock text (args.map eval) c) := by
    intro text
    have huniversal := failsByValues_toUniversal c.clock.now
    exact (huniversal.mono fun _ => .inl).bind fun m => .ok _
  cases hnumeric : f.isNumeric with
  | true =>
    obtain ⟨total, htotal, hcall⟩ := exists_call_eq_totalOf hnumeric
    rw [hcall]
    exact failsWith_totalOf_of_hasValue hnumeric hargs f.name htotal
  | false =>
    cases f with
    | count => exact failsWith_countRows_of_hasValue hargs
    | distinct => exact failsWith_countTexts_of_hasValue _ hargs
    | switch => exact failsWith_switchOn_of_hasValue _ hargs
    | coalesce =>
      have hfilled : ∃ v, Function.firstFilled (args.map eval) c = .ok v := by
        refine exists_firstFilled_eq_ok fun before p after heq hbefore => ?_
        exact hargs p c (heq ▸ .filled hbefore)
      obtain ⟨v, hv⟩ := hfilled
      show FailsWith _ (Function.firstFilled (args.map eval) c)
      rw [hv]
      exact .ok v
    | today | now => exact hclock _
    | sum | average | minimum | maximum => cases hnumeric
    | _ => cases hf

/-- An eager call evaluates all its arguments in its own context. -/
lemma forall_mem_hasValue_of_eager (hf : f.isDeferred = false)
    (hargs : ∀ p c', EvaluatesArgument c f args p c' → p.HasValue c') :
    ∀ p ∈ args, p.HasValue c := by
  refine forall_mem_of_prefix fun before p after heq hbefore => ?_
  exact hargs p c (heq ▸ .value hf hbefore)

/-- An eager call whose arguments have values has what its rule makes of them. -/
lemma exists_call_eq_apply {rule : Rule} (hrule : f.meaning c.clock.everyday = .ofValues rule)
    (hargs : ∀ p ∈ args, p.HasValue c) :
    ∃ values : List Value, values.length = args.length ∧
      f.call (args.map eval) c = rule.apply f.name values := by
  obtain ⟨values, hvalues, hlength⟩ := exists_mapM_eq_ok hargs
  refine ⟨values, hlength, ?_⟩
  have hmap : (args.map eval).mapM (· c) = .ok values := by
    rw [List.mapM_map]
    exact hvalues
  rw [Function.call, hrule]
  simp only [hmap]
  rfl

end

/-- A fault arises at a node: it fails though all parts that it evaluates have values. -/
structure ArisesAt (fault : Fault) (f : Formula) (c : Context) : Prop where
  fails : f.eval c = .error fault
  parts (p : Formula) (c' : Context) (hp : EvaluatesPart f c p c') : p.HasValue c'

/-- What arises at a node is a fault of its own. -/
lemma ArisesAt.ownFault {f : Formula} {c : Context} {fault : Fault} (hfault : ArisesAt fault f c) :
    OwnFault c f fault := by
  obtain ⟨h, hparts⟩ := hfault
  by_cases hlevel : c.depth + 1 ≤ c.limit
  · cases f with
    | number x | text s =>
      rw [eval, Evaluator.guarded_of_le hlevel] at h
      cases h
    | hole =>
      rw [eval, Evaluator.guarded_of_le hlevel] at h
      cases h
      exact .hole
    | column name =>
      rw [eval, Evaluator.guarded_of_le hlevel, Evaluator.ofReference] at h
      cases hfind : Column.find? c.deeper.columns name with
      | some column =>
        rw [hfind] at h
        cases h
      | none =>
        rw [hfind] at h
        cases h
        exact .unknownColumn hfind
    | binary op left right =>
      obtain ⟨v, hv⟩ := hparts left c.deeper (.left hlevel)
      obtain ⟨w, hw⟩ := hparts right c.deeper (.right hlevel ⟨v, hv⟩)
      rw [eval, Evaluator.guarded_of_le hlevel, Evaluator.ofBinary, hv] at h
      simp only [bind, Except.bind, hw] at h
      obtain hvalues | ⟨symbol, rfl, rfl⟩ := op.failsWith_ownFault v w fault h
      · exact .values _ hvalues
      · exact .unknownOperator symbol left right
    | unary sign operand =>
      obtain ⟨v, hv⟩ := hparts operand c.deeper (.operand hlevel)
      rw [eval, Evaluator.guarded_of_le hlevel, Evaluator.ofUnary, hv] at h
      obtain hvalues | ⟨symbol, rfl, rfl⟩ := sign.failsWith_ownFault v fault h
      · exact .values _ hvalues
      · exact .unknownSign symbol operand
    | choose condition whenTrue whenFalse =>
      obtain ⟨v, hv⟩ := hparts condition c.deeper (.condition hlevel)
      rw [eval, Evaluator.guarded_of_le hlevel, Evaluator.ofChoice, hv] at h
      simp only [bind, Except.bind] at h
      cases htruth : v.toTruth with
      | error other =>
        rw [htruth] at h
        cases h
        exact .values _ (v.failsByValues_toTruth _ htruth)
      | ok truth =>
        cases truth with
        | true =>
          obtain ⟨w, hw⟩ := hparts whenTrue c.deeper (.whenTrue hlevel hv htruth)
          simp [htruth, hw] at h
        | false =>
          obtain ⟨w, hw⟩ := hparts whenFalse c.deeper (.whenFalse hlevel hv htruth)
          simp [htruth, hw] at h
    | call name args =>
      rw [eval, evalAll_eq_map, Evaluator.guarded_of_le hlevel, Evaluator.ofCall] at h
      cases hname : Function.ofName? name with
      | none =>
        rw [hname] at h
        cases h
        exact .unknownFunction hname
      | some f =>
        rw [hname] at h
        have hargs : ∀ p c', EvaluatesArgument c.deeper f args p c' → p.HasValue c' :=
          fun p c' hp => hparts p c' (.argument hlevel hname hp)
        obtain rfl : f.name = name := Function.name_of_ofName? hname
        cases hf : f.isDeferred with
        | true => exact .deferred hf (failsWith_call_of_isDeferred hf hargs fault h)
        | false =>
          obtain ⟨rule, hrule⟩ := Function.exists_rule c.deeper.clock.everyday hf
          obtain ⟨values, hlength, hcall⟩ :=
            exists_call_eq_apply hrule (forall_mem_hasValue_of_eager hf hargs)
          have hfault := (Function.byValues hrule).failsWith_ownFault f.name values fault
          rw [hlength] at hfault
          obtain hvalues | ⟨hcount, rfl⟩ := hfault (hcall.symm.trans h)
          · exact .values _ hvalues
          · exact .wrongCount hrule hcount
  · have hdeep : c.limit < c.depth + 1 := Int.not_le.mp hlevel
    have heval : f.eval c = .error (.tooDeep c.limit) := by
      cases f <;> exact Evaluator.guarded_of_lt hdeep _
    rw [heval] at h
    cases h
    exact .tooDeep f hdeep

/-- **Origins.**  Where a formula fails, its evaluation comes to a node at which the fault
arises. -/
lemma exists_origin {f : Formula} {c : Context} {fault : Fault} (h : f.eval c = .error fault) :
    ∃ g c', f.Evaluates c g c' ∧ ArisesAt fault g c' := by
  by_cases hparts : ∀ p c', EvaluatesPart f c p c' → p.HasValue c'
  · exact ⟨f, c, .self f c, h, hparts⟩
  · push Not at hparts
    obtain ⟨p, c', hp, hvalue⟩ := hparts
    have hlower : p.height < f.height := height_lt_of_mem_parts hp.mem_parts
    cases heval : p.eval c' with
    | ok v => exact absurd ⟨v, heval⟩ hvalue
    | error other =>
      have hsame : f.eval c = .error other := eval_eq_error_of_part hp heval
      obtain rfl : fault = other := by
        rw [h] at hsame
        cases hsame
        rfl
      obtain ⟨g, c'', hg, hfault⟩ := exists_origin heval
      exact ⟨g, c'', .part hp hg, hfault⟩
termination_by f.height

end Formula

end TableFormula
