import Mathlib.Data.List.Forall2
import TableFormula.Formula.Evaluate

/-!
# Two evaluations in step

Many laws about formulas compare two evaluations: of one formula in two rows, over two tables or
with two limits, or of a formula and another one that is built from it.  All of them are proved by
one principle.  Take a relation between pairs of a formula and a context.  If related pairs are *in
step*, that is, they have the same outcome for a reason of their own, or they are nodes of one kind
whose parts are related again, then related pairs have the same outcome (`sameUnless_eval`).

**Where parts are evaluated.**  The parts of an operator, of a choice and of a call are evaluated in
the context of the node, one level further down.  The arguments of a total are evaluated in the rows
of the table instead, and in the current row only if there is no table.  `SameScope` pairs the rows
that a total looks at.

**Excused faults.**  `SameUnless D` also lets the first of two computations give up with a fault of
a kind `D`, whatever the second one does.  With no such faults it is equality; with nesting as the
excuse it compares a narrow limit with a wide one.
-/

namespace TableFormula

variable {α β : Type} {D : Fault → Prop}

/-! ## Computations with the same outcome -/

/-- Two computations have the same outcome, or the first one fails in an excused way. -/
def SameUnless (D : Fault → Prop) (x y : Except Fault α) : Prop :=
  x = y ∨ ∃ fault, D fault ∧ x = .error fault

namespace SameUnless

lemma refl (x : Except Fault α) : SameUnless D x x :=
  .inl rfl

lemma of_eq {x y : Except Fault α} (h : x = y) : SameUnless D x y :=
  .inl h

lemma excused {fault : Fault} (h : D fault) (y : Except Fault α) :
    SameUnless D (.error fault) y :=
  .inr ⟨fault, h, rfl⟩

/-- Without excuses the outcomes are the same. -/
lemma eq {x y : Except Fault α} (h : SameUnless (fun _ => False) x y) : x = y := by
  obtain h | ⟨_, hfalse, _⟩ := h
  · exact h
  · exact hfalse.elim

lemma bind {x y : Except Fault α} {f g : α → Except Fault β} (hx : SameUnless D x y)
    (hf : ∀ a, SameUnless D (f a) (g a)) : SameUnless D (x >>= f) (y >>= g) := by
  obtain rfl | ⟨fault, hfault, rfl⟩ := hx
  · cases x with
    | error fault => exact refl _
    | ok a => exact hf a
  · exact excused hfault _

/-- What is made of the values does not matter if it is the same. -/
lemma andThen {x y : Except Fault α} (hx : SameUnless D x y) (f : α → Except Fault β) :
    SameUnless D (x >>= f) (y >>= f) :=
  hx.bind fun a => refl (f a)

lemma ite {p : Prop} [Decidable p] {x y x' y' : Except Fault α} (hx : SameUnless D x y)
    (hx' : SameUnless D x' y') : SameUnless D (if p then x else x') (if p then y else y') := by
  split
  · exact hx
  · exact hx'

lemma mapM {γ : Type} {f : α → Except Fault γ} {g : β → Except Fault γ} {as : List α}
    {bs : List β} (h : List.Forall₂ (fun a b => SameUnless D (f a) (g b)) as bs) :
    SameUnless D (as.mapM f) (bs.mapM g) := by
  induction h with
  | nil => exact refl _
  | cons hab _ ih =>
    rw [List.mapM_cons, List.mapM_cons]
    exact hab.bind fun v => ih.andThen fun vs => .ok (v :: vs)

end SameUnless

/-! ## Values one by one -/

/-- If a computation has a value for every member of a list, then they are its values one by one. -/
lemma forall₂_of_mapM {f : α → Except Fault β} {as : List α} {bs : List β}
    (h : as.mapM f = .ok bs) : List.Forall₂ (fun a b => f a = .ok b) as bs := by
  induction as generalizing bs with
  | nil =>
    cases h
    exact .nil
  | cons a as ih =>
    rw [List.mapM_cons] at h
    cases ha : f a with
    | error fault =>
      rw [ha] at h
      cases h
    | ok b =>
      cases has : as.mapM f with
      | error fault =>
        rw [ha, has] at h
        cases h
      | ok bs' =>
        rw [ha, has] at h
        cases h
        exact .cons ha (ih has)

lemma mapM_eq_ok_of_forall₂ {f : α → Except Fault β} {as : List α} {bs : List β}
    (h : List.Forall₂ (fun a b => f a = .ok b) as bs) : as.mapM f = .ok bs := by
  induction h with
  | nil => rfl
  | cons ha _ ih =>
    rw [List.mapM_cons, ha, ih]
    rfl

lemma mapM_eq_ok_iff {f : α → Except Fault β} {as : List α} {bs : List β} :
    as.mapM f = .ok bs ↔ List.Forall₂ (fun a b => f a = .ok b) as bs :=
  ⟨forall₂_of_mapM, mapM_eq_ok_of_forall₂⟩

/-- Two lists come to the same if their members do one by one. -/
lemma map_eq_map_iff_forall₂ {γ : Type} {f : α → γ} {g : β → γ} {as : List α} {bs : List β} :
    as.map f = bs.map g ↔ List.Forall₂ (fun a b => f a = g b) as bs := by
  rw [← List.forall₂_eq_eq_eq, List.forall₂_map_left_iff, List.forall₂_map_right_iff]

/-- A list of outcomes is a list of values exactly if each of them is. -/
lemma mapM_eq_ok_iff_map {f : α → Except Fault β} {as : List α} {bs : List β} :
    as.mapM f = .ok bs ↔ as.map f = bs.map .ok :=
  mapM_eq_ok_iff.trans map_eq_map_iff_forall₂.symm

/-- What a list is matched with has matches in it. -/
lemma exists_of_mem_of_forall₂ {R : α → β → Prop} {as : List α} {bs : List β}
    (h : List.Forall₂ R as bs) {b : β} (hb : b ∈ bs) : ∃ a ∈ as, R a b := by
  induction h with
  | nil => cases hb
  | cons hab _ ih =>
    obtain rfl | hb := List.mem_cons.mp hb
    · exact ⟨_, List.mem_cons_self, hab⟩
    · obtain ⟨a, ha, hab⟩ := ih hb
      exact ⟨a, List.mem_cons_of_mem _ ha, hab⟩

/-! ## Levels -/

/-- If a node may be evaluated in the first context, then it may be in the second one; if not, then
that is an excuse, or it is the same fault in both. -/
structure SameLevel (D : Fault → Prop) (c c' : Context) : Prop where
  within (h : ¬ c.limit < c.depth + 1) : ¬ c'.limit < c'.depth + 1
  below (h : c.limit < c.depth + 1) :
    D (.tooDeep c.limit) ∨ c'.limit = c.limit ∧ c'.limit < c'.depth + 1

lemma SameLevel.of_eq {c c' : Context} (hlimit : c'.limit = c.limit) (hdepth : c'.depth = c.depth) :
    SameLevel D c c' where
  within h := by rwa [hlimit, hdepth]
  below h := .inr ⟨hlimit, by rwa [hlimit, hdepth]⟩

lemma SameLevel.guarded {c c' : Context} {e e' : Evaluator} (hlevel : SameLevel D c c')
    (he : SameUnless D (e c.deeper) (e' c'.deeper)) :
    SameUnless D (Evaluator.guarded e c) (Evaluator.guarded e' c') := by
  rw [Evaluator.guarded, Evaluator.guarded]
  by_cases h : c.limit < c.depth + 1
  · rw [if_pos h]
    obtain hexcuse | ⟨hlimit, h'⟩ := hlevel.below h
    · exact .excused hexcuse _
    · rw [if_pos h', hlimit]
      exact .refl _
  · rw [if_neg h, if_neg (hlevel.within h)]
    exact he

/-! ## Rows that totals look at -/

/-- The rows that a total looks at are paired by `R`: those of the tables, or the current ones
where there is no table. -/
inductive SameScope (R : Row → Row → Prop) (c c' : Context) : Prop
  | table {rows rows' : List Row} (htable : c.table = some rows) (htable' : c'.table = some rows')
      (hrows : List.Forall₂ R rows rows')
  | row (htable : c.table = none) (htable' : c'.table = none) (hrow : R c.row c'.row)

/-- The rows that a total looks at are the same ones one level further down. -/
lemma SameScope.deeper {R : Row → Row → Prop} {c c' : Context} (h : SameScope R c c') :
    SameScope R c.deeper c'.deeper := by
  obtain ⟨htable, htable', hrows⟩ | ⟨htable, htable', hrow⟩ := h
  · exact .table htable htable' hrows
  · exact .row htable htable' hrow

/-- Contexts with one table and one current row have the same scope. -/
lemma SameScope.of_eq {c c' : Context} (htable : c'.table = c.table) (hrow : c'.row = c.row) :
    SameScope Eq c c' := by
  cases h : c.table with
  | none => exact .row h (htable.trans h) hrow.symm
  | some rows => exact .table h (htable.trans h) (List.forall₂_same.mpr fun _ _ => rfl)

/-- Two arguments have the same outcomes in all rows that are paired. -/
def SameInRows (D : Fault → Prop) (R : Row → Row → Prop) (c c' : Context) (e e' : Evaluator) :
    Prop :=
  ∀ row row', R row row' → SameUnless D (e (c.atRow row)) (e' (c'.atRow row'))

namespace Function

/-- Whether a function evaluates its argument in every row of the table. -/
def isTotal (f : Function) : Bool :=
  f.category == .aggregation

section Totals

variable {R : Row → Row → Prop} {c c' : Context} {args args' : List Evaluator}

lemma sameUnless_overRows {e e' : Evaluator} {rows rows' : List Row}
    (he : SameInRows D R c c' e e') (hrows : List.Forall₂ R rows rows')
    (read : Value → Except Fault α) :
    SameUnless D (e.overRows read rows c) (e'.overRows read rows' c') :=
  .mapM (hrows.imp fun row row' hrow => (he row row' hrow).andThen read)

lemma sameUnless_totalOf (hscope : SameScope R c c')
    (hargs : List.Forall₂ (SameInRows D R c c') args args') (name : String)
    (total : List Float → Except Fault Float) :
    SameUnless D (totalOf name total args c) (totalOf name total args' c') := by
  cases hargs with
  | nil => exact .refl _
  | cons he _ =>
    obtain ⟨htable, htable', hrows⟩ | ⟨htable, htable', hrow⟩ := hscope
    · simp only [totalOf, firstArgument, htable, htable']
      exact (sameUnless_overRows he hrows Value.toNumber).andThen _
    · simp only [totalOf, firstArgument, htable, htable']
      exact he _ _ hrow

lemma sameUnless_countRows (hscope : SameScope R c c')
    (hargs : List.Forall₂ (SameInRows D R c c') args args') :
    SameUnless D (countRows args c) (countRows args' c') := by
  obtain ⟨htable, htable', hrows⟩ | ⟨htable, htable', -⟩ := hscope
  · simp only [countRows, htable, htable']
    cases hargs with
    | nil => exact .of_eq (by rw [hrows.length_eq])
    | cons he _ => exact (sameUnless_overRows he hrows .ok).andThen _
  · simp only [countRows, htable, htable']
    exact .refl _

lemma sameUnless_countTexts (hscope : SameScope R c c')
    (hargs : List.Forall₂ (SameInRows D R c c') args args') (name : String) :
    SameUnless D (countTexts name args c) (countTexts name args' c') := by
  obtain ⟨htable, htable', hrows⟩ | ⟨htable, htable', -⟩ := hscope
  · simp only [countTexts, htable, htable']
    cases hargs with
    | nil => exact .refl _
    | cons he _ => exact (sameUnless_overRows he hrows Value.toText).andThen _
  · simp only [countTexts, htable, htable']
    exact .refl _

/-- A total depends on its arguments in the rows that it looks at, and on nothing else. -/
lemma sameUnless_call_of_isTotal {f : Function} (hf : f.isTotal = true) (hscope : SameScope R c c')
    (hargs : List.Forall₂ (SameInRows D R c c') args args') :
    SameUnless D (f.call args c) (f.call args' c') := by
  cases f with
  | sum | average | minimum | maximum => exact sameUnless_totalOf hscope hargs _ _
  | count => exact sameUnless_countRows hscope hargs
  | distinct => exact sameUnless_countTexts hscope hargs _
  | _ => cases hf

end Totals

/-! ## Other calls -/

/-- Two lists of arguments have the same outcomes, one by one. -/
abbrev SameHere (D : Fault → Prop) (c c' : Context) (args args' : List Evaluator) : Prop :=
  List.Forall₂ (fun e e' => SameUnless D (e c) (e' c')) args args'

section Others

variable {c c' : Context} {args args' : List Evaluator}

lemma sameUnless_firstCase (hargs : SameHere D c c' args args') (subject : Value) :
    SameUnless D (firstCase subject args c) (firstCase subject args' c') := by
  fun_induction firstCase subject args c generalizing args' with
  | case1 =>
    cases hargs
    exact .refl _
  | case2 =>
    obtain _ | ⟨hotherwise, _ | _⟩ := hargs
    exact hotherwise
  | case3 case result rest c ih =>
    obtain _ | ⟨hcase, _ | ⟨hresult, hrest⟩⟩ := hargs
    refine hcase.bind fun v => SameUnless.bind (.refl _) fun b => ?_
    exact .ite hresult (ih hrest)

lemma sameUnless_switchOn (hargs : SameHere D c c' args args') (name : String) :
    SameUnless D (switchOn name args c) (switchOn name args' c') := by
  cases hargs with
  | nil => exact .refl _
  | cons hsubject hcases => exact hsubject.bind fun v => sameUnless_firstCase hcases v

lemma sameUnless_firstFilled (hargs : SameHere D c c' args args') :
    SameUnless D (firstFilled args c) (firstFilled args' c') := by
  induction hargs with
  | nil => exact .refl _
  | cons he _ ih => exact he.bind fun v => .ite ih (.refl _)

/-- A call that is no total depends on its arguments and the clock. -/
lemma sameUnless_call {f : Function} (hf : f.isTotal = false) (hclock : c.clock = c'.clock)
    (hargs : SameHere D c c' args args') : SameUnless D (f.call args c) (f.call args' c') := by
  cases hmeaning : f.meaning c.clock.everyday with
  | ofValues rule =>
    rw [call, call, ← hclock, hmeaning]
    exact (SameUnless.mapM hargs).andThen _
  | deferred run =>
    cases f with
    | switch => exact sameUnless_switchOn hargs _
    | coalesce => exact sameUnless_firstFilled hargs
    | today | now => exact .of_eq (by simp only [call, meaning, fromClock, hclock])
    | sum | average | count | minimum | maximum | distinct => cases hf
    | _ => cases hmeaning

end Others

end Function

/-! ## Calls by name -/

/-- Whether a name means a total. -/
def isTotalName (name : String) : Bool :=
  (Function.ofName? name).any Function.isTotal

namespace Evaluator

variable {c c' : Context} {args args' : List Evaluator} {name : String}

lemma sameUnless_ofCall (hname : isTotalName name = false) (hclock : c.clock = c'.clock)
    (hargs : Function.SameHere D c c' args args') :
    SameUnless D (ofCall name args c) (ofCall name args' c') := by
  rw [ofCall, ofCall]
  cases hf : Function.ofName? name with
  | none => exact .refl _
  | some f =>
    rw [isTotalName, hf] at hname
    exact Function.sameUnless_call hname hclock hargs

lemma sameUnless_ofCall_of_isTotalName {R : Row → Row → Prop} (hname : isTotalName name = true)
    (hscope : SameScope R c c') (hargs : List.Forall₂ (SameInRows D R c c') args args') :
    SameUnless D (ofCall name args c) (ofCall name args' c') := by
  rw [ofCall, ofCall]
  cases hf : Function.ofName? name with
  | none => exact .refl _
  | some f =>
    rw [isTotalName, hf] at hname
    exact Function.sameUnless_call_of_isTotal hname hscope hargs

end Evaluator

/-! ## Nodes in step -/

namespace Formula

/-- Two nodes in two contexts are in step with each other if they have the same outcome, or if they
are of one kind and their parts are related by `S` where they are evaluated. -/
inductive InStep (D : Fault → Prop) (S : Formula → Formula → Context → Context → Prop) :
    Formula → Formula → Context → Context → Prop
  | outcome {f f' : Formula} {c c' : Context} (h : SameUnless D (f.eval c) (f'.eval c')) :
    InStep D S f f' c c'
  | binary {op : Operator} {left right left' right' : Formula} {c c' : Context}
      (hlevel : SameLevel D c c') (hleft : S left left' c.deeper c'.deeper)
      (hright : S right right' c.deeper c'.deeper) :
    InStep D S (.binary op left right) (.binary op left' right') c c'
  | unary {sign : Sign} {operand operand' : Formula} {c c' : Context} (hlevel : SameLevel D c c')
      (hoperand : S operand operand' c.deeper c'.deeper) :
    InStep D S (.unary sign operand) (.unary sign operand') c c'
  | choose {condition whenTrue whenFalse condition' whenTrue' whenFalse' : Formula}
      {c c' : Context} (hlevel : SameLevel D c c')
      (hcondition : S condition condition' c.deeper c'.deeper)
      (hwhenTrue : S whenTrue whenTrue' c.deeper c'.deeper)
      (hwhenFalse : S whenFalse whenFalse' c.deeper c'.deeper) :
    InStep D S (.choose condition whenTrue whenFalse) (.choose condition' whenTrue' whenFalse') c c'
  | call {name : String} {args args' : List Formula} {c c' : Context} (hlevel : SameLevel D c c')
      (hname : isTotalName name = false) (hclock : c.clock = c'.clock)
      (hargs : List.Forall₂ (fun g g' => S g g' c.deeper c'.deeper) args args') :
    InStep D S (.call name args) (.call name args') c c'
  | total {name : String} {args args' : List Formula} {c c' : Context} {R : Row → Row → Prop}
      (hlevel : SameLevel D c c') (hname : isTotalName name = true) (hscope : SameScope R c c')
      (hargs : List.Forall₂ (fun g g' => ∀ row row', R row row' →
        S g g' (c.deeper.atRow row) (c'.deeper.atRow row')) args args') :
    InStep D S (.call name args) (.call name args') c c'

section

variable {S : Formula → Formula → Context → Context → Prop}

mutual

/-- **Evaluations in step.**  If related pairs are in step with each other, then they have the same
outcome.  The induction is on the first formula; the second one may be of any size where the pair
has an outcome of its own. -/
lemma sameUnless_eval (hS : ∀ f f' c c', S f f' c c' → InStep D S f f' c c') : (f : Formula) →
    ∀ f' c c', S f f' c c' → SameUnless D (f.eval c) (f'.eval c')
  | .number _, _, _, _, h | .text _, _, _, _, h | .column _, _, _, _, h | .hole, _, _, _, h => by
    obtain ⟨houtcome⟩ := hS _ _ _ _ h
    exact houtcome
  | .binary op left right, f', c, c', h => by
    cases hS _ _ _ _ h with
    | outcome houtcome => exact houtcome
    | binary hlevel hleft hright =>
      have hleft := sameUnless_eval hS left _ _ _ hleft
      have hright := sameUnless_eval hS right _ _ _ hright
      exact hlevel.guarded (hleft.bind fun v => hright.andThen fun w => op.apply v w)
  | .unary sign operand, f', c, c', h => by
    cases hS _ _ _ _ h with
    | outcome houtcome => exact houtcome
    | unary hlevel hoperand =>
      have hoperand := sameUnless_eval hS operand _ _ _ hoperand
      exact hlevel.guarded (hoperand.andThen sign.apply)
  | .choose condition whenTrue whenFalse, f', c, c', h => by
    cases hS _ _ _ _ h with
    | outcome houtcome => exact houtcome
    | choose hlevel hcondition hwhenTrue hwhenFalse =>
      have hcondition := sameUnless_eval hS condition _ _ _ hcondition
      have hwhenTrue := sameUnless_eval hS whenTrue _ _ _ hwhenTrue
      have hwhenFalse := sameUnless_eval hS whenFalse _ _ _ hwhenFalse
      refine hlevel.guarded (hcondition.bind fun v => ?_)
      exact SameUnless.bind (.refl _) fun b => .ite hwhenTrue hwhenFalse
  | .call name args, f', c, c', h => by
    have hall := sameUnless_evalAll hS args
    cases hS _ _ _ _ h with
    | outcome houtcome => exact houtcome
    | @call _ _ args' _ _ hlevel hname hclock hargs =>
      have hvalues : Function.SameHere D c.deeper c'.deeper (args.map eval) (args'.map eval) := by
        rw [Function.SameHere, List.forall₂_map_left_iff, List.forall₂_map_right_iff]
        refine ((List.forall₂_and_left args args').mpr ⟨hall, hargs⟩).imp ?_
        rintro g g' ⟨hg, hpair⟩
        exact hg _ _ _ hpair
      rw [eval, eval, evalAll_eq_map, evalAll_eq_map]
      exact hlevel.guarded (Evaluator.sameUnless_ofCall hname hclock hvalues)
    | @total _ _ args' _ _ R hlevel hname hscope hargs =>
      have hvalues : List.Forall₂ (SameInRows D R c.deeper c'.deeper) (args.map eval)
          (args'.map eval) := by
        rw [List.forall₂_map_left_iff, List.forall₂_map_right_iff]
        refine ((List.forall₂_and_left args args').mpr ⟨hall, hargs⟩).imp ?_
        rintro g g' ⟨hg, hpair⟩ row row' hrow
        exact hg _ _ _ (hpair row row' hrow)
      rw [eval, eval, evalAll_eq_map, evalAll_eq_map]
      exact hlevel.guarded
        (Evaluator.sameUnless_ofCall_of_isTotalName hname hscope.deeper hvalues)

lemma sameUnless_evalAll (hS : ∀ f f' c c', S f f' c c' → InStep D S f f' c c') :
    (args : List Formula) → ∀ g ∈ args, ∀ g' c c', S g g' c c' →
      SameUnless D (g.eval c) (g'.eval c')
  | [], _, hg => nomatch hg
  | f :: rest, g, hg => by
    obtain heq | hg := List.mem_cons.mp hg
    · rw [heq]
      exact sameUnless_eval hS f
    · exact sameUnless_evalAll hS rest g hg

end

end

/-! ## One formula in two contexts -/

/-- The formulas from which a node is put together. -/
def parts : Formula → List Formula
  | number _ | text _ | column _ | hole => []
  | binary _ left right => [left, right]
  | unary _ operand => [operand]
  | call _ args => args
  | choose condition whenTrue whenFalse => [condition, whenTrue, whenFalse]

lemma referencesAll_eq_flatMap (args : List Formula) :
    referencesAll args = args.flatMap references := by
  induction args with
  | nil => rfl
  | cons f rest ih => rw [referencesAll, ih, List.flatMap_cons]

/-- What a part of a formula refers to, the formula refers to. -/
lemma references_subset_of_mem_parts {f g : Formula} (hg : g ∈ f.parts) :
    g.references ⊆ f.references := by
  intro name hname
  cases f with
  | number x | text s | column own | hole => cases hg
  | binary op left right =>
    obtain rfl | rfl := by simpa [parts] using hg
    · exact List.mem_append_left _ hname
    · exact List.mem_append_right _ hname
  | unary sign operand =>
    obtain rfl := by simpa [parts] using hg
    exact hname
  | call own args =>
    rw [references, referencesAll_eq_flatMap, List.mem_flatMap]
    exact ⟨g, hg, hname⟩
  | choose condition whenTrue whenFalse =>
    obtain rfl | rfl | rfl := by simpa [parts] using hg
    · exact List.mem_append_left _ (List.mem_append_left _ hname)
    · exact List.mem_append_left _ (List.mem_append_right _ hname)
    · exact List.mem_append_right _ hname

/-- Whether a node is a call of a total. -/
def isTotal : Formula → Bool
  | call name _ => isTotalName name
  | _ => false

/-- A relation between contexts for every formula, as one between formulas in contexts. -/
def Diagonal (S : Formula → Context → Context → Prop) :
    Formula → Formula → Context → Context → Prop :=
  fun f f' c c' => f' = f ∧ S f c c'

section

variable {S : Formula → Context → Context → Prop} {f : Formula} {c c' : Context}

/-- A node is in step with itself if its parts are related where they are evaluated. -/
lemma InStep.self (hlevel : SameLevel D c c') (hclock : c.clock = c'.clock)
    (hcolumn : ∀ name, f = column name →
      Evaluator.ofReference name c.deeper = Evaluator.ofReference name c'.deeper)
    (hparts : f.isTotal = false → ∀ g ∈ f.parts, S g c.deeper c'.deeper)
    (htotal : f.isTotal = true → ∃ R, SameScope R c c' ∧ ∀ g ∈ f.parts, ∀ row row', R row row' →
      S g (c.deeper.atRow row) (c'.deeper.atRow row')) : InStep D (Diagonal S) f f c c' := by
  cases f with
  | number x => exact .outcome (hlevel.guarded (.refl _))
  | text s => exact .outcome (hlevel.guarded (.refl _))
  | hole => exact .outcome (hlevel.guarded (.refl _))
  | column name => exact .outcome (hlevel.guarded (.of_eq (hcolumn name rfl)))
  | binary op left right =>
    have hleft := hparts rfl left (by simp [parts])
    have hright := hparts rfl right (by simp [parts])
    exact .binary hlevel ⟨rfl, hleft⟩ ⟨rfl, hright⟩
  | unary sign operand =>
    exact .unary hlevel ⟨rfl, hparts rfl operand (by simp [parts])⟩
  | choose condition whenTrue whenFalse =>
    have hcondition := hparts rfl condition (by simp [parts])
    have hwhenTrue := hparts rfl whenTrue (by simp [parts])
    have hwhenFalse := hparts rfl whenFalse (by simp [parts])
    exact .choose hlevel ⟨rfl, hcondition⟩ ⟨rfl, hwhenTrue⟩ ⟨rfl, hwhenFalse⟩
  | call name args =>
    cases hname : isTotalName name with
    | false =>
      refine .call hlevel hname hclock (List.forall₂_same.mpr fun g hg => ?_)
      exact ⟨rfl, hparts hname g hg⟩
    | true =>
      obtain ⟨R, hscope, hrows⟩ := htotal hname
      refine .total hlevel hname hscope (List.forall₂_same.mpr fun g hg row row' hrow => ?_)
      exact ⟨rfl, hrows g hg row row' hrow⟩

/-- The principle for one formula in two contexts. -/
lemma sameUnless_eval_self (hS : ∀ f c c', S f c c' → InStep D (Diagonal S) f f c c')
    (h : S f c c') : SameUnless D (f.eval c) (f.eval c') := by
  refine sameUnless_eval (S := Diagonal S) ?_ f f c c' ⟨rfl, h⟩
  rintro _ f c c' ⟨rfl, h⟩
  exact hS _ c c' h

/-- The principle for one formula in two contexts, without excuses. -/
lemma eval_eq_of_inStep (hS : ∀ f c c', S f c c' → InStep (fun _ => False) (Diagonal S) f f c c')
    (h : S f c c') : f.eval c = f.eval c' :=
  (sameUnless_eval_self hS h).eq

end

end Formula

end TableFormula
