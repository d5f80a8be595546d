import Mathlib.Data.Int.ConditionallyCompleteOrder
import Mathlib.Data.List.MinMax
import TableFormula.Proofs.Computation.RowOrder
import TableFormula.Proofs.Evaluation.Alike
import TableFormula.Proofs.Evaluation.Faults
import TableFormula.Proofs.Value.Numbers

/-!
# Steady formulas

Another order of the rows moves an extremum at most from one zero to the other: the first of two
zeros is found, whatever its sign.  An evaluator is *steady* if its values over a table and over the
table with its rows in another order are alike.  Operators, choices, calls and counts of steady
arguments are steady, and so are extrema; only what adds numbers up is not.

So a formula without sums and means is steady, however its extrema are nested (`isSteady_eval`).
-/

namespace TableFormula

open Number

/-! ## The best member of a list -/

/-- To keep the better one of two members, from the first member to the last, is to search for an
extremum. -/
lemma foldl_argAux {α : Type} {r better : α → α → Prop} [DecidableRel r] [DecidableRel better]
    {x : α} {xs : List α} (h : ∀ a ∈ x :: xs, ∀ b ∈ x :: xs, (better a b ↔ r a b)) :
    xs.foldl (List.argAux r) (some x) =
      some (xs.foldl (fun best y => if better y best then y else best) x) := by
  induction xs generalizing x with
  | nil => rfl
  | cons y xs ih =>
    have hx : x ∈ x :: y :: xs := List.mem_cons_self
    have hy : y ∈ x :: y :: xs := List.mem_cons_of_mem _ List.mem_cons_self
    have hstep : List.argAux r (some x) y = some (if better y x then y else x) := by
      show (if r y x then some y else some x) = _
      rw [apply_ite some]
      exact if_congr (h y hy x hx).symm rfl rfl
    have hsub : (if better y x then y else x) :: xs ⊆ x :: y :: xs := by
      refine List.cons_subset.mpr
        ⟨?_, fun a ha => List.mem_cons_of_mem _ (List.mem_cons_of_mem _ ha)⟩
      split
      · exact hy
      · exact hx
    rw [List.foldl_cons, List.foldl_cons, hstep]
    exact ih fun a ha b hb => h a (hsub ha) b (hsub hb)

/-- The ranks of some numbers. -/
def ranks (xs : List Float) : Set (ℤ ×ₗ ℤ ×ₗ ℤ) :=
  {r | r ∈ xs.map rank}

namespace Function

variable {x : Float} {xs : List Float} (h : ∀ y ∈ x :: xs, y.isNaN = false)

include h

lemma leastOf_mem_argmin : leastOf x xs ∈ (x :: xs).argmin rank :=
  foldl_argAux fun a ha b hb => lt_iff_rank (h a ha) (h b hb)

lemma greatestOf_mem_argmax : greatestOf x xs ∈ (x :: xs).argmax rank :=
  foldl_argAux fun a ha b hb => lt_iff_rank (h b hb) (h a ha)

/-- The search for the least number finds one of the numbers, and one of the least rank. -/
lemma isLeast_leastOf :
    leastOf x xs ∈ x :: xs ∧ IsLeast (ranks (x :: xs)) (rank (leastOf x xs)) := by
  have hlow := leastOf_mem_argmin h
  have hmem := List.argmin_mem hlow
  refine ⟨hmem, List.mem_map_of_mem hmem, ?_⟩
  rintro _ hr
  obtain ⟨y, hy, rfl⟩ := List.mem_map.mp hr
  exact List.le_of_mem_argmin hy hlow

/-- The search for the greatest number finds one of the numbers, and one of the greatest rank. -/
lemma isGreatest_greatestOf :
    greatestOf x xs ∈ x :: xs ∧ IsGreatest (ranks (x :: xs)) (rank (greatestOf x xs)) := by
  have hhigh := greatestOf_mem_argmax h
  have hmem := List.argmax_mem hhigh
  refine ⟨hmem, List.mem_map_of_mem hmem, ?_⟩
  rintro _ hr
  obtain ⟨y, hy, rfl⟩ := List.mem_map.mp hr
  exact List.le_of_mem_argmax hy hhigh

end Function

/-! ## Lists in another order -/

/-- A list holds what another one holds in some order, up to a relation between the members. -/
def Rearranged {α β : Type} (R : α → β → Prop) (as : List α) (bs : List β) : Prop :=
  ∃ bs', List.Forall₂ R as bs' ∧ bs'.Perm bs

namespace Rearranged

variable {α β γ : Type} {R : α → β → Prop} {as : List α} {bs : List β}

/-- What is the same for related members is found again in another order. -/
lemma perm_map {f : α → γ} {g : β → γ} (h : Rearranged R as bs) (hR : ∀ a b, R a b → f a = g b) :
    (as.map f).Perm (bs.map g) := by
  obtain ⟨bs', hforall, hperm⟩ := h
  rw [map_eq_map_iff_forall₂.mpr (hforall.imp hR)]
  exact hperm.map g

lemma forall_left {p : α → Prop} (h : Rearranged R as bs) (hR : ∀ a b, R a b → p a) :
    ∀ a ∈ as, p a := by
  obtain ⟨bs', hforall, -⟩ := h
  intro a ha
  obtain ⟨b, -, hab⟩ := exists_of_mem_of_forall₂ hforall.flip ha
  exact hR a b hab

lemma forall_right {p : β → Prop} (h : Rearranged R as bs) (hR : ∀ a b, R a b → p b) :
    ∀ b ∈ bs, p b := by
  obtain ⟨bs', hforall, hperm⟩ := h
  intro b hb
  obtain ⟨a, -, hab⟩ := exists_of_mem_of_forall₂ hforall (hperm.mem_iff.mpr hb)
  exact hR a b hab

end Rearranged

namespace Function

variable {x y : Float} {xs ys : List Float} (hx : ∀ z ∈ x :: xs, z.isNaN = false)
  (hy : ∀ z ∈ y :: ys, z.isNaN = false) (hranks : ranks (x :: xs) = ranks (y :: ys))

include hx hy hranks

/-- Numbers with the same ranks have the same least number, up to the sign of zero. -/
lemma alike_leastOf : Alike (leastOf x xs) (leastOf y ys) := by
  obtain ⟨hmem, hleast⟩ := isLeast_leastOf hx
  obtain ⟨hmem', hleast'⟩ := isLeast_leastOf hy
  rw [← hranks] at hleast'
  exact .of_beq ((beq_iff_rank (hx _ hmem) (hy _ hmem')).mpr (hleast.unique hleast'))

/-- And the same greatest number. -/
lemma alike_greatestOf : Alike (greatestOf x xs) (greatestOf y ys) := by
  obtain ⟨hmem, hgreatest⟩ := isGreatest_greatestOf hx
  obtain ⟨hmem', hgreatest'⟩ := isGreatest_greatestOf hy
  rw [← hranks] at hgreatest'
  exact .of_beq ((beq_iff_rank (hx _ hmem) (hy _ hmem')).mpr (hgreatest.unique hgreatest'))

end Function

/-! ## Steady evaluators -/

/-- An evaluator is steady if its values over two tables are alike. -/
def Evaluator.IsSteady (rows rows' : List Row) (e : Evaluator) : Prop :=
  ∀ c : Context, c.table = some rows → KeepsAlike (e c) (e { c with table := some rows' })

variable {rows rows' : List Row} {args : List Evaluator}

lemma Evaluator.IsSteady.guarded {e : Evaluator} (h : e.IsSteady rows rows') :
    (Evaluator.guarded e).IsSteady rows rows' :=
  fun c htable => .ite Iff.rfl (.error _ _) (h c.deeper htable)

/-- What a steady argument has in the rows is found again, in another order, in the rows in another
order. -/
lemma Evaluator.IsSteady.overRows {α : Type} {R : α → α → Prop} {e : Evaluator} {c : Context}
    {read : Value → Except Fault α} (h : e.IsSteady rows rows') (htable : c.table = some rows)
    (hperm : rows.Perm rows') (hread : ∀ v v', Value.Alike v v' → KeepsUpTo R (read v) (read v')) :
    KeepsUpTo (Rearranged R) (e.overRows read rows c)
      (e.overRows read rows' { c with table := some rows' }) := by
  have hrows : KeepsUpTo (List.Forall₂ R) (e.overRows read rows c)
      (e.overRows read rows { c with table := some rows' }) :=
    .mapM (List.forall₂_same.mpr fun row _ => (h (c.atRow row) htable).bind hread)
  intro as has
  obtain ⟨bs, hbs, hforall⟩ := hrows as has
  obtain ⟨bs', hbs', hperm'⟩ := exists_mapM_eq_ok_of_perm hbs hperm
  exact ⟨bs', hbs', bs, hforall, hperm'.symm⟩

namespace Function

/-! ### Choices -/

lemma keepsAlike_firstCase (hargs : ∀ e ∈ args, e.IsSteady rows rows') {c : Context}
    (htable : c.table = some rows) {subject subject' : Value}
    (hsubject : Value.Alike subject subject') :
    KeepsAlike (firstCase subject args c)
      (firstCase subject' args { c with table := some rows' }) := by
  fun_induction firstCase subject args c with
  | case1 => exact .of_eq rfl
  | case2 otherwise c => exact hargs otherwise List.mem_cons_self c htable
  | case3 case result rest c ih =>
    simp only [List.forall_mem_cons] at hargs
    obtain ⟨hcase, hresult, hrest⟩ := hargs
    refine (hcase c htable).bind fun v v' hv => (hsubject.same_eq hv).andThen fun b => ?_
    exact .ite Iff.rfl (hresult c htable) (ih hrest htable)

lemma isSteady_switchOn (hargs : ∀ e ∈ args, e.IsSteady rows rows') (name : String) :
    Evaluator.IsSteady rows rows' (switchOn name args) := by
  intro c htable
  cases args with
  | nil => exact .error _ _
  | cons subject cases =>
    obtain ⟨hsubject, hcases⟩ := List.forall_mem_cons.mp hargs
    exact (hsubject c htable).bind fun v v' hv => keepsAlike_firstCase hcases htable hv

lemma isSteady_firstFilled (hargs : ∀ e ∈ args, e.IsSteady rows rows') :
    Evaluator.IsSteady rows rows' (firstFilled args) := by
  intro c htable
  induction args with
  | nil => exact .of_eq rfl
  | cons e rest ih =>
    obtain ⟨he, hrest⟩ := List.forall_mem_cons.mp hargs
    refine (he c htable).bind fun v v' hv => ?_
    rw [hv.isEmpty_eq]
    exact .ite Iff.rfl (ih hrest) (.ok hv)

/-! ### Totals -/

variable (hperm : rows.Perm rows') (hargs : ∀ e ∈ args, e.IsSteady rows rows')

include hperm hargs

lemma isSteady_countRows : Evaluator.IsSteady rows rows' (countRows args) := by
  intro c htable
  simp only [countRows, htable]
  cases args with
  | nil => exact .of_eq (by rw [hperm.length_eq])
  | cons e rest =>
    have he := hargs e List.mem_cons_self
    refine (he.overRows (R := Value.Alike) htable hperm fun _ _ => .ok).bind fun vs vs' hvs => ?_
    refine KeepsAlike.of_eq ?_
    have hfilled := hvs.perm_map (f := fun v => !v.isEmpty) (g := fun v => !v.isEmpty)
      fun v v' hv => by rw [hv.isEmpty_eq]
    have hcount : ∀ vs : List Value,
        vs.countP (!·.isEmpty) = (vs.map fun v => !v.isEmpty).countP id :=
      fun vs => by rw [List.countP_map]; rfl
    rw [hcount, hcount, hfilled.countP_eq]

lemma isSteady_countTexts (name : String) :
    Evaluator.IsSteady rows rows' (countTexts name args) := by
  intro c htable
  simp only [countTexts, htable]
  cases args with
  | nil => exact .error _ _
  | cons e rest =>
    have he := hargs e List.mem_cons_self
    refine (he.overRows (R := Eq) htable hperm fun _ _ hv => .eq hv.toText_eq).bind ?_
    intro ts ts' hts
    have hperm := hts.perm_map (f := id) (g := id) fun t t' h => h
    rw [List.map_id, List.map_id] at hperm
    exact KeepsAlike.of_eq (by rw [length_eraseDups_eq_of_perm hperm])

/-- An extremum is steady if it is settled, up to the sign of zero, by the ranks of the numbers. -/
lemma isSteady_totalOf (name : String) {best : Float → List Float → Float}
    (hbest : ∀ {x y xs ys}, (∀ z ∈ x :: xs, z.isNaN = false) → (∀ z ∈ y :: ys, z.isNaN = false) →
      ranks (x :: xs) = ranks (y :: ys) → Alike (best x xs) (best y ys)) :
    Evaluator.IsSteady rows rows' (totalOf name (nonempty name best) args) := by
  intro c htable
  cases args with
  | nil => exact .error _ _
  | cons e rest =>
    simp only [totalOf, firstArgument, htable]
    have he := hargs e List.mem_cons_self
    have hread : ∀ v v', Value.Alike v v' →
        KeepsUpTo (fun x y => rank x = rank y ∧ x.isNaN = false ∧ y.isNaN = false)
          v.toNumber v'.toNumber := by
      intro v v' hv x hx
      obtain ⟨y, hy, hxy⟩ := hv.toNumber x hx
      exact ⟨y, hy, hxy.rank_eq, Value.isNaN_eq_false_of_toNumber hx,
        Value.isNaN_eq_false_of_toNumber hy⟩
    refine (he.overRows htable hperm hread).bind fun xs ys hxys => ?_
    have hmap := hxys.perm_map fun x y h => h.1
    cases xs with
    | nil => exact .error _ _
    | cons x xs =>
      cases ys with
      | nil => cases hmap.length_eq
      | cons y ys =>
        have hranks : ranks (x :: xs) = ranks (y :: ys) := Set.ext fun r => hmap.mem_iff
        have hx := hxys.forall_left fun x y h => h.2.1
        have hy := hxys.forall_right fun x y h => h.2.2
        exact .ok (.float (hbest hx hy hranks))

end Function

/-! ## Steady formulas -/

/-- Whether a function adds numbers up. -/
def Function.isSum (f : Function) : Bool :=
  f == sum || f == average

/-- Whether a name means a function that adds numbers up. -/
def isSumName (name : String) : Bool :=
  (Function.ofName? name).any Function.isSum

namespace Function

/-- A function of values is steady, whatever its rule is. -/
lemma isSteady_call_of_values {f : Function} (hf : f.isDeferred = false)
    (hargs : ∀ e ∈ args, e.IsSteady rows rows') : (f.call args).IsSteady rows rows' := by
  intro c htable
  obtain ⟨rule, hrule⟩ := exists_rule c.clock.everyday hf
  have hvalues : KeepsUpTo (List.Forall₂ Value.Alike) (args.mapM (· c))
      (args.mapM (· { c with table := some rows' })) :=
    .mapM (List.forall₂_same.mpr fun e he => hargs e he c htable)
  simp only [call, hrule]
  exact hvalues.bind fun vs vs' hvs => (keepsAlike hrule).apply f.name hvs

/-- A function that adds nothing up is steady. -/
lemma isSteady_call {f : Function} (hf : f.isSum = false) (hperm : rows.Perm rows')
    (hargs : ∀ e ∈ args, e.IsSteady rows rows') : (f.call args).IsSteady rows rows' := by
  cases f with
  | sum | average => cases hf
  | minimum => exact isSteady_totalOf hperm hargs _ alike_leastOf
  | maximum => exact isSteady_totalOf hperm hargs _ alike_greatestOf
  | count => exact isSteady_countRows hperm hargs
  | distinct => exact isSteady_countTexts hperm hargs _
  | switch => exact isSteady_switchOn hargs _
  | coalesce => exact isSteady_firstFilled hargs
  | today | now => exact fun c _ => .of_eq rfl
  | _ => exact isSteady_call_of_values rfl hargs

end Function

namespace Formula

/-- Whether a formula has no calls of sums and means. -/
def isSumFree (f : Formula) : Bool :=
  f.lacksCalls isSumName

/-- **Steady formulas.**  The values of a formula without sums and means over a table and over its
rows in another order are alike. -/
theorem isSteady_eval (hperm : rows.Perm rows') (f : Formula) (hf : f.isSumFree = true) :
    f.eval.IsSteady rows rows' := by
  obtain ⟨hnode, hfree⟩ := (lacksCalls_iff isSumName f).mp hf
  have hparts : ∀ g ∈ f.parts, g.eval.IsSteady rows rows' := by
    intro g hg
    have := height_lt_of_mem_parts hg
    exact isSteady_eval hperm g (hfree g hg)
  cases f with
  | number x => exact .guarded fun c _ => .of_eq rfl
  | text s => exact .guarded fun c _ => .of_eq rfl
  | column name => exact .guarded fun c _ => .of_eq rfl
  | hole => exact .guarded fun c _ => .error _ _
  | binary op left right =>
    have hleft := hparts left (by simp [parts])
    have hright := hparts right (by simp [parts])
    exact .guarded fun c htable => (hleft c htable).bind fun v v' hv =>
      (hright c htable).bind fun w w' hw => Operator.keepsAlike_apply hv hw op
  | unary sign operand =>
    have hoperand := hparts operand (by simp [parts])
    exact .guarded fun c htable => (hoperand c htable).bind fun v v' hv =>
      Sign.keepsAlike_apply hv sign
  | choose condition whenTrue whenFalse =>
    have hcondition := hparts condition (by simp [parts])
    have hwhenTrue := hparts whenTrue (by simp [parts])
    have hwhenFalse := hparts whenFalse (by simp [parts])
    refine .guarded fun c htable => (hcondition c htable).bind fun v v' hv => ?_
    exact (KeepsUpTo.eq hv.toTruth_eq).andThen fun b =>
      .ite Iff.rfl (hwhenTrue c htable) (hwhenFalse c htable)
  | call name args =>
    rw [eval, evalAll_eq_map]
    refine .guarded ?_
    unfold Evaluator.ofCall
    cases hname : Function.ofName? name with
    | none => exact fun c _ => .error _ _
    | some f =>
      rw [isCallBy, isSumName, hname] at hnode
      refine Function.isSteady_call hnode hperm ?_
      exact List.forall_mem_map.mpr hparts
termination_by f.height

end Formula

end TableFormula
