import TableFormula.Proofs.Evaluation.Steady
import TableFormula.Proofs.Evaluation.Totals

/-!
# Extrema

The least and the greatest number of a formula over a table are found by going through the rows and
keeping the best number so far.  What is found is the best one of all since numbers of values are
never NaN, and doubles other than NaN are linearly ordered, up to the sign of zero: the search is the
one for the member with the least or the greatest rank.

**The order of the rows.**  Another order of the rows gives the same extrema, as doubles that
compare as equal, if it leaves the numbers in the rows as they are (`extrema_laws`).  It does unless
the formula has a sum or a mean in it: that goes through the rows in their order, and is rounded or
overflows on the way (`extrema_of_sums_reordered`).
-/

namespace TableFormula

open Number

namespace Formula

/-- The least number of a formula over the table. -/
def least (e : Formula) : Formula :=
  call Function.minimum.name [e]

/-- The greatest number of a formula over the table. -/
def greatest (e : Formula) : Formula :=
  call Function.maximum.name [e]

variable {e : Formula} {c : Context} {rows rows' : List Row} {xs : List Float}

/-! ## Extrema over a table -/

/-- An extremum of a formula over a table with rows is what the search finds among its numbers. -/
lemma exists_eval_extremum {f : Function} {best : Float → List Float → Float}
    (Best : Float → List Float → Prop)
    (hcall : ∀ es c, f.call es c = Function.totalOf f.name (Function.nonempty f.name best) es c)
    (hbest : ∀ {x xs}, (∀ y ∈ x :: xs, y.isNaN = false) → Best (best x xs) (x :: xs))
    (hne : rows ≠ []) (hxs : e.NumbersIn (c.over rows).deeper rows xs) :
    ∃ x, (call f.name [e]).eval (c.over rows) = .ok (.float x) ∧ Best x xs := by
  obtain ⟨x, xs, rfl⟩ := List.exists_cons_of_ne_nil (hxs.ne_nil hne)
  refine ⟨best x xs, ?_, hbest hxs.isNaN_eq_false⟩
  rw [eval_total hcall (hxs.level hne) rfl hxs]
  rfl

/-- The least number is one of the numbers in the rows, and of the least rank. -/
lemma exists_eval_least (hne : rows ≠ []) (hxs : e.NumbersIn (c.over rows).deeper rows xs) :
    ∃ low, (least e).eval (c.over rows) = .ok (.float low) ∧ low ∈ xs ∧
      IsLeast (ranks xs) (rank low) :=
  exists_eval_extremum (fun x xs => x ∈ xs ∧ IsLeast (ranks xs) (rank x))
    (fun _ _ => rfl) Function.isLeast_leastOf hne hxs

/-- The greatest number is one of the numbers in the rows, and of the greatest rank. -/
lemma exists_eval_greatest (hne : rows ≠ []) (hxs : e.NumbersIn (c.over rows).deeper rows xs) :
    ∃ high, (greatest e).eval (c.over rows) = .ok (.float high) ∧ high ∈ xs ∧
      IsGreatest (ranks xs) (rank high) :=
  exists_eval_extremum (fun x xs => x ∈ xs ∧ IsGreatest (ranks xs) (rank x))
    (fun _ _ => rfl) Function.isGreatest_greatestOf hne hxs

/-! ## Rows in another order -/

/-- A formula keeps its numbers when one table takes the place of another: in every row of the
first table the two numbers compare as equal. -/
def KeepsNumbers (e : Formula) (c : Context) (rows rows' : List Row) : Prop :=
  ∀ row ∈ rows, ∀ x, e.numberAt (c.over rows) row = .ok x →
    ∃ x', e.numberAt (c.over rows') row = .ok x' ∧ (x == x') = true

/-- A formula without sums and means keeps its numbers when the rows change places. -/
lemma keepsNumbers_of_isSumFree (hfree : e.isSumFree = true) (hperm : rows.Perm rows') :
    e.KeepsNumbers c rows rows' := by
  intro row _ x hx
  obtain ⟨v, hv, hread⟩ := exists_of_bind_eq_ok hx
  obtain ⟨v', hv', halike⟩ := isSteady_eval hperm e hfree ((c.over rows).atRow row) rfl v hv
  have heval : e.eval ((c.over rows').atRow row) = .ok v' := hv'
  obtain ⟨x', hread', hxx'⟩ := halike.toNumber x hread
  refine ⟨x', ?_, hxx'.beq (Value.isNaN_eq_false_of_toNumber hread)⟩
  rw [numberAt, heval]
  exact hread'

/-- Where a formula keeps its numbers, they have the same ranks over the table in another order. -/
lemma exists_numbersIn_of_perm (hperm : rows.Perm rows') (hkeeps : e.KeepsNumbers c rows rows')
    (hxs : e.NumbersIn (c.over rows) rows xs) :
    ∃ xs', e.NumbersIn (c.over rows') rows' xs' ∧ ranks xs' = ranks xs := by
  have hsame : ∀ {part : List Row} {ys : List Float}, part ⊆ rows →
      e.NumbersIn (c.over rows) part ys →
      ∃ ys', e.NumbersIn (c.over rows') part ys' ∧ ys'.map rank = ys.map rank := by
    intro part ys hpart hys
    induction hys with
    | nil => exact ⟨[], .nil, rfl⟩
    | @cons row y part ys hy _ ih =>
      obtain ⟨hrow, hpart⟩ := List.cons_subset.mp hpart
      obtain ⟨y', hy', hbeq⟩ := hkeeps row hrow y hy
      obtain ⟨ys', hys', hranks⟩ := ih hpart
      have hrank : rank y = rank y' :=
        (beq_iff_rank (isNaN_eq_false_of_numberAt hy) (isNaN_eq_false_of_numberAt hy')).mp hbeq
      exact ⟨y' :: ys', .cons hy' hys', by rw [List.map_cons, List.map_cons, hrank, hranks]⟩
  obtain ⟨xs', hxs', hranks⟩ := hsame (List.Subset.refl rows) hxs
  obtain ⟨xs'', hxs'', hperm'⟩ := exists_mapM_eq_ok_of_perm (mapM_eq_ok_of_forall₂ hxs') hperm
  refine ⟨xs'', forall₂_of_mapM hxs'', ?_⟩
  rw [ranks, ranks, ← hranks]
  exact Set.ext fun r => (hperm'.map rank).mem_iff

/-- **Extrema.**  If a formula has a number in every row of a table with rows, where the extrema
evaluate it, then its least number is one of these numbers and below all of them, and its greatest
number is one of them and above all of them.  If the rows change places and that leaves the numbers
as they are, then the extrema stay the same, as doubles compare.  It leaves the numbers as they are
if the formula has no sums and means of its own, whatever other totals it has. -/
theorem extrema_laws (e : Formula) (c : Context) {rows : List Row} {xs : List Float}
    (hne : rows ≠ []) (hxs : e.NumbersIn (c.over rows).deeper rows xs) :
    ∃ low high : Float,
      (least e).eval (c.over rows) = .ok (.float low) ∧ low ∈ xs ∧ (∀ x ∈ xs, low ≤ x) ∧
      (greatest e).eval (c.over rows) = .ok (.float high) ∧ high ∈ xs ∧ (∀ x ∈ xs, x ≤ high) ∧
      ∀ rows', rows.Perm rows' →
        (e.isSumFree = true ∨ e.KeepsNumbers c.deeper rows rows') →
        ∃ low' high', (least e).eval (c.over rows') = .ok (.float low') ∧ (low == low') = true ∧
          (greatest e).eval (c.over rows') = .ok (.float high') ∧ (high == high') = true := by
  have hnumber := hxs.isNaN_eq_false
  obtain ⟨low, hlow, hlowmem, hleast⟩ := exists_eval_least hne hxs
  obtain ⟨high, hhigh, hhighmem, hgreatest⟩ := exists_eval_greatest hne hxs
  refine ⟨low, high, hlow, hlowmem, fun x hx => ?_, hhigh, hhighmem, fun x hx => ?_,
    fun rows' hperm hkeeps => ?_⟩
  · exact (le_iff_rank (hnumber low hlowmem) (hnumber x hx)).mpr
      (hleast.2 (List.mem_map_of_mem hx))
  · exact (le_iff_rank (hnumber x hx) (hnumber high hhighmem)).mpr
      (hgreatest.2 (List.mem_map_of_mem hx))
  · have hkeeps : e.KeepsNumbers c.deeper rows rows' :=
      hkeeps.elim (keepsNumbers_of_isSumFree · hperm) id
    obtain ⟨xs', hxs', hranks⟩ := exists_numbersIn_of_perm hperm hkeeps hxs
    have hnumber' := hxs'.isNaN_eq_false
    have hne' : rows' ≠ [] := fun hnil => hne (hnil ▸ hperm).eq_nil
    obtain ⟨low', hlow', hlowmem', hleast'⟩ := exists_eval_least hne' hxs'
    obtain ⟨high', hhigh', hhighmem', hgreatest'⟩ := exists_eval_greatest hne' hxs'
    rw [hranks] at hleast' hgreatest'
    refine ⟨low', high', hlow', ?_, hhigh', ?_⟩
    · exact (beq_iff_rank (hnumber low hlowmem) (hnumber' low' hlowmem')).mpr
        (hleast.unique hleast')
    · exact (beq_iff_rank (hnumber high hhighmem) (hnumber' high' hhighmem')).mpr
        (hgreatest.unique hgreatest')

/-- What is no number, the text of a number, an integer and an empty cell, and the same rows turned
round. -/
theorem extrema_laws_mixed :
    ∃ low high : Float,
      (least (column "cost")).eval ((costs 2).over (costRows
        [.float (0.0 / 0.0), .text "$2.50", .integer (-1), .blank])) = .ok (.float low) ∧
      low ∈ [0.0, 2.5, -1.0, 0.0] ∧ low ≤ 2.5 ∧
      (greatest (column "cost")).eval ((costs 2).over (costRows
        [.float (0.0 / 0.0), .text "$2.50", .integer (-1), .blank])) = .ok (.float high) ∧
      high ∈ [0.0, 2.5, -1.0, 0.0] ∧ -1.0 ≤ high ∧
      ∃ low' high',
        (least (column "cost")).eval ((costs 2).over (costRows
          [.blank, .integer (-1), .text "$2.50", .float (0.0 / 0.0)])) = .ok (.float low') ∧
        (low == low') = true ∧
        (greatest (column "cost")).eval ((costs 2).over (costRows
          [.blank, .integer (-1), .text "$2.50", .float (0.0 / 0.0)])) = .ok (.float high') ∧
        (high == high') = true := by
  have hxs : (column "cost").NumbersIn
      ((costs 2).over (costRows [.float (0.0 / 0.0), .text "$2.50", .integer (-1), .blank])).deeper
      (costRows [.float (0.0 / 0.0), .text "$2.50", .integer (-1), .blank])
      [0.0, 2.5, -1.0, 0.0] :=
    .cons (by decide +kernel) (.cons (by decide +kernel)
      (.cons (by decide +kernel) (.cons (by decide +kernel) .nil)))
  obtain ⟨low, high, hlow, hlowmem, hleast, hhigh, hhighmem, hgreatest, hreordered⟩ :=
    extrema_laws (column "cost") (costs 2) (List.cons_ne_nil _ _) hxs
  obtain ⟨low', high', hlaws⟩ := hreordered
    (costRows [.blank, .integer (-1), .text "$2.50", .float (0.0 / 0.0)])
    (List.reverse_perm _).symm (.inl rfl)
  exact ⟨low, high, hlow, hlowmem, hleast 2.5 (by simp), hhigh, hhighmem, hgreatest (-1.0) (by simp),
    low', high', hlaws⟩

/-- If a formula has the same number in every row, then this number is both extrema. -/
lemma eval_extrema_of_forall_eq {x : Float} (hne : rows ≠ [])
    (hxs : e.NumbersIn (c.over rows).deeper rows xs) (hsame : ∀ y ∈ xs, y = x) :
    (least e).eval (c.over rows) = .ok (.float x) ∧
      (greatest e).eval (c.over rows) = .ok (.float x) := by
  obtain ⟨low, hlow, hlowmem, -⟩ := exists_eval_least hne hxs
  obtain ⟨high, hhigh, hhighmem, -⟩ := exists_eval_greatest hne hxs
  rw [hlow, hhigh, hsame low hlowmem, hsame high hhighmem]
  exact ⟨rfl, rfl⟩

/-- Extrema of a sum move with the rows: the sum overflows on the way in one order of the rows, and
in the other it does not.  It is a number in every row of both tables. -/
theorem extrema_of_sums_reordered :
    (costRows [.float 1e308, .float 1e308, .float (-1e308)]).Perm
      (costRows [.float 1e308, .float (-1e308), .float 1e308]) ∧
    (call Function.sum.name [column "cost"]).NumbersIn
      ((costs 3).over (costRows [.float 1e308, .float 1e308, .float (-1e308)])).deeper
      (costRows [.float 1e308, .float 1e308, .float (-1e308)]) [1.0 / 0.0, 1.0 / 0.0, 1.0 / 0.0] ∧
    ((least (call Function.sum.name [column "cost"])).eval
        ((costs 3).over (costRows [.float 1e308, .float 1e308, .float (-1e308)])) =
          .ok (.float (1.0 / 0.0)) ∧
      (greatest (call Function.sum.name [column "cost"])).eval
        ((costs 3).over (costRows [.float 1e308, .float 1e308, .float (-1e308)])) =
          .ok (.float (1.0 / 0.0))) ∧
    ((least (call Function.sum.name [column "cost"])).eval
        ((costs 3).over (costRows [.float 1e308, .float (-1e308), .float 1e308])) =
          .ok (.float 1e308) ∧
      (greatest (call Function.sum.name [column "cost"])).eval
        ((costs 3).over (costRows [.float 1e308, .float (-1e308), .float 1e308])) =
          .ok (.float 1e308)) ∧
    ((1.0 / 0.0 : Float) == 1e308) = false := by
  have hfirst : (call Function.sum.name [column "cost"]).NumbersIn
      ((costs 3).over (costRows [.float 1e308, .float 1e308, .float (-1e308)])).deeper
      (costRows [.float 1e308, .float 1e308, .float (-1e308)]) [1.0 / 0.0, 1.0 / 0.0, 1.0 / 0.0] :=
    .cons (by decide +kernel) (.cons (by decide +kernel) (.cons (by decide +kernel) .nil))
  have hsecond : (call Function.sum.name [column "cost"]).NumbersIn
      ((costs 3).over (costRows [.float 1e308, .float (-1e308), .float 1e308])).deeper
      (costRows [.float 1e308, .float (-1e308), .float 1e308]) [1e308, 1e308, 1e308] :=
    .cons (by decide +kernel) (.cons (by decide +kernel) (.cons (by decide +kernel) .nil))
  exact ⟨.cons _ (.swap _ _ _), hfirst,
    eval_extrema_of_forall_eq (List.cons_ne_nil _ _) hfirst (by simp),
    eval_extrema_of_forall_eq (List.cons_ne_nil _ _) hsecond (by simp), by decide +kernel⟩

end Formula

end TableFormula
