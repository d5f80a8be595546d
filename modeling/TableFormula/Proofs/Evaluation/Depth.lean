import TableFormula.Proofs.Evaluation.Lockstep

/-!
# Levels of nesting

A formula is as high as the longest way down it has nodes, and every node of an evaluation is one
level below the node around it, in whatever row it is evaluated.  So where the limit leaves room for
the height of a formula, no node lies too deep, and the limit and the depth of the formula do not
matter any more: whatever value the formula has elsewhere, it has there as well.
-/

namespace TableFormula

/-- A fault of nesting. -/
def Fault.IsTooDeep (fault : Fault) : Prop :=
  ∃ limit, fault = .tooDeep limit

namespace Formula

/-! ## Heights -/

lemma one_le_height (f : Formula) : 1 ≤ f.height := by
  cases f <;> simp [height]

lemma height_le_heightAll {f : Formula} {args : List Formula} (h : f ∈ args) :
    f.height ≤ heightAll args := by
  induction args with
  | nil => cases h
  | cons g rest ih =>
    rw [heightAll]
    obtain rfl | h := List.mem_cons.mp h
    · exact Nat.le_max_left _ _
    · exact Nat.le_trans (ih h) (Nat.le_max_right _ _)

/-- A part is lower than the formula around it. -/
lemma height_lt_of_mem_parts {f g : Formula} (hg : g ∈ f.parts) : g.height < f.height := by
  cases f with
  | number x | text s | column name | hole => cases hg
  | binary op left right =>
    rw [height]
    obtain rfl | rfl := by simpa [parts] using hg
    · omega
    · omega
  | unary sign operand =>
    obtain rfl := by simpa [parts] using hg
    exact Nat.lt_succ_self _
  | call name args => exact Nat.lt_succ_of_le (height_le_heightAll hg)
  | choose condition whenTrue whenFalse =>
    rw [height]
    obtain rfl | rfl | rfl := by simpa [parts] using hg
    · omega
    · omega
    · omega

/-! ## Room for a formula -/

/-- Where there is room for a formula, it has the outcome that it has with any limit at any depth,
unless it runs too deep there. -/
lemma sameUnless_eval_of_room (f : Formula) (c : Context) {limit : Int} {depth : Nat}
    (hroom : depth + f.height ≤ limit) :
    SameUnless Fault.IsTooDeep (f.eval c) (f.eval { c with limit := limit, depth := depth }) := by
  refine sameUnless_eval_self (S := fun f c c' => ∃ depth : Nat, depth + f.height ≤ limit ∧
    c' = { c with limit := limit, depth := depth }) ?_ ⟨depth, hroom, rfl⟩
  rintro f c _ ⟨depth, hroom, rfl⟩
  have hheight : 1 ≤ f.height := f.one_le_height
  have hparts : ∀ g ∈ f.parts, (depth + 1 : Nat) + (g.height : Int) ≤ limit := by
    intro g hg
    have hlower := height_lt_of_mem_parts hg
    omega
  refine .self ⟨fun _ => ?_, fun _ => .inl ⟨_, rfl⟩⟩ rfl (fun _ _ => rfl) ?_ ?_
  · show ¬ limit < (depth : Int) + 1
    omega
  · exact fun _ g hg => ⟨depth + 1, hparts g hg, rfl⟩
  · -- A change of the row leaves limit and depth as they are.
    refine fun _ => ⟨Eq, .of_eq rfl rfl, ?_⟩
    rintro g hg row _ rfl
    exact ⟨depth + 1, hparts g hg, rfl⟩

/-- A value that a formula has with any limit at any depth, it has where there is room for it. -/
lemma eval_eq_ok_of_room {f : Formula} {c : Context} {v : Value} (h : f.eval c = .ok v)
    {limit : Int} {depth : Nat} (hroom : depth + f.height ≤ limit) :
    f.eval { c with limit := limit, depth := depth } = .ok v := by
  obtain hsame | ⟨fault, -, hfault⟩ := sameUnless_eval_of_room f c hroom
  · rw [← hsame, h]
  · cases h.symm.trans hfault

end Formula

end TableFormula
