import TableFormula.Proofs.Evaluation.Origin
import TableFormula.Proofs.Evaluation.References

/-!
# The limit of nesting

A node that lies deeper than the limit is refused.  How deep a formula goes is its height, and that
settles what the limit does to it.

* **Enough room.**  Where the limit leaves room for the height of a formula, no node that its
  evaluation comes to is refused, in whatever row of the table.
* **More room.**  Where no node is refused, a higher limit changes nothing: parts that are left out
  do not count, and a formula that is too high may have a value all the same.
* **Too little room.**  An eager formula leaves nothing out, so it has no value where its height
  does not fit.
-/

namespace TableFormula.Formula

/-! ## Enough room -/

/-- A node lies as far below the formula as the formula is higher, at least, whatever row it is
evaluated in. -/
lemma Evaluates.depth_add_height_le {f g : Formula} {c c' : Context} (h : f.Evaluates c g c') :
    c'.limit = c.limit ∧ c'.depth + g.height ≤ c.depth + f.height := by
  induction h with
  | self => exact ⟨rfl, Nat.le_refl _⟩
  | part hp _ ih =>
    have hlower := height_lt_of_mem_parts hp.mem_parts
    obtain ⟨row, rfl⟩ := hp.exists_atRow
    obtain ⟨hlimit, hdepth⟩ := ih
    refine ⟨hlimit, Nat.le_trans hdepth ?_⟩
    show _ + 1 + _ ≤ _
    omega

/-- Nothing but the level of a node makes it too deep. -/
lemma OwnFault.lt_of_tooDeep {f : Formula} {c : Context} {limit : Int}
    (h : OwnFault c f (.tooDeep limit)) : c.limit < c.depth + 1 := by
  cases h with
  | tooDeep _ hlevel => exact hlevel
  | deferred _ hfault =>
    obtain hvalues | ⟨_, _, _, hmissing⟩ | ⟨_, hrows⟩ := hfault
    · cases hvalues
    · cases hmissing
    · cases hrows
  | values _ hvalues => cases hvalues

/-- Where there is room for a formula, it is not refused. -/
lemma eval_ne_tooDeep {f : Formula} {c : Context} (hroom : c.depth + f.height ≤ c.limit)
    (limit : Int) : f.eval c ≠ .error (.tooDeep limit) := by
  intro h
  obtain ⟨g, c', hg, hfault⟩ := exists_origin h
  have hdeep : c'.limit < c'.depth + 1 := hfault.ownFault.lt_of_tooDeep
  obtain ⟨hlimit, hdepth⟩ := hg.depth_add_height_le
  have hheight : 1 ≤ g.height := g.one_le_height
  omega

/-! ## More room -/

/-- A higher limit changes nothing, unless a node is refused. -/
lemma sameUnless_eval_of_le {f : Formula} {c : Context} {limit : Int} (hlimit : c.limit ≤ limit) :
    SameUnless Fault.IsTooDeep (f.eval c) (f.eval { c with limit := limit }) := by
  refine sameUnless_eval_self
    (S := fun _ c c' => c.limit ≤ limit ∧ c' = { c with limit := limit }) ?_ ⟨hlimit, rfl⟩
  rintro f c _ ⟨hlimit, rfl⟩
  have hlevel : SameLevel Fault.IsTooDeep c { c with limit := limit } := by
    refine ⟨fun hwithin => ?_, fun _ => .inl ⟨c.limit, rfl⟩⟩
    show ¬ limit < (c.depth : Int) + 1
    omega
  refine .self hlevel rfl (fun _ _ => rfl) (fun _ g _ => ⟨hlimit, rfl⟩) fun _ => ?_
  refine ⟨Eq, .of_eq rfl rfl, ?_⟩
  rintro g - row _ rfl
  exact ⟨hlimit, rfl⟩

/-! ## Too little room -/

mutual

/-- The longest way down a formula ends at one of its nodes. -/
lemma exists_node_of_height : (f : Formula) → (level : Nat) →
    ∃ node ∈ f.nodes level, node.level + 1 = level + f.height
  | .number _, level | .text _, level | .column _, level | .hole, level =>
    ⟨_, List.mem_cons_self, rfl⟩
  | .binary op left right, level => by
    obtain ⟨l, hl, hleft⟩ := exists_node_of_height left (level + 1)
    obtain ⟨r, hr, hright⟩ := exists_node_of_height right (level + 1)
    rw [height, nodes]
    by_cases hle : left.height ≤ right.height
    · exact ⟨r, by simp [hr], by omega⟩
    · exact ⟨l, by simp [hl], by omega⟩
  | .unary sign operand, level => by
    obtain ⟨node, hnode, hoperand⟩ := exists_node_of_height operand (level + 1)
    rw [height, nodes]
    exact ⟨node, by simp [hnode], by omega⟩
  | .call name args, level => by
    rw [height, nodes]
    obtain hnone | ⟨node, hnode, hargs⟩ := exists_node_of_heightAll args (level + 1)
    · exact ⟨_, List.mem_cons_self, by simp [hnone]⟩
    · exact ⟨node, by simp [hnode], by omega⟩
  | .choose condition whenTrue whenFalse, level => by
    obtain ⟨n₁, h₁, hcondition⟩ := exists_node_of_height condition (level + 1)
    obtain ⟨n₂, h₂, hwhenTrue⟩ := exists_node_of_height whenTrue (level + 1)
    obtain ⟨n₃, h₃, hwhenFalse⟩ := exists_node_of_height whenFalse (level + 1)
    rw [height, nodes]
    obtain hmax | hmax | hmax :
        max condition.height (max whenTrue.height whenFalse.height) = condition.height ∨
        max condition.height (max whenTrue.height whenFalse.height) = whenTrue.height ∨
        max condition.height (max whenTrue.height whenFalse.height) = whenFalse.height := by
      omega
    · exact ⟨n₁, by simp [h₁], by omega⟩
    · exact ⟨n₂, by simp [h₂], by omega⟩
    · exact ⟨n₃, by simp [h₃], by omega⟩

lemma exists_node_of_heightAll : (args : List Formula) → (level : Nat) →
    heightAll args = 0 ∨ ∃ node ∈ nodesAll args level, node.level + 1 = level + heightAll args
  | [], _ => .inl rfl
  | f :: rest, level => by
    obtain ⟨node, hnode, hf⟩ := exists_node_of_height f level
    refine .inr ?_
    rw [heightAll, nodesAll]
    by_cases hle : f.height ≤ heightAll rest
    · have hheight : 1 ≤ f.height := f.one_le_height
      obtain hnone | ⟨other, hother, hrest⟩ := exists_node_of_heightAll rest level
      · omega
      · exact ⟨other, by simp [hother], by omega⟩
    · exact ⟨node, by simp [hnode], by omega⟩

end

/-- An eager formula that has a value has room for its height. -/
lemma room_of_eval_eq_ok {f : Formula} (heager : f.isEager = true) {c : Context} {v : Value}
    (h : f.eval c = .ok v) : c.depth + f.height ≤ c.limit := by
  have hfollows := follows_eval f heager c (c.depth + 1) rfl (Int.self_le_toNat c.limit)
    (Nat.le_refl _)
  obtain ⟨node, hnode, hlevel⟩ := exists_node_of_height f (c.depth + 1)
  have hpassed : node.level ≤ c.limit.toNat := (hfollows.ok h node hnode).1
  have hheight : 1 ≤ f.height := f.one_le_height
  omega

/-! ## The limit and the height -/

/-- **The limit is exact.**  Where it leaves room for the height of a formula, the evaluation comes
to no node that is refused, in the context or in a row of the table.  Where no node is refused, the
outcome is the same with every higher limit.  An eager formula whose height does not fit has no
value. -/
theorem height_settles_limit (f : Formula) (c : Context) :
    (c.depth + f.height ≤ c.limit → ∀ g c', f.Evaluates c g c' →
      ∀ limit, g.eval c' ≠ .error (.tooDeep limit)) ∧
    (∀ limit, c.limit ≤ limit → (∀ refused, f.eval c ≠ .error (.tooDeep refused)) →
      f.eval { c with limit := limit } = f.eval c) ∧
    (f.isEager = true → c.limit < c.depth + f.height → ∀ v, f.eval c ≠ .ok v) := by
  refine ⟨?_, ?_, ?_⟩
  · intro hroom g c' hg limit
    obtain ⟨hlimit, hdepth⟩ := hg.depth_add_height_le
    exact eval_ne_tooDeep (by omega) limit
  · intro limit hlimit hpassed
    obtain hsame | ⟨_, ⟨refused, rfl⟩, hrefused⟩ := sameUnless_eval_of_le (f := f) hlimit
    · exact hsame.symm
    · exact absurd hrefused (hpassed refused)
  · intro heager hroom v h
    exact absurd (room_of_eval_eq_ok heager h) (by omega)

end TableFormula.Formula
