import TableFormula.Calendar.Everyday.Reader
import TableFormula.Formula.Check
import TableFormula.Proofs.Evaluation.Faults

/-!
# Checks and evaluations agree on references

A check and an evaluation look for columns in two different ways: a check walks the formula from
left to right, an evaluation follows its meaning, leaves out branches and repeats arguments in every
row.  An evaluation fails for an unknown column only where a reference of the formula names none, so
a formula that a check finds nothing wrong with never fails so.

**Eager formulas.**  Without choices and without functions that evaluate their arguments themselves,
an evaluation gets to the references in the order in which they are written.  Then both name the
same column, and a formula that a check finds fault with has no value anywhere.

**Where a check gives up.**  A walk goes down a fixed number of levels.  `RunsTooDeep` is the exact
condition: some node lies deeper than that and every reference before it names a column.  Then a
check finds no unknown column, whatever an evaluation does.  An evaluation of an eager formula has
been at all these nodes before it misses a column, so its own limit has to be higher still.
-/

namespace TableFormula.Formula

/-! ## Nodes and their levels -/

/-- A node of a formula: the name if it is a reference, and how deep it lies. -/
structure Node where
  name : Option String
  level : Nat

mutual

/-- The nodes of a formula that lies at some level, in the order in which they are written. -/
def nodes : Formula → Nat → List Node
  | number _, level | text _, level | hole, level => [⟨none, level⟩]
  | column name, level => [⟨some name, level⟩]
  | binary _ left right, level =>
    ⟨none, level⟩ :: (left.nodes (level + 1) ++ right.nodes (level + 1))
  | unary _ operand, level => ⟨none, level⟩ :: operand.nodes (level + 1)
  | call _ args, level => ⟨none, level⟩ :: nodesAll args (level + 1)
  | choose condition whenTrue whenFalse, level =>
    ⟨none, level⟩ :: (condition.nodes (level + 1) ++ whenTrue.nodes (level + 1) ++
      whenFalse.nodes (level + 1))

/-- The nodes of some formulas. -/
def nodesAll : List Formula → Nat → List Node
  | [], _ => []
  | f :: rest, level => f.nodes level ++ nodesAll rest level

end

/-- A name that means no column. -/
def Unknown (columns : List Column) (name : String) : Prop :=
  Column.find? columns name = none

instance (columns : List Column) : DecidablePred (Unknown columns) :=
  fun name => inferInstanceAs (Decidable (Column.find? columns name = none))

/-- A node that can be passed by what goes down some levels: it is not too deep, and if it is a
reference it names a column. -/
def Node.Passed (columns : List Column) (limit : Nat) (node : Node) : Prop :=
  node.level ≤ limit ∧ ∀ name ∈ node.name, ¬ Unknown columns name

/-- **The exact condition.**  Some node is too deep, and a walk passes all nodes before it. -/
def RunsTooDeep (f : Formula) (columns : List Column) : Prop :=
  ∃ before node after, f.nodes 1 = before ++ node :: after ∧ walkLimit < node.level ∧
    ∀ earlier ∈ before, earlier.Passed columns walkLimit

/-! ## What a check finds -/

/-- What is wrong with a node. -/
def Node.finding? (columns : List Column) (node : Node) : Option Finding :=
  if walkLimit < node.level then some .tooDeep
  else match node.name with
    | some name => if Unknown columns name then some (.unknownColumn name) else none
    | none => none

namespace Node

variable {columns : List Column} {node : Node}

lemma finding?_eq_none_iff : node.finding? columns = none ↔ node.Passed columns walkLimit := by
  obtain ⟨name, level⟩ := node
  by_cases hlevel : walkLimit < level
  · have hnot : ¬ level ≤ walkLimit := Nat.not_le_of_lt hlevel
    simp [finding?, Passed, hlevel, hnot]
  · have hle : level ≤ walkLimit := Nat.le_of_not_lt hlevel
    cases name <;> simp [finding?, Passed, hlevel, hle]

lemma finding?_eq_tooDeep_iff :
    node.finding? columns = some .tooDeep ↔ walkLimit < node.level := by
  obtain ⟨name, level⟩ := node
  by_cases hlevel : walkLimit < level
  · simp [finding?, hlevel]
  · cases name <;> simp [finding?, hlevel]

lemma finding?_ne_unreadable {fault : SyntaxFault} :
    node.finding? columns ≠ some (.unreadable fault) := by
  obtain ⟨name, level⟩ := node
  by_cases hlevel : walkLimit < level
  · simp [finding?, hlevel]
  · cases name <;> simp [finding?, hlevel]

lemma name_eq_of_finding? {name : String}
    (h : node.finding? columns = some (.unknownColumn name)) :
    node.name = some name ∧ Unknown columns name := by
  obtain ⟨own, level⟩ := node
  by_cases hlevel : walkLimit < level
  · simp [finding?, hlevel] at h
  · cases own with
    | none => simp [finding?, hlevel] at h
    | some own =>
      by_cases hknown : Unknown columns own
      · simp [finding?, hlevel, hknown] at h
        subst h
        exact ⟨rfl, hknown⟩
      · simp [finding?, hlevel, hknown] at h

end Node

mutual

/-- A walk finds what is wrong with the first node that it does not pass. -/
lemma findSome?_visits (columns : List Column) : (f : Formula) → (depth level : Nat) →
    level + depth = walkLimit + 1 →
      (f.visits depth).findSome? (Visit.finding? columns) =
        (f.nodes level).findSome? (Node.finding? columns)
  | f, 0, level, h => by
    have hdeep : walkLimit < level := by omega
    cases f <;> simp [visits, nodes, Node.finding?, Visit.finding?, hdeep]
  | .number _, depth + 1, level, h | .text _, depth + 1, level, h | .hole, depth + 1, level, h => by
    have hlevel : ¬ walkLimit < level := by omega
    simp [visits, nodes, Node.finding?, hlevel]
  | .column name, depth + 1, level, h => by
    have hlevel : ¬ walkLimit < level := by omega
    by_cases hname : Column.find? columns name = none
    · simp [visits, nodes, Node.finding?, Visit.finding?, Unknown, hlevel, hname]
    · have hsome : (Column.find? columns name).isSome = true := Option.isSome_iff_ne_none.mpr hname
      simp [visits, nodes, Node.finding?, Visit.finding?, Unknown, hlevel, hname, hsome]
  | .binary op left right, depth + 1, level, h => by
    have hlevel : ¬ walkLimit < level := by omega
    have hleft := findSome?_visits columns left depth (level + 1) (by omega)
    have hright := findSome?_visits columns right depth (level + 1) (by omega)
    simp [visits, nodes, Node.finding?, hlevel, List.findSome?_append, hleft, hright]
  | .unary sign operand, depth + 1, level, h => by
    have hlevel : ¬ walkLimit < level := by omega
    have hoperand := findSome?_visits columns operand depth (level + 1) (by omega)
    simp [visits, nodes, Node.finding?, hlevel, hoperand]
  | .call name args, depth + 1, level, h => by
    have hlevel : ¬ walkLimit < level := by omega
    have hargs := findSome?_visitsAll columns args depth (level + 1) (by omega)
    simp [visits, nodes, Node.finding?, hlevel, hargs]
  | .choose condition whenTrue whenFalse, depth + 1, level, h => by
    have hlevel : ¬ walkLimit < level := by omega
    have h₁ := findSome?_visits columns condition depth (level + 1) (by omega)
    have h₂ := findSome?_visits columns whenTrue depth (level + 1) (by omega)
    have h₃ := findSome?_visits columns whenFalse depth (level + 1) (by omega)
    simp [visits, nodes, Node.finding?, hlevel, List.findSome?_append, h₁, h₂, h₃]

lemma findSome?_visitsAll (columns : List Column) : (args : List Formula) → (depth level : Nat) →
    level + depth = walkLimit + 1 →
      (visitsAll args depth).findSome? (Visit.finding? columns) =
        (nodesAll args level).findSome? (Node.finding? columns)
  | [], _, _, _ => rfl
  | f :: rest, depth, level, h => by
    have hf := findSome?_visits columns f depth level h
    have hrest := findSome?_visitsAll columns rest depth level h
    rw [visitsAll, nodesAll, List.findSome?_append, List.findSome?_append, hf, hrest]

end

lemma check_eq (f : Formula) (columns : List Column) :
    f.check columns = (f.nodes 1).findSome? (Node.finding? columns) :=
  findSome?_visits columns f walkLimit 1 (Nat.add_comm 1 walkLimit)

/-- A check gives up exactly where a walk runs too deep. -/
lemma check_eq_tooDeep_iff (f : Formula) (columns : List Column) :
    f.check columns = some .tooDeep ↔ f.RunsTooDeep columns := by
  rw [check_eq, List.findSome?_eq_some_iff, RunsTooDeep]
  simp only [Node.finding?_eq_tooDeep_iff, Node.finding?_eq_none_iff]

/-! ## References -/

mutual

lemma references_eq : (f : Formula) → (level : Nat) →
    f.references = (f.nodes level).filterMap Node.name
  | .number _, _ | .text _, _ | .hole, _ | .column _, _ => rfl
  | .binary _ left right, level => by
    simp [references, nodes, references_eq left (level + 1), references_eq right (level + 1)]
  | .unary _ operand, level => by
    simp [references, nodes, references_eq operand (level + 1)]
  | .call _ args, level => by
    simp [references, nodes, referencesAll_eq args (level + 1)]
  | .choose condition whenTrue whenFalse, level => by
    simp [references, nodes, references_eq condition (level + 1),
      references_eq whenTrue (level + 1), references_eq whenFalse (level + 1)]

lemma referencesAll_eq : (args : List Formula) → (level : Nat) →
    referencesAll args = (nodesAll args level).filterMap Node.name
  | [], _ => rfl
  | f :: rest, level => by
    rw [referencesAll, nodesAll, List.filterMap_append, references_eq f level,
      referencesAll_eq rest level]

end

/-- The first reference that names no column. -/
def firstUnknown (columns : List Column) (references : List String) : Option String :=
  references.find? fun name => decide (Unknown columns name)

/-- A check that finds nothing has seen all references. -/
lemma known_of_check_eq_none {f : Formula} {columns : List Column} (h : f.check columns = none) :
    ∀ name ∈ f.references, ¬ Unknown columns name := by
  rw [check_eq, List.findSome?_eq_none_iff] at h
  intro name hname
  rw [references_eq f 1, List.mem_filterMap] at hname
  obtain ⟨node, hnode, hname⟩ := hname
  obtain ⟨-, hpassed⟩ := Node.finding?_eq_none_iff.mp (h node hnode)
  exact hpassed name hname

/-- A reference that names no column, behind others that do, is the first one. -/
lemma firstUnknown_eq {f : Formula} {columns : List Column} {before after : List Node}
    {node : Node} {name : String} (hnodes : f.nodes 1 = before ++ node :: after)
    (hname : node.name = some name) (hunknown : Unknown columns name)
    (hbefore : ∀ earlier ∈ before, ∀ other ∈ earlier.name, ¬ Unknown columns other) :
    firstUnknown columns f.references = some name := by
  have hearlier : (before.filterMap Node.name).find? (fun name => decide (Unknown columns name)) =
      none := by
    rw [List.find?_eq_none]
    intro other hother
    obtain ⟨earlier, hmem, hsome⟩ := List.mem_filterMap.mp hother
    simpa using hbefore earlier hmem other hsome
  rw [firstUnknown, references_eq f 1, hnodes, List.filterMap_append, List.find?_append, hearlier,
    List.filterMap_cons_some hname]
  simp [hunknown]

/-- An unknown column that a check finds is the first one. -/
lemma firstUnknown_of_check {f : Formula} {columns : List Column} {name : String}
    (h : f.check columns = some (.unknownColumn name)) :
    firstUnknown columns f.references = some name := by
  rw [check_eq, List.findSome?_eq_some_iff] at h
  obtain ⟨before, node, after, hnodes, hnode, hbefore⟩ := h
  obtain ⟨hname, hunknown⟩ := Node.name_eq_of_finding? hnode
  refine firstUnknown_eq hnodes hname hunknown fun earlier hmem => ?_
  exact (Node.finding?_eq_none_iff.mp (hbefore earlier hmem)).2

/-- A check finds a reference that names no column, if a walk passes all nodes before it. -/
lemma check_eq_unknownColumn {f : Formula} {columns : List Column} {before after : List Node}
    {name : String} {level : Nat} (hnodes : f.nodes 1 = before ++ ⟨some name, level⟩ :: after)
    (hlevel : level ≤ walkLimit) (hunknown : Unknown columns name)
    (hbefore : ∀ earlier ∈ before, earlier.Passed columns walkLimit) :
    f.check columns = some (.unknownColumn name) := by
  rw [check_eq, List.findSome?_eq_some_iff]
  refine ⟨before, _, after, hnodes, ?_, fun earlier hmem => ?_⟩
  · have hnot : ¬ walkLimit < level := Nat.not_lt_of_le hlevel
    simp [Node.finding?, hnot, hunknown]
  · exact Node.finding?_eq_none_iff.mpr (hbefore earlier hmem)

/-- A check of a formula with an unknown column finds it or gives up. -/
lemma check_of_unknown {f : Formula} {columns : List Column} {name : String}
    (hname : name ∈ f.references) (hunknown : Unknown columns name) :
    f.check columns = some .tooDeep ∨ ∃ other, f.check columns = some (.unknownColumn other) := by
  cases hcheck : f.check columns with
  | none => exact absurd hunknown (known_of_check_eq_none hcheck name hname)
  | some finding =>
    cases finding with
    | tooDeep => exact .inl rfl
    | unknownColumn other => exact .inr ⟨other, rfl⟩
    | unreadable fault =>
      rw [check_eq, List.findSome?_eq_some_iff] at hcheck
      obtain ⟨-, node, -, -, hnode, -⟩ := hcheck
      exact absurd hnode Node.finding?_ne_unreadable

/-! ## Which columns an evaluation misses -/

/-- A fault that names no column but some. -/
def Blames (R : String → Prop) (fault : Fault) : Prop :=
  ∀ name, fault = .unknownColumn name → R name

section

variable {R : String → Prop} {columns : List Column}

lemma blames_of_isOfFunction {fault : Fault} (h : fault.isOfFunction) : Blames R fault := by
  rintro name rfl
  obtain h | ⟨_, _, _, h⟩ | ⟨_, _, h⟩ | ⟨_, h⟩ := h <;> cases h

lemma blames_of_isOfOperator {fault : Fault} (h : fault.isOfOperator) : Blames R fault := by
  rintro name rfl
  obtain h | ⟨_, h⟩ | ⟨_, h⟩ := h <;> cases h

lemma failsWith_guarded {e : Evaluator} {c : Context} (he : FailsWith (Blames R) (e c.deeper)) :
    FailsWith (Blames R) (Evaluator.guarded e c) :=
  .ite (.error nofun) he

mutual

/-- An evaluation misses only columns that references of the formula name. -/
lemma eval_blames : (f : Formula) → (∀ name ∈ f.references, Unknown columns name → R name) →
    ∀ c : Context, c.columns = columns → FailsWith (Blames R) (f.eval c)
  | .number _, _, _, _ | .text _, _, _, _ => failsWith_guarded (.ok _)
  | .hole, _, _, _ => failsWith_guarded (.error nofun)
  | .column name, h, c, hc => by
    refine failsWith_guarded ?_
    rw [Evaluator.ofReference]
    cases hfind : Column.find? c.deeper.columns name with
    | some column => exact .ok _
    | none =>
      refine .error ?_
      rintro other ⟨⟩
      refine h name (by simp [references]) ?_
      rw [Unknown, ← hc]
      exact hfind
  | .binary op left right, h, c, hc => by
    have hleft := eval_blames left (fun name hname => h name (by simp [references, hname]))
    have hright := eval_blames right (fun name hname => h name (by simp [references, hname]))
    refine failsWith_guarded ?_
    refine (hleft c.deeper hc).bind fun v => (hright c.deeper hc).bind fun w => ?_
    exact (op.failsWith_apply v w).mono fun _ => blames_of_isOfOperator
  | .unary sign operand, h, c, hc => by
    have hoperand := eval_blames operand h
    refine failsWith_guarded ((hoperand c.deeper hc).bind fun v => ?_)
    exact (sign.failsWith_apply v).mono fun _ => blames_of_isOfOperator
  | .call name args, h, c, hc => by
    have hargs := evalAll_blames args h
    refine failsWith_guarded ?_
    refine Evaluator.failsWith_ofCall (fun _ => blames_of_isOfFunction) (fun _ => nofun) ?_
    exact fun e he row => hargs e he (c.deeper.atRow row) hc
  | .choose condition whenTrue whenFalse, h, c, hc => by
    have h₁ := eval_blames condition (fun name hname => h name (by simp [references, hname]))
    have h₂ := eval_blames whenTrue (fun name hname => h name (by simp [references, hname]))
    have h₃ := eval_blames whenFalse (fun name hname => h name (by simp [references, hname]))
    refine failsWith_guarded ((h₁ c.deeper hc).bind fun v => ?_)
    refine FailsWith.bind (v.failsByValues_toTruth.mono fun _ hfault => ?_) fun b =>
      .ite (h₂ c.deeper hc) (h₃ c.deeper hc)
    exact blames_of_isOfFunction (.inl hfault)

lemma evalAll_blames : (args : List Formula) →
    (∀ name ∈ referencesAll args, Unknown columns name → R name) →
      ∀ e ∈ evalAll args, ∀ c : Context, c.columns = columns → FailsWith (Blames R) (e c)
  | [], _ => nofun
  | f :: rest, h => by
    intro e he c hc
    rw [evalAll, List.mem_cons] at he
    obtain rfl | he := he
    · exact eval_blames f (fun name hname => h name (by simp [referencesAll, hname])) c hc
    · have hrest : ∀ name ∈ referencesAll rest, Unknown columns name → R name :=
        fun name hname => h name (by simp [referencesAll, hname])
      exact evalAll_blames rest hrest e he c hc

end

end

/-- **What an evaluation misses.**  It fails for an unknown column only where a reference of the
formula names none. -/
lemma mem_references_of_eval {f : Formula} {c : Context} {name : String}
    (h : f.eval c = .error (.unknownColumn name)) :
    name ∈ f.references ∧ Unknown c.columns name :=
  eval_blames (R := fun name => name ∈ f.references ∧ Unknown c.columns name) f
    (fun _ hname hunknown => ⟨hname, hunknown⟩) c rfl _ h name rfl

/-! ## Eager formulas -/

mutual

/-- Whether a formula has neither choices nor functions that evaluate their arguments themselves. -/
def isEager : Formula → Bool
  | number _ | text _ | column _ | hole => true
  | binary _ left right => left.isEager && right.isEager
  | unary _ operand => operand.isEager
  | call name args => !(Function.ofName? name).any Function.isDeferred && isEagerAll args
  | choose .. => false

/-- Whether some formulas are all eager. -/
def isEagerAll : List Formula → Bool
  | [] => true
  | f :: rest => f.isEager && isEagerAll rest

end

/-- A computation that gets to some nodes in order and goes down some levels: if it gives a value,
then it has passed all of them, and the column that it misses is the name of the first one that it
does not pass. -/
structure Follows {α : Type} (columns : List Column) (limit : Nat) (nodes : List Node)
    (x : Except Fault α) : Prop where
  ok {a : α} (h : x = .ok a) : ∀ node ∈ nodes, node.Passed columns limit
  error {name : String} (h : x = .error (.unknownColumn name)) : ∃ before level after,
    nodes = before ++ ⟨some name, level⟩ :: after ∧ level ≤ limit ∧ Unknown columns name ∧
      ∀ earlier ∈ before, earlier.Passed columns limit

namespace Follows

variable {α β : Type} {columns : List Column} {limit : Nat} {nodes others : List Node}

/-- A computation that misses no columns. -/
lemma of_failsWith {x : Except Fault α} (h : FailsWith (Blames fun _ => False) x) :
    Follows columns limit [] x where
  ok _ := List.forall_mem_nil _
  error hx := (h _ hx _ rfl).elim

lemma of_error {fault : Fault} (h : Blames (fun _ => False) fault) :
    Follows columns limit nodes (.error fault : Except Fault α) where
  ok hx := nomatch hx
  error hx := by
    cases hx
    exact (h _ rfl).elim

lemma bind {x : Except Fault α} {f : α → Except Fault β} (hx : Follows columns limit nodes x)
    (hf : ∀ a, Follows columns limit others (f a)) :
    Follows columns limit (nodes ++ others) (x >>= f) := by
  cases x with
  | error fault =>
    refine ⟨nofun, fun {name} hname => ?_⟩
    cases hname
    obtain ⟨before, level, after, rfl, hnode⟩ := hx.error rfl
    exact ⟨before, level, after ++ others, by simp, hnode⟩
  | ok a =>
    have hpassed := hx.ok rfl
    refine ⟨fun hok => List.forall_mem_append.mpr ⟨hpassed, (hf a).ok hok⟩, fun hname => ?_⟩
    obtain ⟨before, level, after, rfl, hlevel, hunknown, hbefore⟩ := (hf a).error hname
    refine ⟨nodes ++ before, level, after, by simp, hlevel, hunknown, ?_⟩
    exact List.forall_mem_append.mpr ⟨hpassed, hbefore⟩

/-- A step that misses no columns changes nothing. -/
lemma andThen {x : Except Fault α} {f : α → Except Fault β} (hx : Follows columns limit nodes x)
    (hf : ∀ a, FailsWith (Blames fun _ => False) (f a)) :
    Follows columns limit nodes (x >>= f) := by
  have hnone : ∀ a, Follows columns limit [] (f a) := fun a => of_failsWith (hf a)
  have h := hx.bind hnone
  rwa [List.append_nil] at h

/-- A node that is no reference is passed if it is not too deep. -/
lemma cons {level : Nat} {x : Except Fault α} (hlevel : level ≤ limit)
    (hx : Follows columns limit nodes x) : Follows columns limit (⟨none, level⟩ :: nodes) x := by
  have hpassed : Node.Passed columns limit ⟨none, level⟩ := ⟨hlevel, nofun⟩
  refine ⟨fun hok => List.forall_mem_cons.mpr ⟨hpassed, hx.ok hok⟩, fun hname => ?_⟩
  obtain ⟨before, deeper, after, rfl, hdeeper, hunknown, hbefore⟩ := hx.error hname
  refine ⟨⟨none, level⟩ :: before, deeper, after, rfl, hdeeper, hunknown, ?_⟩
  exact List.forall_mem_cons.mpr ⟨hpassed, hbefore⟩

/-- What is evaluated lies within the limit. -/
lemma guarded {e : Evaluator} {c : Context} {level : Nat} (hlimit : c.limit ≤ limit)
    (hlevel : level ≤ c.depth + 1)
    (he : level ≤ limit → Follows columns limit nodes (e c.deeper)) :
    Follows columns limit nodes (Evaluator.guarded e c) := by
  rw [Evaluator.guarded]
  split_ifs
  · exact of_error nofun
  · exact he (by omega)

end Follows

mutual

/-- An evaluation of an eager formula gets to its nodes in order. -/
lemma follows_eval {columns : List Column} {limit : Nat} : (f : Formula) → f.isEager = true →
    ∀ (c : Context) (level : Nat), c.columns = columns → c.limit ≤ limit → level ≤ c.depth + 1 →
      Follows columns limit (f.nodes level) (f.eval c)
  | .number _, _, c, level, _, hlimit, hlevel | .text _, _, c, level, _, hlimit, hlevel =>
    .guarded hlimit hlevel fun hle => .cons hle (.of_failsWith (.ok _))
  | .hole, _, c, level, _, hlimit, hlevel =>
    .guarded hlimit hlevel fun hle => .cons hle (.of_failsWith (.error nofun))
  | .column name, _, c, level, hc, hlimit, hlevel => by
    refine .guarded hlimit hlevel fun hle => ?_
    rw [Evaluator.ofReference]
    cases hfind : Column.find? c.deeper.columns name with
    | some column =>
      have hknown : ¬ Unknown columns name := by
        rw [Unknown, ← hc]
        exact fun hnone => nomatch hfind.symm.trans hnone
      refine ⟨fun _ node hnode => ?_, nofun⟩
      obtain rfl : node = ⟨some name, level⟩ := by simpa [nodes] using hnode
      exact ⟨hle, fun other hother => by cases hother; exact hknown⟩
    | none =>
      have hunknown : Unknown columns name := by
        rw [Unknown, ← hc]
        exact hfind
      refine ⟨nofun, fun {other} hother => ?_⟩
      cases hother
      exact ⟨[], level, [], rfl, hle, hunknown, List.forall_mem_nil _⟩
  | .binary op left right, h, c, level, hc, hlimit, hlevel => by
    rw [isEager, Bool.and_eq_true] at h
    have hdeeper : level + 1 ≤ c.deeper.depth + 1 := Nat.succ_le_succ hlevel
    have hleft := follows_eval left h.1 c.deeper (level + 1) hc hlimit hdeeper
    have hright := follows_eval right h.2 c.deeper (level + 1) hc hlimit hdeeper
    refine .guarded hlimit hlevel fun hle => .cons hle ?_
    refine hleft.bind fun v => hright.andThen fun w => ?_
    exact (op.failsWith_apply v w).mono fun _ => blames_of_isOfOperator
  | .unary sign operand, h, c, level, hc, hlimit, hlevel => by
    have hdeeper : level + 1 ≤ c.deeper.depth + 1 := Nat.succ_le_succ hlevel
    have hoperand := follows_eval operand h c.deeper (level + 1) hc hlimit hdeeper
    refine .guarded hlimit hlevel fun hle => .cons hle (hoperand.andThen fun v => ?_)
    exact (sign.failsWith_apply v).mono fun _ => blames_of_isOfOperator
  | .call name args, h, c, level, hc, hlimit, hlevel => by
    rw [isEager, Bool.and_eq_true] at h
    obtain ⟨hname, hargs⟩ := h
    have hdeeper : level + 1 ≤ c.deeper.depth + 1 := Nat.succ_le_succ hlevel
    have hvalues := follows_evalAll args hargs c.deeper (level + 1) hc hlimit hdeeper
    refine .guarded hlimit hlevel fun hle => .cons hle ?_
    rw [Evaluator.ofCall]
    cases hf : Function.ofName? name with
    | none => exact .of_error nofun
    | some f =>
      obtain ⟨rule, hrule⟩ : ∃ rule, f.meaning c.deeper.clock.everyday = .ofValues rule := by
        refine Function.exists_rule _ ?_
        simpa [hf] using hname
      have hcall : f.call (evalAll args) c.deeper =
          (evalAll args).mapM (· c.deeper) >>= rule.apply f.name := by
        rw [Function.call, hrule]
      show Follows columns limit (nodesAll args (level + 1)) (f.call (evalAll args) c.deeper)
      rw [hcall]
      refine hvalues.andThen fun values => ?_
      exact ((Function.byValues hrule).failsWith_apply f.name values).mono fun _ =>
        blames_of_isOfFunction
  | .choose .., h, _, _, _, _, _ => nomatch h

lemma follows_evalAll {columns : List Column} {limit : Nat} : (args : List Formula) →
    isEagerAll args = true → ∀ (c : Context) (level : Nat), c.columns = columns →
      c.limit ≤ limit → level ≤ c.depth + 1 →
        Follows columns limit (nodesAll args level) ((evalAll args).mapM (· c))
  | [], _, _, _, _, _, _ => .of_failsWith (.ok _)
  | f :: rest, h, c, level, hc, hlimit, hlevel => by
    rw [isEagerAll, Bool.and_eq_true] at h
    have hf := follows_eval f h.1 c level hc hlimit hlevel
    have hrest := follows_evalAll rest h.2 c level hc hlimit hlevel
    rw [evalAll, List.mapM_cons, nodesAll]
    exact hf.bind fun v => hrest.andThen fun values => .ok _

end

/-! ## Agreement -/

/-- An evaluation of an eager formula that goes down no further than a walk misses the column that a
check finds. -/
lemma check_of_eval_of_limit {f : Formula} (heager : f.isEager = true) {c : Context} {name : String}
    (hlimit : c.limit ≤ walkLimit) (h : f.eval c = .error (.unknownColumn name)) :
    f.check c.columns = some (.unknownColumn name) := by
  have hfollows := follows_eval f heager c 1 rfl hlimit (Nat.le_add_left 1 c.depth)
  obtain ⟨before, level, after, hnodes, hlevel, hunknown, hbefore⟩ := hfollows.error h
  exact check_eq_unknownColumn hnodes hlevel hunknown hbefore

/-- The column that an evaluation of an eager formula misses is the first one that is not there. -/
lemma firstUnknown_of_eval {f : Formula} (heager : f.isEager = true) {c : Context} {name : String}
    (h : f.eval c = .error (.unknownColumn name)) :
    firstUnknown c.columns f.references = some name := by
  have hfollows :=
    follows_eval f heager c 1 rfl (Int.self_le_toNat c.limit) (Nat.le_add_left 1 c.depth)
  obtain ⟨before, level, after, hnodes, -, hunknown, hbefore⟩ := hfollows.error h
  exact firstUnknown_eq hnodes rfl hunknown fun earlier hmem => (hbefore earlier hmem).2

/-- An eager formula has a value only if all its references name columns. -/
lemma known_of_eval {f : Formula} (heager : f.isEager = true) {c : Context} {v : Value}
    (h : f.eval c = .ok v) : ∀ name ∈ f.references, ¬ Unknown c.columns name := by
  intro name hname
  rw [references_eq f 1, List.mem_filterMap] at hname
  obtain ⟨node, hnode, hname⟩ := hname
  have hfollows :=
    follows_eval f heager c 1 rfl (Int.self_le_toNat c.limit) (Nat.le_add_left 1 c.depth)
  exact (hfollows.ok h node hnode).2 name hname

/-- **Agreement.**  A formula that a check finds nothing wrong with never misses a column.  Where an
evaluation misses one, a check finds an unknown column, the same one if the formula is eager, or it
gives up, which it does exactly where a walk runs too deep; for an eager formula it gives up only if
the evaluation may go down further than a walk.  An eager formula in which a check finds an unknown
column has no value anywhere. -/
theorem check_agrees_with_eval (f : Formula) (columns : List Column) :
    (f.check columns = none →
      ∀ c : Context, c.columns = columns → ∀ name, f.eval c ≠ .error (.unknownColumn name)) ∧
    (∀ c : Context, c.columns = columns → ∀ name, f.eval c = .error (.unknownColumn name) →
      f.RunsTooDeep columns ∧ f.check columns = some .tooDeep ∧
        (f.isEager = true → walkLimit < c.limit) ∨
      ¬ f.RunsTooDeep columns ∧ ∃ found, f.check columns = some (.unknownColumn found) ∧
        (f.isEager = true → found = name)) ∧
    (f.isEager = true → ∀ found, f.check columns = some (.unknownColumn found) →
      ∀ c : Context, c.columns = columns → ∀ v, f.eval c ≠ .ok v) := by
  refine ⟨?_, ?_, ?_⟩
  · rintro hcheck c rfl name heval
    obtain ⟨hname, hunknown⟩ := mem_references_of_eval heval
    exact known_of_check_eq_none hcheck name hname hunknown
  · rintro c rfl name heval
    obtain ⟨hname, hunknown⟩ := mem_references_of_eval heval
    obtain hcheck | ⟨found, hcheck⟩ := check_of_unknown hname hunknown
    · refine .inl ⟨(check_eq_tooDeep_iff f c.columns).mp hcheck, hcheck, fun heager => ?_⟩
      by_contra hlimit
      rw [check_of_eval_of_limit heager (Int.not_lt.mp hlimit) heval] at hcheck
      cases hcheck
    · have hdeep : ¬ f.RunsTooDeep c.columns := by
        rw [← check_eq_tooDeep_iff, hcheck]
        simp
      refine .inr ⟨hdeep, found, hcheck, fun heager => ?_⟩
      have hfirst := firstUnknown_of_eval heager heval
      rw [firstUnknown_of_check hcheck] at hfirst
      exact Option.some.inj hfirst
  · rintro heager found hcheck c rfl v heval
    have hfound := firstUnknown_of_check hcheck
    rw [firstUnknown] at hfound
    have hunknown : Unknown c.columns found := by simpa using List.find?_some hfound
    exact known_of_eval heager heval found (List.mem_of_find?_eq_some hfound) hunknown

/-! ### A formula for which a check gives up -/

/-- The empty text joined to itself a number of times, from the left. -/
def chain : Nat → Formula
  | 0 => text ""
  | n + 1 => binary .join (chain n) (text "")

/-- The first operand of a chain lies as deep as the chain is long, behind its operators. -/
lemma nodes_chain (n level : Nat) : ∃ before after,
    (chain n).nodes level = before ++ ⟨none, level + n⟩ :: after ∧
      ∀ earlier ∈ before, earlier.name = none ∧ earlier.level < level + n := by
  induction n generalizing level with
  | zero => exact ⟨[], [], rfl, nofun⟩
  | succ n ih =>
    obtain ⟨before, after, hnodes, hbefore⟩ := ih (level + 1)
    have hlevel : level + 1 + n = level + (n + 1) := by omega
    rw [hlevel] at hnodes hbefore
    refine ⟨⟨none, level⟩ :: before, after ++ (text "").nodes (level + 1), ?_, ?_⟩
    · simp [chain, nodes, hnodes]
    · have hfirst : level < level + (n + 1) := by omega
      exact List.forall_mem_cons.mpr ⟨⟨rfl, hfirst⟩, hbefore⟩

/-- A choice that leaves out a long chain misses the column that it takes, and a check gives up on
the way through the chain. -/
lemma check_gives_up_where_eval_misses : ∃ (f : Formula) (c : Context),
    f.eval c = .error (.unknownColumn "Nope") ∧ f.check c.columns = some .tooDeep := by
  refine ⟨choose (text "") (chain (walkLimit - 1)) (column "Nope"),
    .top (.atMidnight ⟨1970, 1, 1, by decide⟩) 200 [] none [], by rfl, ?_⟩
  rw [check_eq_tooDeep_iff]
  obtain ⟨before, after, hnodes, hbefore⟩ := nodes_chain (walkLimit - 1) 2
  refine ⟨⟨none, 1⟩ :: ⟨none, 2⟩ :: before, ⟨none, 2 + (walkLimit - 1)⟩,
    after ++ (column "Nope").nodes 2, ?_, by decide, ?_⟩
  · simp [nodes, hnodes]
  · intro earlier hearlier
    obtain rfl | rfl | hearlier := by simpa using hearlier
    · exact ⟨by decide, nofun⟩
    · exact ⟨by decide, nofun⟩
    · obtain ⟨hname, hlevel⟩ := hbefore earlier hearlier
      refine ⟨by unfold walkLimit at hlevel ⊢; omega, ?_⟩
      rw [hname]
      exact nofun

end TableFormula.Formula
