import TableFormula.Proofs.Evaluation.Lockstep

/-!
# What an evaluation depends on

Of all that stands in a context, a formula reads the cells that its references mean, in the current
row or in the rows of the table.  Three laws say which of them matter, each from the principle of
two evaluations in step.

* Contexts that agree on the references of a formula give it the same outcome
  (`eval_eq_of_agreeOn`): other columns and other cells are not looked at.
* A formula without totals does not look at the table (`eval_eq_of_isTotalFree`).
* Where the table is known, a formula all of whose references stand in arguments of totals does not
  look at the current row (`eval_atRow_eq`).  Totals set the current row themselves, so it does not
  matter how they are nested.
-/

namespace TableFormula

/-! ## Cells that references mean -/

/-- Two rows have the same cells in the columns that some references mean. -/
def Row.AgreeOn (columns : List Column) (names : List String) (row row' : Row) : Prop :=
  ∀ name ∈ names, ∀ column ∈ Column.find? columns name, row'.get column.id = row.get column.id

/-- Two contexts agree on some references: they mean the same columns, and the cells of these
columns are the same in the current rows and in the tables. -/
structure Context.AgreeOn (names : List String) (c c' : Context) : Prop where
  clock : c.clock = c'.clock
  limit : c'.limit = c.limit
  depth : c'.depth = c.depth
  columns : ∀ name ∈ names, Column.find? c'.columns name = Column.find? c.columns name
  row : Row.AgreeOn c.columns names c.row c'.row
  scope : SameScope (Row.AgreeOn c.columns names) c c'

namespace Context.AgreeOn

variable {names : List String} {c c' : Context}

lemma deeper (h : AgreeOn names c c') : AgreeOn names c.deeper c'.deeper :=
  { h with
    depth := congrArg (· + 1) h.depth
    scope := h.scope.deeper }

lemma atRow (h : AgreeOn names c c') {row row' : Row}
    (hrow : Row.AgreeOn c.columns names row row') :
    AgreeOn names (c.atRow row) (c'.atRow row') where
  clock := h.clock
  limit := h.limit
  depth := h.depth
  columns := h.columns
  row := hrow
  scope := by
    obtain ⟨htable, htable', hrows⟩ | ⟨htable, htable', -⟩ := h.scope
    · exact .table htable htable' hrows
    · exact .row htable htable' hrow

lemma ofReference_eq (h : AgreeOn names c c') {name : String} (hname : name ∈ names) :
    Evaluator.ofReference name c = Evaluator.ofReference name c' := by
  rw [Evaluator.ofReference, Evaluator.ofReference, h.columns name hname]
  cases hfind : Column.find? c.columns name with
  | none => rfl
  | some column => exact congrArg Except.ok (h.row name hname column hfind).symm

end Context.AgreeOn

namespace Formula

/-- A formula has the same outcome in contexts that agree on its references. -/
lemma eval_eq_of_agreeOn {f : Formula} {names : List String} (hnames : f.references ⊆ names)
    {c c' : Context} (h : c.AgreeOn names c') : f.eval c = f.eval c' := by
  refine eval_eq_of_inStep (S := fun f c c' => f.references ⊆ names ∧ c.AgreeOn names c') ?_
    ⟨hnames, h⟩
  rintro f c c' ⟨hnames, h⟩
  have hparts : ∀ g ∈ f.parts, g.references ⊆ names := fun g hg =>
    List.Subset.trans (references_subset_of_mem_parts hg) hnames
  refine .self (.of_eq h.limit h.depth) h.clock ?_ ?_ ?_
  · rintro name rfl
    exact h.deeper.ofReference_eq (hnames (by simp [references]))
  · exact fun _ g hg => ⟨hparts g hg, h.deeper⟩
  · exact fun _ => ⟨_, h.scope, fun g hg row row' hrow => ⟨hparts g hg, h.deeper.atRow hrow⟩⟩

/-! ## Formulas without certain calls -/

mutual

/-- Whether a formula has no calls by names of a kind. -/
def lacksCalls (p : String → Bool) : Formula → Bool
  | number _ | text _ | column _ | hole => true
  | binary _ left right => left.lacksCalls p && right.lacksCalls p
  | unary _ operand => operand.lacksCalls p
  | call name args => !p name && lacksCallsAll p args
  | choose condition whenTrue whenFalse =>
    condition.lacksCalls p && whenTrue.lacksCalls p && whenFalse.lacksCalls p

/-- Whether some formulas have no calls by names of a kind. -/
def lacksCallsAll (p : String → Bool) : List Formula → Bool
  | [] => true
  | f :: rest => f.lacksCalls p && lacksCallsAll p rest

end

lemma lacksCallsAll_eq_all (p : String → Bool) (args : List Formula) :
    lacksCallsAll p args = args.all (lacksCalls p) := by
  induction args with
  | nil => rfl
  | cons f rest ih => rw [lacksCallsAll, ih, List.all_cons]

/-- Whether a node is a call by a name of a kind. -/
def isCallBy (p : String → Bool) : Formula → Bool
  | call name _ => p name
  | _ => false

/-- A formula lacks calls of a kind if it is none of them and its parts lack them. -/
lemma lacksCalls_iff (p : String → Bool) (f : Formula) :
    f.lacksCalls p = true ↔ f.isCallBy p = false ∧ ∀ g ∈ f.parts, g.lacksCalls p = true := by
  cases f <;> simp [lacksCalls, isCallBy, parts, lacksCallsAll_eq_all, and_assoc]

/-! ## Formulas without totals -/

/-- Whether a formula has no calls of totals. -/
def isTotalFree (f : Formula) : Bool :=
  f.lacksCalls isTotalName

/-- A formula has no totals if it is none and has none in its parts. -/
lemma isTotalFree_iff (f : Formula) :
    f.isTotalFree = true ↔ f.isTotal = false ∧ ∀ g ∈ f.parts, g.isTotalFree = true :=
  lacksCalls_iff isTotalName f

/-- A formula without totals has the same outcome whatever the table is. -/
lemma eval_eq_of_isTotalFree {f : Formula} (hf : f.isTotalFree = true) (c : Context)
    (table : Option (List Row)) : f.eval { c with table := table } = f.eval c := by
  symm
  refine eval_eq_of_inStep
    (S := fun f c c' => f.isTotalFree = true ∧ c' = { c with table := table }) ?_ ⟨hf, rfl⟩
  rintro f c _ ⟨hf, rfl⟩
  obtain ⟨htotal, hparts⟩ := (isTotalFree_iff f).mp hf
  refine .self (.of_eq rfl rfl) rfl (fun _ _ => rfl) ?_ ?_
  · exact fun _ g hg => ⟨hparts g hg, rfl⟩
  · exact fun h => absurd h (by simp [htotal])

/-! ## Formulas that refer to columns in totals only -/

mutual

/-- The references of a formula that do not stand in an argument of a total. -/
def bareReferences : Formula → List String
  | number _ | text _ | hole => []
  | column name => [name]
  | binary _ left right => left.bareReferences ++ right.bareReferences
  | unary _ operand => operand.bareReferences
  | call name args => if isTotalName name then [] else bareReferencesAll args
  | choose condition whenTrue whenFalse =>
    condition.bareReferences ++ whenTrue.bareReferences ++ whenFalse.bareReferences

/-- The references of some formulas that do not stand in an argument of a total. -/
def bareReferencesAll : List Formula → List String
  | [] => []
  | f :: rest => f.bareReferences ++ bareReferencesAll rest

end

lemma bareReferencesAll_eq_flatMap (args : List Formula) :
    bareReferencesAll args = args.flatMap bareReferences := by
  induction args with
  | nil => rfl
  | cons f rest ih => rw [bareReferencesAll, ih, List.flatMap_cons]

/-- The parts of a node that is no total have no bare references if it has none. -/
lemma bareReferences_of_mem_parts {f g : Formula} (hf : f.bareReferences = [])
    (htotal : f.isTotal = false) (hg : g ∈ f.parts) : g.bareReferences = [] := by
  cases f with
  | number x | text s | column own | hole => cases hg
  | binary op left right =>
    obtain ⟨hleft, hright⟩ := List.append_eq_nil_iff.mp hf
    obtain rfl | rfl := by simpa [parts] using hg
    · exact hleft
    · exact hright
  | unary sign operand =>
    obtain rfl := by simpa [parts] using hg
    exact hf
  | call name args =>
    rw [isTotal] at htotal
    rw [bareReferences, htotal, if_neg Bool.false_ne_true, bareReferencesAll_eq_flatMap,
      List.flatMap_eq_nil_iff] at hf
    exact hf g hg
  | choose condition whenTrue whenFalse =>
    obtain ⟨hboth, hwhenFalse⟩ := List.append_eq_nil_iff.mp hf
    obtain ⟨hcondition, hwhenTrue⟩ := List.append_eq_nil_iff.mp hboth
    obtain rfl | rfl | rfl := by simpa [parts] using hg
    · exact hcondition
    · exact hwhenTrue
    · exact hwhenFalse

/-- Where the table is known, a formula without bare references does not depend on the current
row. -/
lemma eval_atRow_eq {f : Formula} (hf : f.bareReferences = []) {c : Context}
    (htable : c.table ≠ none) (row : Row) : f.eval (c.atRow row) = f.eval c := by
  symm
  refine eval_eq_of_inStep
    (S := fun f c c' => c' = c ∨ f.bareReferences = [] ∧ c.table ≠ none ∧ c' = c.atRow row) ?_
    (.inr ⟨hf, htable, rfl⟩)
  rintro f c _ (rfl | ⟨hf, htable, rfl⟩)
  · exact .outcome (.refl _)
  refine .self (.of_eq rfl rfl) rfl ?_ ?_ ?_
  · rintro name rfl
    exact absurd hf (List.cons_ne_nil name [])
  · exact fun htotal g hg => .inr ⟨bareReferences_of_mem_parts hf htotal hg, htable, rfl⟩
  · -- A total goes to the rows of the table, and there the two contexts are one.
    intro _
    obtain ⟨rows, hrows⟩ := Option.ne_none_iff_exists'.mp htable
    refine ⟨Eq, .table hrows hrows (List.forall₂_same.mpr fun _ _ => rfl), ?_⟩
    rintro g hg other _ rfl
    exact .inl rfl

end Formula

end TableFormula
