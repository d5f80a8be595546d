import TableFormula.Calendar.Everyday.Reader
import TableFormula.Computation.Pipeline
import TableFormula.Proofs.Column.Insertion
import TableFormula.Proofs.Evaluation.Depth

/-!
# Computed columns in the place of their formulas

A table gets a new column: a formula is computed in every row, its values are written into the rows,
and the column joins the others.  Another formula may refer to the new column then, in any place: in
a branch that is not taken, in an argument of a total, next to totals of its own.  It has the same
outcome as the formula with every such reference replaced by the formula of the column, evaluated
over the table as it was (`map_eval_eq_map_eval_inline`).

Three things make this so.

* **No other reference is disturbed.**  The new column does not answer to the other references, so
  they mean what they meant, and the columns that they mean have other identifiers.
* **The cell is the value.**  What stands under the identifier of the new column is what its formula
  gave in that row, over the whole table.
* **Levels do not matter.**  In the place of a reference the formula of the column lies deeper than
  it did alone, but there is room for all of the other formula.
-/

namespace TableFormula

/-! ## Replacing references -/

namespace Formula

mutual

/-- A formula with another one in the place of all references by a name. -/
def inline : Formula → String → Formula → Formula
  | number x, _, _ => number x
  | text s, _, _ => text s
  | column own, name, g => if own = name then g else column own
  | binary op left right, name, g => binary op (left.inline name g) (right.inline name g)
  | unary sign operand, name, g => unary sign (operand.inline name g)
  | call own args, name, g => call own (inlineAll args name g)
  | choose condition whenTrue whenFalse, name, g =>
    choose (condition.inline name g) (whenTrue.inline name g) (whenFalse.inline name g)
  | hole, _, _ => hole

/-- Some formulas with another one in the place of all references by a name. -/
def inlineAll : List Formula → String → Formula → List Formula
  | [], _, _ => []
  | f :: rest, name, g => f.inline name g :: inlineAll rest name g

end

lemma inlineAll_eq_map (args : List Formula) (name : String) (g : Formula) :
    inlineAll args name g = args.map (·.inline name g) := by
  induction args with
  | nil => rfl
  | cons f rest ih => rw [inlineAll, ih, List.map_cons]

/-- The parts of a node are replaced one by one. -/
lemma inline_mem_parts {f p : Formula} (hp : p ∈ f.parts) (name : String) (g : Formula) :
    p.inline name g ∈ (f.inline name g).parts := by
  cases f with
  | number x | text s | column own | hole => cases hp
  | binary op left right =>
    obtain rfl | rfl := by simpa [parts] using hp
    · simp [inline, parts]
    · simp [inline, parts]
  | unary sign operand =>
    obtain rfl := by simpa [parts] using hp
    simp [inline, parts]
  | call own args =>
    rw [inline, inlineAll_eq_map]
    exact List.mem_map.mpr ⟨p, hp, rfl⟩
  | choose condition whenTrue whenFalse =>
    obtain rfl | rfl | rfl := by simpa [parts] using hp
    · simp [inline, parts]
    · simp [inline, parts]
    · simp [inline, parts]

end Formula

/-! ## Values written into rows -/

/-- What is written into a row is the value that is paired with it. -/
lemma forall₂_writeColumn {P : Row → Value → Prop} {id : String} {rows : List Row}
    {values : List Value} (h : List.Forall₂ P rows values) :
    List.Forall₂ (fun newRow row => ∃ v, P row v ∧ newRow = row.set id v)
      (writeColumn id rows values) rows := by
  induction h with
  | nil => exact .nil
  | cons hrow _ ih => exact .cons ⟨_, hrow, rfl⟩ ih

/-! ## Tables with a computed column -/

/-- A table and a new column with the values of a formula.  The columns of the table do not answer
to the identifier of the new one, the formula does not refer to it, and the formula has a value in
every row, with some limit. -/
structure Materialized where
  columns : List Column
  rows : List Row
  clock : Clock
  column : Column
  formula : Formula
  limit : Int
  values : List Value
  fresh : ∀ c ∈ columns, c.answersTo column.id = false
  independent : ∀ name ∈ formula.references, column.answersTo name = false
  computed : rows.mapM (fun row => formula.eval (.top clock limit columns (some rows) row)) =
    .ok values

namespace Materialized

variable (m : Materialized)

/-- The context of a row before the column is there. -/
def before (limit : Int) (row : Row) : Context :=
  .top m.clock limit m.columns (some m.rows) row

/-- The rows with the values of the column. -/
def newRows : List Row :=
  writeColumn m.column.id m.rows m.values

/-- The context of a row when the column is there. -/
def after (limit : Int) (row : Row) : Context :=
  .top m.clock limit (m.columns ++ [m.column]) (some m.newRows) row

/-- A row with the value that the formula of the column has in it. -/
def Written (newRow row : Row) : Prop :=
  ∃ v, m.formula.eval (m.before m.limit row) = .ok v ∧ newRow = row.set m.column.id v

/-! ### Rows -/

lemma forall₂_newRows : List.Forall₂ m.Written m.newRows m.rows :=
  forall₂_writeColumn (forall₂_of_mapM m.computed)

/-! ### References -/

/-- A reference that the new column does not answer to reads the same cell. -/
lemma ofReference_of_answersTo_eq_false {name : String} (hname : m.column.answersTo name = false)
    {c c' : Context} (hcolumns : c.columns = m.columns ++ [m.column])
    (hcolumns' : c'.columns = m.columns) (hrow : m.Written c.row c'.row) :
    Evaluator.ofReference name c = Evaluator.ofReference name c' := by
  have hinserted := Column.Inserted.append_singleton
    (P := fun c => c.answersTo name = false) hname m.columns
  rw [Evaluator.ofReference, Evaluator.ofReference, hcolumns, hcolumns',
    Column.find?_of_inserted hinserted fun _ h => h]
  cases hfind : Column.find? m.columns name with
  | none => rfl
  | some column =>
    obtain ⟨v, -, hv⟩ := hrow
    have hfresh := m.fresh column (Column.mem_of_find?_eq_some hfind)
    have hid : m.column.id ≠ column.id := (Column.id_ne_of_answersTo_eq_false hfresh).symm
    rw [hv]
    exact congrArg Except.ok (Row.get_set_of_ne _ v hid)

/-- The identifier of the new column reads the value of its formula. -/
lemma ofReference_id {c : Context} (hcolumns : c.columns = m.columns ++ [m.column]) {row : Row}
    {v : Value} (hrow : c.row = row.set m.column.id v) :
    Evaluator.ofReference m.column.id c = .ok v := by
  rw [Evaluator.ofReference, hcolumns, Column.find?_append_self m.fresh, hrow]
  exact congrArg Except.ok (Row.get_set_self row m.column.id v)

/-! ### Formulas -/

/-- A formula where the column is there, and the formula with the references to it replaced where
it is not; there is room for the latter. -/
structure Inlined (limit : Int) (f f' : Formula) (c c' : Context) : Prop where
  formula : f' = f.inline m.column.id m.formula
  others : ∀ name ∈ f.references, name ≠ m.column.id → m.column.answersTo name = false
  room : c.depth + f'.height ≤ limit
  row : m.Written c.row c'.row
  after : c = { m.after limit c.row with depth := c.depth }
  before : c' = { m.before limit c'.row with depth := c.depth }

namespace Inlined

variable {m} {limit : Int} {f f' : Formula} {c c' : Context}

lemma level (h : m.Inlined limit f f' c c') : SameLevel (fun _ => False) c c' := by
  have hlimit : c.limit = limit := congrArg Context.limit h.after
  have hlimit' : c'.limit = limit := congrArg Context.limit h.before
  have hdepth' : c'.depth = c.depth := by rw [h.before]
  exact .of_eq (hlimit'.trans hlimit.symm) hdepth'

lemma clock (h : m.Inlined limit f f' c c') : c.clock = c'.clock := by
  have hclock : c.clock = m.clock := congrArg Context.clock h.after
  have hclock' : c'.clock = m.clock := congrArg Context.clock h.before
  rw [hclock, hclock']

lemma scope (h : m.Inlined limit f f' c c') : SameScope m.Written c c' := by
  have htable : c.table = some m.newRows := congrArg Context.table h.after
  have htable' : c'.table = some m.rows := congrArg Context.table h.before
  exact .table htable htable' m.forall₂_newRows

/-- The parts of a node are evaluated one level further down. -/
lemma part (h : m.Inlined limit f f' c c') {p : Formula} (hp : p ∈ f.parts) :
    m.Inlined limit p (p.inline m.column.id m.formula) c.deeper c'.deeper where
  formula := rfl
  others name hname := h.others name (Formula.references_subset_of_mem_parts hp hname)
  room := by
    have hpart := Formula.inline_mem_parts hp m.column.id m.formula
    rw [← h.formula] at hpart
    have hlower := Formula.height_lt_of_mem_parts hpart
    have hroom := h.room
    show ((c.depth + 1 : Nat) : Int) + _ ≤ limit
    omega
  row := h.row
  after := congrArg Context.deeper h.after
  before := congrArg Context.deeper h.before

lemma atRow (h : m.Inlined limit f f' c c') {newRow row : Row} (hrow : m.Written newRow row) :
    m.Inlined limit f f' (c.atRow newRow) (c'.atRow row) where
  formula := h.formula
  others := h.others
  room := h.room
  row := hrow
  after := congrArg (Context.atRow · newRow) h.after
  before := congrArg (Context.atRow · row) h.before

/-- A reference to the new column has the outcome of the formula in its place. -/
lemma eval_column_id (h : m.Inlined limit (.column m.column.id) f' c c') :
    (Formula.column m.column.id).eval c = f'.eval c' := by
  obtain ⟨v, hv, hrow⟩ := h.row
  have hformula : f' = m.formula := by
    rw [h.formula, Formula.inline, if_pos rfl]
  have hroom : c.depth + m.formula.height ≤ limit := by
    rw [← hformula]
    exact h.room
  have hplace : m.formula.eval c' = .ok v := by
    rw [h.before]
    exact Formula.eval_eq_ok_of_room hv hroom
  have hlevel : ¬ c.limit < c.depth + 1 := by
    have hlimit : c.limit = limit := congrArg Context.limit h.after
    have hheight := m.formula.one_le_height
    omega
  have hcolumns : c.deeper.columns = m.columns ++ [m.column] := congrArg Context.columns h.after
  rw [Formula.eval, Evaluator.guarded, if_neg hlevel, m.ofReference_id hcolumns hrow, hformula,
    hplace]

/-- Another reference has the outcome that it has where the new column is not there. -/
lemma eval_column_of_ne {name : String} (h : m.Inlined limit (.column name) f' c c')
    (hname : name ≠ m.column.id) :
    SameUnless (fun _ => False) ((Formula.column name).eval c) (f'.eval c') := by
  have hother : m.column.answersTo name = false :=
    h.others name (by simp [Formula.references]) hname
  have hcolumns : c.deeper.columns = m.columns ++ [m.column] := congrArg Context.columns h.after
  have hcolumns' : c'.deeper.columns = m.columns := congrArg Context.columns h.before
  rw [h.formula, Formula.inline, if_neg hname]
  have hcell := m.ofReference_of_answersTo_eq_false hother hcolumns hcolumns' h.row
  exact h.level.guarded (.of_eq hcell)

/-- A formula and the formula with its references replaced are in step with each other. -/
lemma inStep (h : m.Inlined limit f f' c c') :
    Formula.InStep (fun _ => False) (m.Inlined limit) f f' c c' := by
  have hformula := h.formula
  cases f with
  | number x | text s | hole =>
    rw [hformula]
    exact .outcome (h.level.guarded (.refl _))
  | column name =>
    by_cases hname : name = m.column.id
    · subst hname
      exact .outcome (.of_eq h.eval_column_id)
    · exact .outcome (h.eval_column_of_ne hname)
  | binary op left right =>
    rw [hformula]
    exact .binary h.level (h.part (by simp [Formula.parts])) (h.part (by simp [Formula.parts]))
  | unary sign operand =>
    rw [hformula]
    exact .unary h.level (h.part (by simp [Formula.parts]))
  | choose condition whenTrue whenFalse =>
    rw [hformula]
    exact .choose h.level (h.part (by simp [Formula.parts])) (h.part (by simp [Formula.parts]))
      (h.part (by simp [Formula.parts]))
  | call name args =>
    rw [hformula, Formula.inline, Formula.inlineAll_eq_map]
    have hpairs : List.Forall₂ (fun p p' => p ∈ args ∧ p' = p.inline m.column.id m.formula) args
        (args.map (·.inline m.column.id m.formula)) := by
      rw [List.forall₂_map_right_iff, List.forall₂_same]
      exact fun p hp => ⟨hp, rfl⟩
    cases hname : isTotalName name with
    | false =>
      refine .call h.level hname h.clock (hpairs.imp ?_)
      rintro p _ ⟨hp, rfl⟩
      exact h.part hp
    | true =>
      refine .total h.level hname h.scope (hpairs.imp ?_)
      rintro p _ ⟨hp, rfl⟩ newRow row hrow
      exact (h.part hp).atRow hrow

end Inlined

/-- A formula has in a row with the new value the outcome that it has with the references to the column
replaced in the row as it was. -/
lemma eval_eq_eval_inline {f : Formula}
    (hf : ∀ name ∈ f.references, name ≠ m.column.id → m.column.answersTo name = false)
    {limit : Int} (hlimit : (f.inline m.column.id m.formula).height ≤ limit) {newRow row : Row}
    (hrow : m.Written newRow row) :
    f.eval (m.after limit newRow) =
      (f.inline m.column.id m.formula).eval (m.before limit row) := by
  have hroom : ((0 : Nat) : Int) + (f.inline m.column.id m.formula).height ≤ limit := by omega
  have hinlined : m.Inlined limit f (f.inline m.column.id m.formula) (m.after limit newRow)
      (m.before limit row) := ⟨rfl, hf, hroom, hrow, rfl, rfl⟩
  exact (Formula.sameUnless_eval (fun _ _ _ _ h => h.inStep) f _ _ _ hinlined).eq

end Materialized

/-! ## Inlining -/

/-- **Inlining.**  A formula that refers to a computed column has, in every row of the new table,
the outcome that it has with the formula of the column in the place of these references, in the same
row of the table as it was. -/
theorem map_eval_eq_map_eval_inline (m : Materialized) {f : Formula}
    (hf : ∀ name ∈ f.references, name ≠ m.column.id → m.column.answersTo name = false)
    {limit : Int} (hlimit : (f.inline m.column.id m.formula).height ≤ limit) :
    m.newRows.map (fun row => f.eval (m.after limit row)) =
      m.rows.map (fun row => (f.inline m.column.id m.formula).eval (m.before limit row)) :=
  map_eq_map_iff_forall₂.mpr (m.forall₂_newRows.imp fun _ _ => m.eval_eq_eval_inline hf hlimit)

/-- Two rows, one of them with an empty cell, and a column of the cells in which the number of full
cells takes the place of what is empty. -/
def Materialized.filled : Materialized where
  columns := [⟨"b", "Beta", .string⟩]
  rows := [[("b", .text "x")], [("b", .blank)]]
  clock := .atMidnight ⟨2024, 1, 31, by decide⟩
  column := ⟨"k", "Filled", .string⟩
  formula := .call "COALESCE" [.column "b", .call "COUNT" [.column "beta"]]
  limit := 3
  values := [.text "x", .integer 1]
  fresh := by decide
  independent := by decide
  computed := rfl

/-- The column alone and under a total, with a name that no column has in the branch that is not
taken. -/
def Materialized.filledUse : Formula :=
  .choose (.call "COUNT" [.column "b"])
    (.call "CONCAT" [.column "k", .call "DISTINCT" [.column "k"]]) (.column "Nope")

theorem map_eval_inline_filledUse :
    (∀ name ∈ Materialized.filledUse.references, name ≠ Materialized.filled.column.id →
      Materialized.filled.column.answersTo name = false) ∧
    ((Materialized.filledUse.inline Materialized.filled.column.id
      Materialized.filled.formula).height : Int) ≤ 6 ∧
    Materialized.filled.rows.map (fun row => (Materialized.filledUse.inline
      Materialized.filled.column.id Materialized.filled.formula).eval
        (Materialized.filled.before 6 row)) = [.ok (.text "x2"), .ok (.text "12")] := by
  have hf : ∀ name ∈ Materialized.filledUse.references, name ≠ Materialized.filled.column.id →
      Materialized.filled.column.answersTo name = false := by decide
  have hlimit : ((Materialized.filledUse.inline Materialized.filled.column.id
      Materialized.filled.formula).height : Int) ≤ 6 := by decide
  have hinline := map_eval_eq_map_eval_inline Materialized.filled hf hlimit
  exact ⟨hf, hlimit, hinline.symm.trans rfl⟩

end TableFormula
