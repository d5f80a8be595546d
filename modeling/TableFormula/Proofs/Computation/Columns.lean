import TableFormula.Calendar.Everyday.Reader
import TableFormula.Proofs.Column.Insertion
import TableFormula.Proofs.Computation.Totality
import TableFormula.Proofs.Evaluation.Relevance

/-!
# Computed columns

A column is computed in one go, with the table in reach of every row.  This module says what that
amounts to, row by row.

* **Rows.**  The column has a value for every row: the one that the text has in that row alone, if
  it may see the table (`columnOf_row_by_row`).  Without totals it need not even see the table, so
  columns of joined tables are joined, and a row has no influence on the values of the others.
* **What is not referred to.**  Other columns, anywhere among the columns, and other cells change
  neither the column nor what a check finds (`computeColumn_eq_of_agreeOn`).
* **Totals.**  If all references stand in arguments of totals, then the current row does not matter,
  and the column has one value in all rows (`eval_atRow_eq_and_columnOf_eq_replicate`).
-/

namespace TableFormula

open Formula

/-- The references of the formula that a text spells; a text that is no formula has none. -/
def referencesOf (source : String) : List String :=
  match parse source with
  | .ok f => f.references
  | .error _ => []

lemma referencesOf_eq {source : String} {f : Formula} (h : parse source = .ok f) :
    referencesOf source = f.references := by
  rw [referencesOf, h]

namespace Engine

variable (engine : Engine) (source : String) (columns : List Column) (rows : List Row)

/-- The column that a text gives, without the notes. -/
def columnOf : Except (List Problem) ComputedColumn :=
  (engine.computeColumn source rows (.ok columns)).map (·.result)

/-- The value of a text in a row, without the notes. -/
def valueOf (table : Option (List Row)) (row : Row) : Except (List Problem) Value :=
  (engine.evaluateText source row (.ok columns) table).map (·.result)

/-! ## Formulas and other texts -/

section

variable {source} {f : Formula}

lemma columnOf_eq (h : parse source = .ok f) : engine.columnOf source columns rows =
    .ok ⟨rows.map (engine.valueAt columns (some rows) f), none⟩ := by
  obtain ⟨notes, hcolumn⟩ := engine.computeColumn_eq_ok source columns rows h
  rw [columnOf, hcolumn]
  rfl

lemma valueOf_eq (h : parse source = .ok f) (table : Option (List Row)) (row : Row) :
    engine.valueOf source columns table row = .ok (engine.valueAt columns table f row) := by
  obtain ⟨notes, hvalue⟩ := engine.evaluateFormula_eq_ok columns table f row
  rw [valueOf, evaluateText, compile, h]
  exact congrArg (Except.map (·.result)) hvalue

lemma columnOf_eq_of_error {fault : SyntaxFault} (h : parse source = .error fault) :
    engine.columnOf source columns rows = .ok ⟨rows.map fun _ => .blank, some fault⟩ := by
  rw [columnOf, computeColumn, compile, h]
  rfl

lemma valueOf_eq_of_error {fault : SyntaxFault} (h : parse source = .error fault)
    (table : Option (List Row)) (row : Row) :
    engine.valueOf source columns table row = .ok .blank := by
  rw [valueOf, evaluateText, compile, h]
  rfl

lemma fault_compile_eq (h : parse source = .ok f) :
    (engine.compile source).result.fault = none := by
  rw [compile, h]

lemma fault_compile_eq_of_error {fault : SyntaxFault} (h : parse source = .error fault) :
    (engine.compile source).result.fault = some fault := by
  rw [compile, h]

/-! ## Without totals -/

/-- A formula without totals has the same value in a row whether or not the table is known. -/
lemma valueAt_eq_of_isTotalFree (hf : f.isTotalFree = true) (table : Option (List Row)) :
    engine.valueAt columns table f = engine.valueAt columns none f := by
  funext row
  have heval := eval_eq_of_isTotalFree hf
    (.top engine.clock (depthLimit none) columns none row) table
  rw [valueAt, valueAt, ← heval]
  rfl

/-- The column of a formula without totals is computed in every row on its own. -/
lemma columnOf_eq_of_isTotalFree (h : parse source = .ok f) (hf : f.isTotalFree = true) :
    engine.columnOf source columns rows = .ok ⟨rows.map (engine.valueAt columns none f), none⟩ := by
  rw [engine.columnOf_eq columns rows h, engine.valueAt_eq_of_isTotalFree columns hf]

end

/-- If a text has the values of a function, then these values of some rows are its values one by
one. -/
lemma exists_valueOf_of_getElem? {value : Row → Value} {table : Option (List Row)}
    (h : ∀ row, engine.valueOf source columns table row = .ok (value row)) (i : Nat) (row : Row)
    (hrow : rows[i]? = some row) : ∃ v, (rows.map value)[i]? = some v ∧
      engine.valueOf source columns table row = .ok v := by
  refine ⟨value row, ?_, h row⟩
  rw [List.getElem?_map, hrow]
  rfl

/-- **Row by row.**  A column has exactly one value for every row, the one of the text in that row
where the table is known, and what is wrong with it is what is wrong with the text.  For a formula
without totals it is the value where the table is not known; then the columns of two tables joined
are the column of the joined table, and a row that is changed, so that it fails or in any other way,
changes no other value. -/
theorem columnOf_row_by_row : ∃ column, engine.columnOf source columns rows = .ok column ∧
    column.values.length = rows.length ∧
    column.fault = (engine.compile source).result.fault ∧
    (∀ (i : Nat) (row : Row), rows[i]? = some row → ∃ v, column.values[i]? = some v ∧
      engine.valueOf source columns (some rows) row = .ok v) ∧
    ∀ f, parse source = .ok f → f.isTotalFree = true →
      (∀ (i : Nat) (row : Row), rows[i]? = some row → ∃ v, column.values[i]? = some v ∧
        engine.valueOf source columns none row = .ok v) ∧
      (∀ others, ∃ other joined, engine.columnOf source columns others = .ok other ∧
        engine.columnOf source columns (rows ++ others) = .ok joined ∧
        joined.values = column.values ++ other.values) ∧
      (∀ j row, ∃ changed, engine.columnOf source columns (rows.set j row) = .ok changed ∧
        ∀ i, i ≠ j → changed.values[i]? = column.values[i]?) := by
  cases h : parse source with
  | error fault =>
    have hcolumn := engine.columnOf_eq_of_error columns rows h
    have hfault := engine.fault_compile_eq_of_error h
    have hvalue := engine.valueOf_eq_of_error columns h (some rows)
    exact ⟨_, hcolumn, List.length_map _, hfault.symm,
      engine.exists_valueOf_of_getElem? source columns rows hvalue, nofun⟩
  | ok f =>
    have hfault := engine.fault_compile_eq h
    have hvalue := engine.valueOf_eq columns h
    refine ⟨_, engine.columnOf_eq columns rows h, List.length_map _, hfault.symm,
      engine.exists_valueOf_of_getElem? source columns rows (hvalue (some rows)), ?_⟩
    rintro _ ⟨⟩ hf
    have hcolumn := fun rows => engine.columnOf_eq_of_isTotalFree columns rows h hf
    rw [engine.valueAt_eq_of_isTotalFree columns hf]
    refine ⟨engine.exists_valueOf_of_getElem? source columns rows (hvalue none), ?_, ?_⟩
    · intro others
      exact ⟨_, _, hcolumn others, hcolumn (rows ++ others), List.map_append⟩
    · intro j row
      refine ⟨_, hcolumn (rows.set j row), ?_⟩
      intro i hi
      rw [List.getElem?_map, List.getElem?_map, List.getElem?_set_ne hi.symm]

end Engine

/-! ## What is not referred to -/

section

variable {source : String} {columns columns' : List Column} {rows rows' : List Row}

/-- A check looks at the references of a formula only. -/
lemma check_eq_of_find?_eq {f : Formula}
    (h : ∀ name ∈ f.references, Column.find? columns' name = Column.find? columns name) :
    f.check columns' = f.check columns := by
  have hnode : ∀ node ∈ f.nodes 1, node.finding? columns' = node.finding? columns := by
    rintro ⟨_ | name, level⟩ hnode
    · rfl
    · have hname : name ∈ f.references := by
        rw [references_eq f 1]
        exact List.mem_filterMap.mpr ⟨_, hnode, rfl⟩
      have hunknown : Unknown columns' name ↔ Unknown columns name := by
        rw [Unknown, Unknown, h name hname]
      simp only [Node.finding?, hunknown]
  rw [check_eq, check_eq, ← List.head?_filterMap, ← List.head?_filterMap,
    List.filterMap_congr hnode]

/-- In tables that agree on the references of a formula, it has the same outcomes. -/
lemma eval_top_eq_of_agreeOn {f : Formula}
    (hcolumns : ∀ name ∈ f.references, Column.find? columns' name = Column.find? columns name)
    (hrows : List.Forall₂ (Row.AgreeOn columns f.references) rows rows') {row row' : Row}
    (hrow : Row.AgreeOn columns f.references row row') (clock : Clock) (limit : Int) :
    f.eval (.top clock limit columns (some rows) row) =
      f.eval (.top clock limit columns' (some rows') row') := by
  have hagree : (Context.top clock limit columns (some rows) row).AgreeOn f.references
      (.top clock limit columns' (some rows') row') :=
    ⟨rfl, rfl, rfl, hcolumns, hrow, .table rfl rfl hrows⟩
  exact eval_eq_of_agreeOn (List.Subset.refl _) hagree

/-- **What is not referred to.**  Columns that do not answer to any reference may be inserted
anywhere, and cells that no reference means may be changed: the computed column, with what is wrong
with the text and all notes, and the finding of a check stay the same. -/
theorem computeColumn_eq_of_agreeOn (engine : Engine)
    (hcolumns : Column.Inserted (fun c => ∀ name ∈ referencesOf source, c.answersTo name = false)
      columns columns')
    (hrows : List.Forall₂ (Row.AgreeOn columns (referencesOf source)) rows rows') :
    engine.computeColumn source rows' (.ok columns') =
      engine.computeColumn source rows (.ok columns) ∧
    checkText source (.ok columns') = checkText source (.ok columns) := by
  cases h : parse source with
  | error fault =>
    have hblank : rows'.map (fun _ => Value.blank) = rows.map fun _ => Value.blank := by
      rw [List.map_const', List.map_const', hrows.length_eq]
    refine ⟨?_, ?_⟩
    · simp only [Engine.computeColumn, Engine.compile, h, hblank]
    · rw [checkText, checkText, h]
  | ok f =>
    rw [referencesOf_eq h] at hcolumns hrows
    have hfind : ∀ name ∈ f.references, Column.find? columns' name = Column.find? columns name :=
      fun name hname => Column.find?_of_inserted hcolumns fun c hc => hc name hname
    have hcells : (rows'.mapIdx fun i row =>
        engine.evaluate columns' (some rows') f row (some i)) =
          rows.mapIdx fun i row => engine.evaluate columns (some rows) f row (some i) := by
      refine List.ext_getElem (by simp [hrows.length_eq]) fun i hi' hi => ?_
      rw [List.length_mapIdx] at hi hi'
      have heval := eval_top_eq_of_agreeOn hfind hrows (hrows.get hi hi') engine.clock
        (depthLimit none)
      rw [List.getElem_mapIdx, List.getElem_mapIdx, Engine.evaluate, Engine.evaluate]
      exact congrArg (engine.settle (some i)) heval.symm
    refine ⟨?_, ?_⟩
    · simp only [Engine.computeColumn, Engine.compile, h, bind, Except.bind, hcells]
    · rw [checkText, checkText, h]
      exact congrArg Except.ok (check_eq_of_find?_eq hfind)

/-- An engine whose clock stands at the beginning of a certain day. -/
def Engine.onDay : Engine :=
  ⟨.atMidnight ⟨2023, 6, 30, by decide⟩, true⟩

/-- Two columns, and rows in which one cell is missing. -/
def smallTable : List Column × List Row :=
  ⟨[⟨"a", "Alpha", .string⟩, ⟨"b", "Beta", .number⟩],
    [[("a", .text "x"), ("b", .integer 7)], [("c", .text "y")]]⟩

/-- The same table with a column before and one between the others, the name of one of them almost
that of another, and with other cells for the columns that are not referred to. -/
def largeTable : List Column × List Row :=
  ⟨[⟨"c", "Gamma", .date⟩, ⟨"a", "Alpha", .string⟩, ⟨"d", "Alphabet", .boolean⟩,
      ⟨"b", "Beta", .number⟩],
    [[("c", .truth true), ("b", .integer 7), ("a", .text "x"), ("Alpha", .blank)], []]⟩

theorem computeColumn_largeTable_eq :
    Column.Inserted
      (fun c => ∀ name ∈ referencesOf "[b] & COUNT([Alpha])", c.answersTo name = false)
      smallTable.1 largeTable.1 ∧
    List.Forall₂ (Row.AgreeOn smallTable.1 (referencesOf "[b] & COUNT([Alpha])"))
      smallTable.2 largeTable.2 ∧
    Engine.onDay.computeColumn "[b] & COUNT([Alpha])" largeTable.2 (.ok largeTable.1) =
      Engine.onDay.computeColumn "[b] & COUNT([Alpha])" smallTable.2 (.ok smallTable.1) := by
  have hreferences : referencesOf "[b] & COUNT([Alpha])" = ["b", "Alpha"] := by decide +kernel
  have hcolumns : Column.Inserted
      (fun c => ∀ name ∈ referencesOf "[b] & COUNT([Alpha])", c.answersTo name = false)
      smallTable.1 largeTable.1 := by
    rw [hreferences]
    exact .insert (by decide) (.keep _ (.insert (by decide) (.keep _ .nil)))
  have hrows : List.Forall₂ (Row.AgreeOn smallTable.1 (referencesOf "[b] & COUNT([Alpha])"))
      smallTable.2 largeTable.2 := by
    rw [hreferences]
    refine .cons ?first (.cons ?second .nil)
    all_goals
      intro name hname column hcolumn
      obtain rfl | rfl : name = "b" ∨ name = "Alpha" := by simpa using hname
      · cases hcolumn
        rfl
      · cases hcolumn
        rfl
  exact ⟨hcolumns, hrows, (computeColumn_eq_of_agreeOn _ hcolumns hrows).1⟩

end

/-! ## Totals -/

/-- **One value.**  If all references of a formula stand in arguments of totals, then its outcome
over a table that is known does not depend on the current row, and its column has one value in all
rows. -/
theorem eval_atRow_eq_and_columnOf_eq_replicate {f : Formula} (hf : f.bareReferences = []) :
    (∀ c : Context, c.table ≠ none → ∀ row₁ row₂, f.eval (c.atRow row₁) = f.eval (c.atRow row₂)) ∧
    ∀ (engine : Engine) (source : String) (columns : List Column) (rows : List Row),
      parse source = .ok f →
        ∃ v, engine.columnOf source columns rows = .ok ⟨List.replicate rows.length v, none⟩ := by
  refine ⟨?_, ?_⟩
  · intro c htable row₁ row₂
    rw [eval_atRow_eq hf htable row₁, eval_atRow_eq hf htable row₂]
  · intro engine source columns rows h
    refine ⟨engine.valueAt columns (some rows) f [], ?_⟩
    have hvalue : ∀ row, engine.valueAt columns (some rows) f row =
        engine.valueAt columns (some rows) f [] := by
      intro row
      have heval := eval_atRow_eq hf
        (c := .top engine.clock (depthLimit none) columns (some rows) [])
        (Option.some_ne_none rows) row
      rw [Engine.valueAt, Engine.valueAt, ← heval]
      rfl
    rw [engine.columnOf_eq columns rows h, funext hvalue, List.map_const']

/-- Totals in a condition and in a branch, and a total in an argument of a total. -/
theorem columnOf_nested_totals_eq :
    (parse "IF(COUNT([a]), SUM([a] + MAX([b])), 'none')").toOption.map bareReferences = some [] ∧
    ∃ v, Engine.onDay.columnOf "IF(COUNT([a]), SUM([a] + MAX([b])), 'none')"
        [⟨"a", "Alpha", .number⟩, ⟨"b", "Beta", .number⟩]
        [[("a", .integer 1), ("b", .integer 2)], [("a", .integer 3)]] =
      .ok ⟨List.replicate 2 v, none⟩ := by
  have hbare : (parse "IF(COUNT([a]), SUM([a] + MAX([b])), 'none')").toOption.map bareReferences =
      some [] := by decide +kernel
  refine ⟨hbare, ?_⟩
  cases h : parse "IF(COUNT([a]), SUM([a] + MAX([b])), 'none')" with
  | error fault =>
    rw [h] at hbare
    cases hbare
  | ok f =>
    rw [h] at hbare
    have hf : f.bareReferences = [] := Option.some.inj hbare
    exact (eval_atRow_eq_and_columnOf_eq_replicate hf).2 Engine.onDay _ _ _ h

end TableFormula
