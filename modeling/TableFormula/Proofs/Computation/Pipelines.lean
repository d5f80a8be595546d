import TableFormula.Proofs.Computation.Totality
import TableFormula.Proofs.Evaluation.Inlining
import TableFormula.Proofs.Evaluation.Origin

/-!
# Columns in sequence

A pipeline adds computed columns to a table, one after the other, and a formula may refer to the
columns before its own.  What comes of it depends on the table at the beginning only: a column has
the values of its *expanded* formula, in which the columns before it are replaced by their formulas,
the latest one first, until none of them is left (`Engine.runPipeline_eq_expansions`).

A step is one application of inlining (`Materialized.eval_eq_eval_inline`).  What a whole run keeps
is that the table has *grown* out of the first one by columns whose formulas had values in all rows
(`Grown.map_eval_eq`).
-/

namespace TableFormula

open Formula

/-! ## What inlining does to a formula -/

namespace Formula

mutual

/-- A reference in a formula with another one inlined is one of the two formulas. -/
lemma mem_references_inline {name : String} {g : Formula} : (f : Formula) → ∀ {reference : String},
    reference ∈ (f.inline name g).references →
      reference ∈ f.references ∨ reference ∈ g.references
  | .number _, _, h | .text _, _, h | .hole, _, h => .inl h
  | .column own, _, h => by
    rw [inline] at h
    split at h
    · exact .inr h
    · exact .inl h
  | .binary _ left right, _, h => by
    rw [inline, references, List.mem_append] at h
    rw [references, List.mem_append]
    obtain h | h := h
    · exact (mem_references_inline left h).imp_left .inl
    · exact (mem_references_inline right h).imp_left .inr
  | .unary _ operand, _, h => mem_references_inline operand h
  | .call _ args, _, h => mem_referencesAll_inline args h
  | .choose condition whenTrue whenFalse, _, h => by
    simp only [inline, references, List.mem_append] at h
    simp only [references, List.mem_append]
    obtain (h | h) | h := h
    · exact (mem_references_inline condition h).imp_left (.inl ∘ .inl)
    · exact (mem_references_inline whenTrue h).imp_left (.inl ∘ .inr)
    · exact (mem_references_inline whenFalse h).imp_left .inr

lemma mem_referencesAll_inline {name : String} {g : Formula} : (args : List Formula) →
    ∀ {reference : String}, reference ∈ referencesAll (inlineAll args name g) →
      reference ∈ referencesAll args ∨ reference ∈ g.references
  | [], _, h => .inl h
  | f :: rest, _, h => by
    rw [inlineAll, referencesAll, List.mem_append] at h
    rw [referencesAll, List.mem_append]
    obtain h | h := h
    · exact (mem_references_inline f h).imp_left .inl
    · exact (mem_referencesAll_inline rest h).imp_left .inr

end

mutual

/-- Inlining makes no formula lower. -/
lemma height_le_height_inline (name : String) (g : Formula) : (f : Formula) →
    f.height ≤ (f.inline name g).height
  | .number _ | .text _ | .hole => Nat.le_refl _
  | .column own => by
    rw [inline]
    split
    · exact g.one_le_height
    · exact Nat.le_refl _
  | .binary _ left right => by
    have hleft := height_le_height_inline name g left
    have hright := height_le_height_inline name g right
    rw [inline, height, height]
    omega
  | .unary _ operand => Nat.succ_le_succ (height_le_height_inline name g operand)
  | .call _ args => Nat.succ_le_succ (heightAll_le_heightAll_inline name g args)
  | .choose condition whenTrue whenFalse => by
    have hcondition := height_le_height_inline name g condition
    have hwhenTrue := height_le_height_inline name g whenTrue
    have hwhenFalse := height_le_height_inline name g whenFalse
    rw [inline, height, height]
    omega

lemma heightAll_le_heightAll_inline (name : String) (g : Formula) : (args : List Formula) →
    heightAll args ≤ heightAll (inlineAll args name g)
  | [] => Nat.le_refl _
  | f :: rest => by
    have hfirst := height_le_height_inline name g f
    have hrest := heightAll_le_heightAll_inline name g rest
    rw [inlineAll, heightAll, heightAll]
    omega

end

end Formula

/-! ## Plans -/

/-- A step whose text is read as a formula. -/
structure Planned extends PipelineStep where
  formula : Formula
  reads : parse source = .ok formula

namespace Planned

/-- The column that the step adds. -/
def column (p : Planned) (type : ColumnType) : Column :=
  ⟨p.id, p.name, type⟩

/-- Whether a reference means the column of a step ignoring case, whatever type it has. -/
def answersTo (p : Planned) (reference : String) : Bool :=
  (p.column .string).answersTo reference

/-- A formula refers to the column of a step by its identifier, or not at all. -/
def IsUsedById (p : Planned) (f : Formula) : Prop :=
  ∀ name ∈ f.references, name ≠ p.id → p.answersTo name = false

lemma IsUsedById.inline {p q : Planned} {f : Formula} (hf : p.IsUsedById f)
    (hq : p.IsUsedById q.formula) : p.IsUsedById (f.inline q.id q.formula) := by
  intro name hname
  obtain h | h := mem_references_inline f hname
  · exact hf name h
  · exact hq name h

end Planned

/-- A formula with the columns of earlier steps, the latest one first, replaced by their formulas.
-/
def Formula.expand (f : Formula) : List Planned → Formula
  | [] => f
  | q :: earlier => (f.inline q.id q.formula).expand earlier

lemma Formula.height_le_height_expand (f : Formula) (earlier : List Planned) :
    f.height ≤ (f.expand earlier).height := by
  induction earlier generalizing f with
  | nil => exact Nat.le_refl _
  | cons q earlier ih => exact (height_le_height_inline q.id q.formula f).trans (ih _)

/-! ## Grown tables -/

section

variable {clock : Clock} {limit : Int} {columns columns' : List Column} {rows rows' : List Row}
  {earlier : List Planned}

/-- A table that has grown out of another one by the columns of some steps, the latest one first.
Every formula had a value in all rows of the table that it was computed in. -/
inductive Grown (clock : Clock) (limit : Int) (columns : List Column) (rows : List Row) :
    List Planned → List Column → List Row → Prop
  | start : Grown clock limit columns rows [] columns rows
  | add {earlier : List Planned} {columns' : List Column} {rows' : List Row} {p : Planned}
      {type : ColumnType} {values : List Value}
      (table : Grown clock limit columns rows earlier columns' rows')
      (fresh : ∀ c ∈ columns', c.answersTo p.id = false)
      (independent : ∀ name ∈ p.formula.references, p.answersTo name = false)
      (byId : ∀ q ∈ earlier, q.IsUsedById p.formula)
      (computed : rows'.mapM (fun row =>
        p.formula.eval (.top clock limit columns' (some rows') row)) = .ok values) :
      Grown clock limit columns rows (p :: earlier) (columns' ++ [p.column type])
        (writeColumn p.id rows' values)

/-- A formula has the outcomes in a grown table that its expansion has in the first one. -/
lemma Grown.map_eval_eq (h : Grown clock limit columns rows earlier columns' rows') {f : Formula}
    (hf : ∀ q ∈ earlier, q.IsUsedById f) {room : Int} (hroom : (f.expand earlier).height ≤ room) :
    rows'.map (fun row => f.eval (.top clock room columns' (some rows') row)) =
      rows.map (fun row => (f.expand earlier).eval (.top clock room columns (some rows) row)) := by
  induction h generalizing f with
  | start => rfl
  | @add earlier columns' rows' p type values table fresh independent byId computed ih =>
    obtain ⟨hp, hearlier⟩ := List.forall_mem_cons.mp hf
    let m : Materialized := ⟨columns', rows', clock, p.column type, p.formula, limit, values, fresh,
      independent, computed⟩
    have hlower : (f.inline p.id p.formula).height ≤ room :=
      (Int.ofNat_le.mpr (height_le_height_expand _ earlier)).trans hroom
    have hinlined : ∀ q ∈ earlier, q.IsUsedById (f.inline p.id p.formula) := fun q hq =>
      (hearlier q hq).inline (byId q hq)
    have hstep : m.newRows.map (fun row => f.eval (m.after room row)) =
        rows'.map (fun row => (f.inline p.id p.formula).eval (m.before room row)) :=
      map_eq_map_iff_forall₂.mpr
        (m.forall₂_newRows.imp fun _ _ => m.eval_eq_eval_inline hp hlower)
    exact hstep.trans (ih hinlined hroom)

/-- The columns of a grown table are those of the first one and those of the steps. -/
lemma Grown.mem_columns (h : Grown clock limit columns rows earlier columns' rows') {c : Column}
    (hc : c ∈ columns') : c ∈ columns ∨ ∃ q ∈ earlier, ∃ type, c = q.column type := by
  induction h with
  | start => exact .inl hc
  | @add earlier columns' rows' p type values table fresh independent byId computed ih =>
    obtain hc | hc := List.mem_append.mp hc
    · refine (ih hc).imp_right ?_
      rintro ⟨q, hq, hcolumn⟩
      exact ⟨q, List.mem_cons_of_mem _ hq, hcolumn⟩
    · exact .inr ⟨p, List.mem_cons_self, type, List.mem_singleton.mp hc⟩

end

/-! ## Whole runs -/

/-- The expanded formulas of some steps behind earlier ones. -/
def expansions : List Planned → List Planned → List Formula
  | _, [] => []
  | earlier, p :: rest => p.formula.expand earlier :: expansions (p :: earlier) rest

namespace Engine

variable (engine : Engine) (columns : List Column) (rows : List Row)

/-- The context of a row of a table. -/
def inTable (row : Row) : Context :=
  .top engine.clock (depthLimit none) columns (some rows) row

/-- A step fits in behind earlier ones: no column answers to its identifier, its formula refers to
earlier columns by their identifiers and not to its own, and the expanded formula, for which there
is room, has a value in every row of the table. -/
structure Fits (earlier : List Planned) (p : Planned) : Prop where
  fresh : ∀ c ∈ columns, c.answersTo p.id = false
  new : ∀ q ∈ earlier, q.answersTo p.id = false
  independent : ∀ name ∈ p.formula.references, p.answersTo name = false
  byId : ∀ q ∈ earlier, q.IsUsedById p.formula
  room : (p.formula.expand earlier).height ≤ depthLimit none
  valued : ∀ row ∈ rows, ∃ v, (p.formula.expand earlier).eval (engine.inTable columns rows row) =
    .ok v

/-- Every step of a plan fits in behind those before it. -/
def FitAll : List Planned → List Planned → Prop
  | _, [] => True
  | earlier, p :: rest => engine.Fits columns rows earlier p ∧ FitAll (p :: earlier) rest

/-- What a step finds has the values of a formula in the rows of a table. -/
def HasValues (f : Formula) (result : StepResult) : Prop :=
  result.column.fault = none ∧
    rows.map (fun row => f.eval (engine.inTable columns rows row)) =
      result.column.values.map .ok

/-- The outcome of a run: what every step finds has the values of its formula, unless there is no
type to suggest for one of them. -/
def FindsValues (formulas : List Formula) : Except InferenceFault (List StepResult) → Prop
  | .ok results => List.Forall₂ (engine.HasValues columns rows) formulas results
  | .error fault => ∃ cause, fault = .value cause

variable {engine columns rows}

lemma FindsValues.cons {f : Formula} {result : StepResult} {formulas : List Formula}
    {outcome : Except InferenceFault (List StepResult)}
    (hfirst : engine.HasValues columns rows f result)
    (h : engine.FindsValues columns rows formulas outcome) :
    engine.FindsValues columns rows (f :: formulas) (outcome.map (result :: ·)) := by
  cases outcome with
  | error fault => exact h
  | ok results => exact List.Forall₂.cons hfirst h

/-- A step finds the values of its formula, or there is no type to suggest. -/
lemma runStep_cases {values : List Value} (p : Planned)
    (h : rows.mapM (fun row => p.formula.eval (engine.inTable columns rows row)) = .ok values) :
    (∃ finding type, engine.runStep rows (.ok columns) p.toPipelineStep =
      .ok ⟨finding, type, ⟨values, none⟩⟩) ∨
    ∃ cause, engine.runStep rows (.ok columns) p.toPipelineStep = .error (.value cause) := by
  obtain ⟨notes, hcolumn⟩ := engine.computeColumn_eq_ok p.source columns rows p.reads
  have hvalues : rows.map (engine.valueAt columns (some rows) p.formula) = values := by
    rw [← List.forall₂_eq_eq_eq, List.forall₂_map_left_iff]
    refine (forall₂_of_mapM h).imp fun row v hv => ?_
    have hvalue : p.formula.eval (.top engine.clock (depthLimit none) columns (some rows) row) =
        .ok v := hv
    rw [valueAt, hvalue]
  have hcheck : checkText p.source (.ok columns) = .ok (p.formula.check columns) := by
    rw [checkText, p.reads]
    rfl
  rw [runStep, hcheck, hcolumn, hvalues]
  cases htype : engine.inferType p.source (.ok columns) rows none with
  | ok type => exact .inl ⟨p.formula.check columns, type, rfl⟩
  | error fault =>
    obtain ⟨-, f, cause, -, rfl, -⟩ :=
      (engine.inferType_eq_error_iff p.source columns rows none fault).mp htype
    exact .inr ⟨cause, rfl⟩

/-- A run whose first step succeeds goes on with the table that the step leaves behind. -/
lemma runPipeline_cons_of_ok {step : PipelineStep} {result : StepResult}
    (h : engine.runStep rows (.ok columns) step = .ok result) (rest : List PipelineStep) :
    engine.runPipeline rows (.ok columns) (step :: rest) =
      (engine.runPipeline (writeColumn step.id rows result.column.values)
        (.ok (columns ++ [⟨step.id, step.name, result.type⟩])) rest).map (result :: ·) := by
  rw [runPipeline, h]
  rfl

lemma runPipeline_cons_of_error {step : PipelineStep} {fault : InferenceFault}
    (h : engine.runStep rows (.ok columns) step = .error fault) (rest : List PipelineStep) :
    engine.runPipeline rows (.ok columns) (step :: rest) = .error fault := by
  rw [runPipeline, h]
  rfl

/-- In a table that has grown by the steps before it, a plan finds the values of its expansions. -/
lemma findsValues_of_grown {earlier plan : List Planned} {columns' : List Column}
    {rows' : List Row}
    (hgrown : Grown engine.clock (depthLimit none) columns rows earlier columns' rows')
    (hplan : engine.FitAll columns rows earlier plan) :
    engine.FindsValues columns rows (expansions earlier plan)
      (engine.runPipeline rows' (.ok columns') (plan.map (·.toPipelineStep))) := by
  induction plan generalizing earlier columns' rows' with
  | nil => exact .nil
  | cons p rest ih =>
    obtain ⟨hp, hrest⟩ := hplan
    have hfresh : ∀ c ∈ columns', c.answersTo p.id = false := by
      intro c hc
      obtain hc | ⟨q, hq, type, rfl⟩ := hgrown.mem_columns hc
      · exact hp.fresh c hc
      · exact hp.new q hq
    -- the values are those of the expanded formula, so the step finds them
    obtain ⟨values, hvalues, -⟩ := exists_mapM_eq_ok hp.valued
    have hvalues := mapM_eq_ok_iff_map.mp hvalues
    have hhere : rows'.mapM (fun row => p.formula.eval (engine.inTable columns' rows' row)) =
        .ok values := mapM_eq_ok_iff_map.mpr ((hgrown.map_eval_eq hp.byId hp.room).trans hvalues)
    obtain ⟨finding, type, hstep⟩ | ⟨cause, hstep⟩ := runStep_cases p hhere
    · have hnext : Grown engine.clock (depthLimit none) columns rows (p :: earlier)
          (columns' ++ [p.column type]) (writeColumn p.id rows' values) :=
        .add hgrown hfresh hp.independent hp.byId hhere
      rw [List.map_cons, runPipeline_cons_of_ok hstep]
      exact (ih hnext hrest).cons ⟨rfl, hvalues⟩
    · rw [List.map_cons, runPipeline_cons_of_error hstep]
      exact ⟨cause, rfl⟩

/-- **Columns in sequence.**  In a run of planned steps that fit in one behind the other, every step
finds the values that its expanded formula has in the table at the beginning.  The run fails only
where no type can be suggested for a step. -/
theorem runPipeline_eq_expansions {plan : List Planned}
    (hplan : engine.FitAll columns rows [] plan) :
    engine.FindsValues columns rows (expansions [] plan)
      (engine.runPipeline rows (.ok columns) (plan.map (·.toPipelineStep))) :=
  findsValues_of_grown .start hplan

example : (Engine.runPipeline ⟨Materialized.filled.clock, false⟩ Materialized.filled.rows
    (.ok Materialized.filled.columns) [⟨"k", "Filled", "COALESCE([b], COUNT([beta]))"⟩,
      ⟨"t", "Twice", "[k] & [k]"⟩]).toOption.map (·.map (·.column.values.map Value.shown)) =
    some [["x", "1"], ["xx", "11"]] := by decide +kernel

end Engine

end TableFormula
