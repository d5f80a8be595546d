import Mathlib.Data.List.Basic
import TableFormula.Calendar.Everyday.Reader
import TableFormula.Proofs.Computation.Totality

/-!
# Notes on a computed column

An engine that takes notes computes the same columns as one that takes none.  What it notes is
settled by the formula and the table alone.

* **A text that cannot be read** is noted once, with the text and what is wrong with it.
* **A row in which the evaluation fails** is noted once, with its place and the cause.  Totals
  evaluate their arguments in every row of the table, and none of these evaluations is noted: only
  the evaluation of the whole formula is.
* **A row with a value** is not noted, even if the value is blank.

`failures` lists the rows of the second kind.  Its members and its order determine it, so the notes
are known exactly.
-/

namespace TableFormula

open Formula

namespace Engine

variable (engine : Engine) (columns : List Column) (rows : List Row) (f : Formula)

/-! ## Rows without a value -/

/-- Why a formula has no value in a row, where it has none. -/
def faultAt (table : Option (List Row)) (row : Row) : Option Fault :=
  match f.eval (.top engine.clock (depthLimit none) columns table row) with
  | .ok _ => none
  | .error fault => some fault

/-- The places of the rows in which a formula has no value, each with the cause, in the order of the
table. -/
def failures : List (Nat × Fault) :=
  rows.zipIdx.filterMap fun p => (engine.faultAt columns f (some rows) p.1).map (p.2, ·)

section

variable {columns rows f}

lemma faultAt_eq_some_iff {table : Option (List Row)} {row : Row} {fault : Fault} :
    engine.faultAt columns f table row = some fault ↔
      f.eval (.top engine.clock (depthLimit none) columns table row) = .error fault := by
  rw [faultAt]
  cases f.eval (.top engine.clock (depthLimit none) columns table row) <;> simp

/-- A place is listed with a cause exactly if the evaluation fails there for that cause. -/
lemma mem_failures_iff {i : Nat} {fault : Fault} : (i, fault) ∈ engine.failures columns rows f ↔
    ∃ row, rows[i]? = some row ∧
      f.eval (.top engine.clock (depthLimit none) columns (some rows) row) = .error fault := by
  simp only [failures, List.mem_filterMap, Option.map_eq_some_iff, faultAt_eq_some_iff]
  constructor
  · rintro ⟨⟨row, j⟩, hrow, cause, hcause, ⟨⟩⟩
    exact ⟨row, List.mk_mem_zipIdx_iff_getElem?.mp hrow, hcause⟩
  · rintro ⟨row, hrow, hfault⟩
    exact ⟨(row, i), List.mk_mem_zipIdx_iff_getElem?.mpr hrow, fault, hfault, rfl⟩

end

/-- The places are listed from the top of the table downwards, none of them twice. -/
lemma pairwise_failures : (engine.failures columns rows f).Pairwise fun p q => p.1 < q.1 := by
  have hplaces : rows.zipIdx.Pairwise fun p q => p.2 < q.2 := by
    rw [← List.pairwise_map, List.zipIdx_map_snd]
    exact List.pairwise_lt_range'
  refine List.Pairwise.filterMap _ ?_ hplaces
  intro p q hpq a ha b hb
  obtain ⟨fault, -, rfl⟩ := Option.map_eq_some_iff.mp ha
  obtain ⟨fault', -, rfl⟩ := Option.map_eq_some_iff.mp hb
  exact hpq

/-! ## Notes -/

/-- An evaluation is noted if it fails, and only then. -/
lemma notes_evaluate (table : Option (List Row)) (row : Row) (index : Option Nat) :
    (engine.evaluate columns table f row index).notes =
      engine.wanted ((engine.faultAt columns f table row).toList.map (.failed index)) := by
  rw [evaluate, faultAt]
  cases f.eval (.top engine.clock (depthLimit none) columns table row) with
  | ok v => cases hdebug : engine.debug <;> simp [settle, wanted, hdebug]
  | error fault => rfl

/-- Notes that are wanted one by one are wanted together. -/
lemma flatMap_wanted {α : Type} (as : List α) (notes : α → List Note) :
    as.flatMap (fun a => engine.wanted (notes a)) = engine.wanted (as.flatMap notes) := by
  cases hdebug : engine.debug <;> simp [wanted, hdebug]

/-- The cells of a column leave the notes on its failures. -/
lemma flatMap_notes_evaluate :
    (rows.mapIdx fun i row =>
      engine.evaluate columns (some rows) f row (some i)).flatMap (·.notes) =
        engine.wanted ((engine.failures columns rows f).map fun p => .failed (some p.1) p.2) := by
  rw [List.mapIdx_eq_zipIdx_map, List.flatMap_map]
  simp only [notes_evaluate, flatMap_wanted]
  congr 1
  rw [failures, List.map_filterMap, List.filterMap_eq_flatMap_toList]
  congr 1
  funext p
  cases engine.faultAt columns f (some rows) p.1 <;> rfl

variable {source : String} {f : Formula}

/-- A column of a formula with all its notes. -/
lemma computeColumn_eq (h : parse source = .ok f) :
    engine.computeColumn source rows (.ok columns) =
      .ok ⟨⟨rows.map (engine.valueAt columns (some rows) f), none⟩,
        engine.wanted ((engine.failures columns rows f).map fun p => .failed (some p.1) p.2)⟩ := by
  rw [← flatMap_notes_evaluate, ← map_result_evaluate, computeColumn, compile, h]
  rfl

/-- A column of a text that cannot be read, with its note. -/
lemma computeColumn_eq_of_error {fault : SyntaxFault} (h : parse source = .error fault) :
    engine.computeColumn source rows (.ok columns) =
      .ok ⟨⟨rows.map fun _ => .blank, some fault⟩, engine.wanted [.unreadable source fault]⟩ := by
  rw [computeColumn, compile, h]

/-- A row in which a formula has no value is blank in its column. -/
lemma getElem?_map_valueAt_of_mem_failures {p : Nat × Fault}
    (h : p ∈ engine.failures columns rows f) :
    (rows.map (engine.valueAt columns (some rows) f))[p.1]? = some .blank := by
  obtain ⟨row, hrow, hfault⟩ := engine.mem_failures_iff.mp h
  have hvalue : engine.valueAt columns (some rows) f row = .blank := by
    rw [valueAt, hfault]
  rw [List.getElem?_map, hrow, Option.map_some, hvalue]

/-- **Exact notes.**  A column is the same with and without notes, and without them nothing is
noted.  A text that cannot be read is noted once, and the column names the same fault.  For a
formula there is one note for every row in which its evaluation fails, with the place of the row and
the cause, from the top of the table downwards; the column is blank there, and no other row is
noted. -/
theorem computeColumn_with_and_without_notes (clock : Clock) (source : String)
    (columns : List Column) (rows : List Row) : ∃ column notes,
      (Engine.mk clock false).computeColumn source rows (.ok columns) = .ok ⟨column, []⟩ ∧
      (Engine.mk clock true).computeColumn source rows (.ok columns) = .ok ⟨column, notes⟩ ∧
      (∀ fault, parse source = .error fault →
        column.fault = some fault ∧ notes = [.unreadable source fault]) ∧
      ∀ f, parse source = .ok f → column.fault = none ∧ ∃ failures : List (Nat × Fault),
        notes = failures.map (fun p => .failed (some p.1) p.2) ∧
        failures.Pairwise (fun p q => p.1 < q.1) ∧
        (∀ i fault, (i, fault) ∈ failures ↔ ∃ row, rows[i]? = some row ∧
          f.eval (.top clock (depthLimit none) columns (some rows) row) = .error fault) ∧
        ∀ p ∈ failures, column.values[p.1]? = some .blank := by
  let engine : Engine := ⟨clock, true⟩
  cases h : parse source with
  | error fault =>
    refine ⟨_, _, computeColumn_eq_of_error _ columns rows h,
      engine.computeColumn_eq_of_error columns rows h, ?_, nofun⟩
    rintro _ ⟨⟩
    exact ⟨rfl, rfl⟩
  | ok f =>
    refine ⟨_, _, computeColumn_eq _ columns rows h, engine.computeColumn_eq columns rows h,
      nofun, ?_⟩
    rintro _ ⟨⟩
    refine ⟨rfl, engine.failures columns rows f, rfl, engine.pairwise_failures columns rows f,
      ?_, ?_⟩
    · exact fun i fault => engine.mem_failures_iff
    · exact fun p hp => engine.getElem?_map_valueAt_of_mem_failures columns rows hp

/-- The row in the middle has a blank value, and the others have none. -/
example : (computeColumn ⟨.atMidnight ⟨2023, 6, 30, by decide⟩, true⟩
    "IF([a] = 0, 1 / [a], [b])" [[("a", .integer 0)], [("a", .integer 1)], [("a", .float 0.0)]]
      (.ok [⟨"a", "Alpha", .number⟩, ⟨"b", "Beta", .number⟩])).toOption.map (·.notes) =
    some [.failed (some 0) .divisionByZero, .failed (some 2) .divisionByZero] := by
  decide +kernel

end Engine

end TableFormula
