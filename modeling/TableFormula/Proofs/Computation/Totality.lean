import TableFormula.Computation.Inference
import TableFormula.Proofs.Calendar.Days
import TableFormula.Proofs.Evaluation.References

/-!
# What always has an answer

Computing with formulas is meant never to fail: a formula that cannot be read and a value that
cannot be computed have answers of their own.  Evaluations keep to that for all texts, rows and
columns.  Two other entry points do not, and this module says exactly where.

* A **check** walks a formula without a guard, so it gives up where a walk runs too deep.
* A **suggested type** looks at the values after they have been computed.  It asks them whether they
  are truth values and whether they are dates, one after the other, and each question has values
  that it cannot be asked of: a signalling decimal cannot be compared with zero, and the moment of a
  text may lie outside the calendar.

Whether such a value does harm depends on its place.  A question is put to a value only if all
values before it have answered yes, and only if the questions before it have been answered with no.
-/

namespace TableFormula

open Formula Number Text

/-! ## Asking every value -/

section

variable {α : Type} {test : α → Except Fault Bool} {as : List α}

lemma allM_cons_of_true {a : α} (h : test a = .ok true) : (a :: as).allM test = as.allM test := by
  rw [List.allM_cons, h]
  rfl

lemma allM_cons_of_false {a : α} (h : test a = .ok false) : (a :: as).allM test = .ok false := by
  rw [List.allM_cons, h]
  rfl

/-- A question to all values fails at the first one that does not answer yes. -/
lemma allM_eq_error_iff {fault : Fault} :
    as.allM test = .error fault ↔ ∃ before a after, as = before ++ a :: after ∧
      (∀ earlier ∈ before, test earlier = .ok true) ∧ test a = .error fault := by
  induction as with
  | nil => simp [List.allM, pure, Except.pure]
  | cons a as ih =>
    constructor
    · intro h
      cases htest : test a with
      | error other =>
        rw [List.allM_cons, htest] at h
        cases h
        exact ⟨[], a, as, rfl, List.forall_mem_nil _, htest⟩
      | ok answer =>
        cases answer with
        | false =>
          rw [allM_cons_of_false htest] at h
          cases h
        | true =>
          rw [allM_cons_of_true htest] at h
          obtain ⟨before, b, after, rfl, hbefore, hb⟩ := ih.mp h
          exact ⟨a :: before, b, after, rfl, List.forall_mem_cons.mpr ⟨htest, hbefore⟩, hb⟩
    · rintro ⟨before, b, after, has, hbefore, hb⟩
      cases before with
      | nil =>
        cases has
        rw [List.allM_cons, hb]
        rfl
      | cons first before =>
        cases has
        obtain ⟨hfirst, hbefore⟩ := List.forall_mem_cons.mp hbefore
        rw [allM_cons_of_true hfirst]
        exact ih.mpr ⟨before, b, after, rfl, hbefore, hb⟩

end

/-! ## Values that a question cannot be put to -/

namespace Value

variable {reader : Everyday.Reader}

/-- A text in the international format whose moment, in universal time, lies outside the
calendar. -/
def LeavesCalendar (s : String) : Prop :=
  ∃ written offset, Iso.read? (expandZulu (trim s.toList)) = some written ∧
    written.offset = some offset ∧
      ¬ (0 ≤ written.moment.instant - offset.micros ∧
        written.moment.instant - offset.micros < microCount)

/-- A text outside the international format, with an hour or a minute that is too long to be worked
with. -/
def TooLongClock (reader : Everyday.Reader) (s : String) : Prop :=
  Iso.read? (expandZulu (trim s.toList)) = none ∧
    reader.read (trim s.toList) = .error .tooManyDigits

/-- Why a text cannot be asked whether it is a date. -/
def Unreadable (reader : Everyday.Reader) (s : String) (fault : Fault) : Prop :=
  fault = .outOfRange .calendar ∧ LeavesCalendar s ∨
    fault = .tooManyDigits ∧ TooLongClock reader s

/-- The texts that cannot be asked whether they are dates. -/
lemma momentOfText_eq_error_iff (s : String) (fault : Fault) :
    momentOfText reader s = .error fault ↔ Unreadable reader s fault := by
  rw [Unreadable, LeavesCalendar, TooLongClock]
  cases htrim : trim s.toList with
  | nil =>
    have hread : Iso.read? (expandZulu []) = none := rfl
    simp [momentOfText, htrim, hread, reader.read_nil]
  | cons c cs =>
    cases hread : Iso.read? (expandZulu (c :: cs)) with
    | none =>
      have hmoment : momentOfText reader s = reader.read (c :: cs) := by
        simp [momentOfText, htrim, hread]
      rw [hmoment]
      constructor
      · intro h
        obtain rfl := reader.eq_tooManyDigits h
        exact .inr ⟨rfl, rfl, h⟩
      · rintro (⟨-, written, offset, hnone, -⟩ | ⟨rfl, -, h⟩)
        · cases hnone
        · exact h
    | some written =>
      have hmoment : momentOfText reader s = written.toUniversal.map some := by
        simp [momentOfText, htrim, hread]
      have hmap : momentOfText reader s = .error fault ↔ written.toUniversal = .error fault := by
        rw [hmoment]
        cases written.toUniversal <;> simp [Except.map]
      rw [hmap, Stamp.toUniversal_eq_error_iff]
      simp

/-- The values that cannot be asked whether they are truth values are the signalling decimals. -/
lemma isBoolean_eq_error_iff (v : Value) (fault : Fault) :
    v.isBoolean = .error fault ↔
      fault = .signalling ∧ ∃ negative payload, v = .decimal (.nan negative true payload) := by
  cases v with
  | decimal d =>
    match d with
    | .finite _ digits _ =>
      cases hzero : digits == 0 <;>
        simp [isBoolean, Decimal.isZero, Decimal.isOne, hzero, bind, pure, Except.bind, Except.pure]
    | .infinite _ | .nan _ false _ =>
      simp [isBoolean, Decimal.isZero, Decimal.isOne, bind, Except.bind]
    | .nan _ true _ =>
      simp [isBoolean, Decimal.isZero, bind, Except.bind, eq_comm]
  | _ => simp [isBoolean]

/-- The values that cannot be asked whether they are dates are texts. -/
lemma isDate_eq_error_iff (v : Value) (fault : Fault) :
    v.isDate reader = .error fault ↔ ∃ s, v = .text s ∧ Unreadable reader s fault := by
  cases v with
  | text s =>
    simp only [isDate, text.injEq, exists_eq_left', ← momentOfText_eq_error_iff]
    cases momentOfText reader s <;> simp [Except.map]
  | _ => simp [isDate]

/-- A date is no truth value. -/
lemma isBoolean_of_isDate {v : Value} (h : v.isDate reader = .ok true) :
    v.isBoolean = .ok false := by
  cases v <;> first | rfl | cases h

end Value

/-! ## Suggesting a type -/

/-- **The exact condition.**  For some values no type can be suggested: a signalling decimal among
them cannot be compared, and all values before it can stand for truth values, but not all others are
numbers; or a text among them cannot be asked whether it is a date, and all values before it are
dates. -/
inductive Unclassifiable (reader : Everyday.Reader) (values : List Value) : Fault → Prop
  | signalling {before after : List Value} {negative : Bool} {payload : Nat}
      (hvalues : values = before ++ .decimal (.nan negative true payload) :: after)
      (hbefore : ∀ v ∈ before, v.isBoolean = .ok true)
      (hother : ∃ v ∈ before ++ after, v.isNumber = false) :
      Unclassifiable reader values .signalling
  | unreadable {before after : List Value} {s : String} {fault : Fault}
      (hvalues : values = before ++ .text s :: after)
      (hbefore : ∀ v ∈ before, v.isDate reader = .ok true)
      (hs : Value.Unreadable reader s fault) : Unclassifiable reader values fault

namespace ColumnType

variable {reader : Everyday.Reader} {values : List Value} {fault : Fault}

lemma allM_isBoolean_eq_error_iff : values.allM Value.isBoolean = .error fault ↔
    fault = .signalling ∧ ∃ before negative payload after,
      values = before ++ .decimal (.nan negative true payload) :: after ∧
        ∀ v ∈ before, v.isBoolean = .ok true := by
  simp only [allM_eq_error_iff, Value.isBoolean_eq_error_iff]
  constructor
  · rintro ⟨before, v, after, hvalues, hbefore, rfl, negative, payload, rfl⟩
    exact ⟨rfl, before, negative, payload, after, hvalues, hbefore⟩
  · rintro ⟨rfl, before, negative, payload, after, hvalues, hbefore⟩
    exact ⟨before, _, after, hvalues, hbefore, rfl, negative, payload, rfl⟩

lemma allM_isDate_eq_error_iff : values.allM (Value.isDate reader) = .error fault ↔
    ∃ before s after, values = before ++ .text s :: after ∧
      (∀ v ∈ before, v.isDate reader = .ok true) ∧ Value.Unreadable reader s fault := by
  simp only [allM_eq_error_iff, Value.isDate_eq_error_iff]
  constructor
  · rintro ⟨before, v, after, hvalues, hbefore, s, rfl, hs⟩
    exact ⟨before, s, after, hvalues, hbefore, hs⟩
  · rintro ⟨before, s, after, hvalues, hbefore, hs⟩
    exact ⟨before, _, after, hvalues, hbefore, s, rfl, hs⟩

/-- Values that begin with a text or a date are no truth values. -/
lemma allM_isBoolean_of_dates {before after : List Value} {s : String}
    (hbefore : ∀ v ∈ before, v.isDate reader = .ok true) :
    (before ++ .text s :: after).allM Value.isBoolean = .ok false := by
  cases before with
  | nil => exact allM_cons_of_false rfl
  | cons v before =>
    exact allM_cons_of_false (Value.isBoolean_of_isDate (hbefore v List.mem_cons_self))

/-- Asking whether values are numbers never fails. -/
lemma allM_isNumber (values : List Value) :
    values.allM (fun v => (.ok v.isNumber : Except Fault Bool)) =
      .ok (values.all Value.isNumber) := by
  induction values with
  | nil => rfl
  | cons v values ih =>
    cases hv : v.isNumber with
    | true => rw [allM_cons_of_true (by rw [hv]), ih, List.all_cons, hv, Bool.true_and]
    | false => rw [allM_cons_of_false (by rw [hv]), List.all_cons, hv, Bool.false_and]

/-- Values of which no type is suggested are not all numbers. -/
lemma all_isNumber_of_unclassifiable (h : Unclassifiable reader values fault) :
    values.all Value.isNumber = false := by
  obtain ⟨rfl, -, hother⟩ | ⟨rfl, -, -⟩ := h
  · obtain ⟨v, hv, hnumber⟩ := hother
    rw [List.all_eq_false]
    refine ⟨v, ?_, by simp [hnumber]⟩
    obtain hv | hv := List.mem_append.mp hv <;> simp [hv]
  · rw [List.all_eq_false]
    exact ⟨_, List.mem_append_right _ List.mem_cons_self, by simp [Value.isNumber]⟩

/-- The questions are asked one after the other, and the first failure is the last question. -/
lemma firstOf_detectors_eq_error_iff : firstOf values (detectors reader) = .error fault ↔
    values.all Value.isNumber = false ∧ (values.allM Value.isBoolean = .error fault ∨
      values.allM Value.isBoolean = .ok false ∧
        values.allM (Value.isDate reader) = .error fault) := by
  rw [detectors, firstOf, allM_isNumber]
  cases values.all Value.isNumber with
  | true => simp [bind, Except.bind, pure, Except.pure]
  | false =>
    simp only [firstOf, true_and]
    cases values.allM Value.isBoolean with
    | error other => simp [bind, Except.bind]
    | ok allBoolean =>
      cases allBoolean with
      | true => simp [bind, Except.bind, pure, Except.pure]
      | false =>
        cases values.allM (Value.isDate reader) with
        | error other => simp [bind, Except.bind]
        | ok allDates => cases allDates <;> simp [bind, Except.bind, pure, Except.pure]

/-- A signalling decimal does no harm among numbers, which are asked nothing else. -/
lemma unclassifiable_of_isBoolean (hnumber : values.all Value.isNumber = false)
    (h : values.allM Value.isBoolean = .error fault) : Unclassifiable reader values fault := by
  obtain ⟨rfl, before, negative, payload, after, rfl, hbefore⟩ := allM_isBoolean_eq_error_iff.mp h
  refine .signalling rfl hbefore ?_
  obtain ⟨v, hv, hv'⟩ := List.all_eq_false.mp hnumber
  refine ⟨v, ?_, by simpa using hv'⟩
  obtain hv | rfl | hv := by simpa using hv
  · exact List.mem_append_left _ hv
  · exact absurd rfl hv'
  · exact List.mem_append_right _ hv

lemma firstOf_detectors_eq_error_iff_unclassifiable :
    firstOf values (detectors reader) = .error fault ↔ Unclassifiable reader values fault := by
  rw [firstOf_detectors_eq_error_iff]
  constructor
  · rintro ⟨hnumber, hboolean | ⟨-, hdate⟩⟩
    · exact unclassifiable_of_isBoolean hnumber hboolean
    · obtain ⟨before, s, after, hvalues, hbefore, hs⟩ := allM_isDate_eq_error_iff.mp hdate
      exact .unreadable hvalues hbefore hs
  · intro h
    refine ⟨all_isNumber_of_unclassifiable h, ?_⟩
    obtain ⟨hvalues, hbefore, -⟩ | ⟨hvalues, hbefore, hs⟩ := h
    · exact .inl (allM_isBoolean_eq_error_iff.mpr ⟨rfl, _, _, _, _, hvalues, hbefore⟩)
    · -- A text after dates is no truth value, so the last question is put to these values.
      refine .inr ⟨?_, allM_isDate_eq_error_iff.mpr ⟨_, _, _, hvalues, hbefore, hs⟩⟩
      rw [hvalues]
      exact allM_isBoolean_of_dates hbefore

/-- No type is suggested for unclassifiable values, blank ones left out, and for no others. -/
lemma ofValues_eq_error_iff : ofValues reader values = .error fault ↔
    Unclassifiable reader (values.filter (!·.isBlank)) fault := by
  rw [ofValues, ← firstOf_detectors_eq_error_iff_unclassifiable]
  cases values.filter (!·.isBlank) with
  | nil => exact ⟨nofun, nofun⟩
  | cons first others => rfl

example : ofValues reader [.truth true, .decimal (.nan false true 0)] = .error .signalling := by rfl

end ColumnType

/-! ## Answers -/

namespace Engine

variable (engine : Engine) (source : String) (columns : List Column) (rows : List Row)

/-- The value of a formula in a row, blank where it has none. -/
def valueAt (table : Option (List Row)) (f : Formula) (row : Row) : Value :=
  match f.eval (.top engine.clock (depthLimit none) columns table row) with
  | .ok v => v
  | .error _ => .blank

/-- The values in a sample that say something about their type. -/
def sample (f : Formula) (asked : Option Int) : List Value :=
  ((leading (sampleSize asked) rows).map (engine.valueAt columns none f)).filter (!·.isBlank)

lemma result_evaluate (table : Option (List Row)) (f : Formula) (row : Row) (index : Option Nat) :
    (engine.evaluate columns table f row index).result = engine.valueAt columns table f row := by
  rw [evaluate, valueAt]
  cases f.eval (.top engine.clock (depthLimit none) columns table row) <;> rfl

lemma evaluateFormula_eq_ok (table : Option (List Row)) (f : Formula) (row : Row) :
    ∃ notes, engine.evaluateFormula f row (.ok columns) table =
      .ok ⟨engine.valueAt columns table f row, notes⟩ := by
  refine ⟨(engine.evaluate columns table f row none).notes, ?_⟩
  rw [← engine.result_evaluate columns table f row none]
  rfl

/-- The cells of a column hold the values of the formula in its rows. -/
lemma map_result_evaluate (f : Formula) :
    (rows.mapIdx fun i row =>
      engine.evaluate columns (some rows) f row (some i)).map (·.result) =
        rows.map (engine.valueAt columns (some rows) f) := by
  refine List.ext_getElem (by simp) fun i h₁ h₂ => ?_
  simp [result_evaluate]

lemma computeColumn_eq_ok {f : Formula} (h : parse source = .ok f) :
    ∃ notes, engine.computeColumn source rows (.ok columns) =
      .ok ⟨⟨rows.map (engine.valueAt columns (some rows) f), none⟩, notes⟩ := by
  refine ⟨(rows.mapIdx fun i row =>
    engine.evaluate columns (some rows) f row (some i)).flatMap (·.notes), ?_⟩
  rw [← map_result_evaluate, computeColumn, compile, h]
  rfl

/-- A check gives up where a walk of the formula that is read runs too deep. -/
lemma checkText_eq_tooDeep_iff : checkText source (.ok columns) = .ok (some .tooDeep) ↔
    ∃ f, parse source = .ok f ∧ f.RunsTooDeep columns := by
  rw [checkText]
  cases parse source with
  | error fault => simp
  | ok f =>
    have hcheck : (do return f.check (← (.ok columns : GivenColumns)) :
        Except (List Problem) (Option Finding)) = .ok (f.check columns) := rfl
    simp only [hcheck, Except.ok.injEq, exists_eq_left', check_eq_tooDeep_iff]

lemma inferType_eq {f : Formula} (hrows : rows ≠ []) (h : parse source = .ok f)
    (asked : Option Int) : engine.inferType source (.ok columns) rows asked =
      (ColumnType.ofValues engine.clock.everyday ((leading (sampleSize asked) rows).map
        (engine.valueAt columns none f))).mapError .value := by
  have hempty : rows.isEmpty = false := by simpa using hrows
  simp only [inferType, hempty, h, result_evaluate]
  rfl

/-- No type is suggested exactly for samples that are not classifiable. -/
lemma inferType_eq_error_iff (asked : Option Int) (fault : InferenceFault) :
    engine.inferType source (.ok columns) rows asked = .error fault ↔
      rows ≠ [] ∧ ∃ f cause, parse source = .ok f ∧ fault = .value cause ∧
        Unclassifiable engine.clock.everyday (engine.sample columns rows f asked) cause := by
  by_cases hrows : rows = []
  · simp [inferType, hrows]
  · cases h : parse source with
    | error syntaxFault => simp [inferType, hrows, h]
    | ok f =>
      rw [inferType_eq engine source columns rows hrows h]
      simp only [sample, ← ColumnType.ofValues_eq_error_iff, Except.ok.injEq, exists_and_left,
        exists_eq_left']
      generalize (leading (sampleSize asked) rows).map (engine.valueAt columns none f) = values
      cases ColumnType.ofValues engine.clock.everyday values with
      | error cause => simp [Except.mapError, hrows, eq_comm]
      | ok type => simp [Except.mapError]

/-- **Answers.**  A text is read as a formula or as zero with an error text.  The value of a formula
or of a text in a row, and the column that a text gives, are always there: a failed evaluation is
blank, in its own row only, and a text that cannot be read is blank everywhere.  A check fails for
no text; it gives up where a walk runs too deep, and nowhere else.  The type that is suggested is
`string` for a text that cannot be read or without rows; there is none for a sample that is
unclassifiable, and for all others there is one. -/
theorem answers_except_too_deep_or_unclassifiable (asked : Option Int) :
    ((engine.compile source).result = match parse source with
      | .ok f => ⟨f, none⟩
      | .error fault => ⟨.number 0.0, some fault⟩) ∧
    (∀ table f row, ∃ notes, engine.evaluateFormula f row (.ok columns) table =
      .ok ⟨engine.valueAt columns table f row, notes⟩) ∧
    (∀ table row, ∃ notes, engine.evaluateText source row (.ok columns) table =
      .ok ⟨match parse source with
        | .ok f => engine.valueAt columns table f row
        | .error _ => .blank, notes⟩) ∧
    (∃ notes, engine.computeColumn source rows (.ok columns) =
      .ok ⟨match parse source with
        | .ok f => ⟨rows.map (engine.valueAt columns (some rows) f), none⟩
        | .error fault => ⟨rows.map fun _ => .blank, some fault⟩, notes⟩) ∧
    (∃ finding, checkText source (.ok columns) = .ok finding ∧
      (finding = some .tooDeep ↔ ∃ f, parse source = .ok f ∧ f.RunsTooDeep columns)) ∧
    (rows = [] ∨ (∃ fault, parse source = .error fault) →
      engine.inferType source (.ok columns) rows asked = .ok .string) ∧
    (∀ fault, engine.inferType source (.ok columns) rows asked = .error fault ↔
      rows ≠ [] ∧ ∃ f cause, parse source = .ok f ∧ fault = .value cause ∧
        Unclassifiable engine.clock.everyday (engine.sample columns rows f asked) cause) := by
  have hcheck := checkText_eq_tooDeep_iff source columns
  have hinfer := engine.inferType_eq_error_iff source columns rows asked
  refine ⟨?_, fun table f row => engine.evaluateFormula_eq_ok columns table f row, ?_, ?_, ?_, ?_,
    hinfer⟩
  · rw [compile]
    cases parse source <;> rfl
  · intro table row
    rw [evaluateText, compile]
    cases parse source with
    | error fault => exact ⟨_, rfl⟩
    | ok f => exact engine.evaluateFormula_eq_ok columns table f row
  · cases h : parse source with
    | error fault =>
      rw [computeColumn, compile, h]
      exact ⟨_, rfl⟩
    | ok f => exact engine.computeColumn_eq_ok source columns rows h
  · cases h : checkText source (.ok columns) with
    | error problems =>
      rw [checkText] at h
      split at h <;> cases h
    | ok finding =>
      rw [h, Except.ok.injEq] at hcheck
      exact ⟨finding, rfl, hcheck⟩
  · rintro (rfl | ⟨fault, h⟩)
    · rfl
    · rw [inferType, h]
      split_ifs <;> rfl

end Engine

end TableFormula
