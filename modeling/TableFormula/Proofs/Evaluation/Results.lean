import TableFormula.Calendar.Everyday.Reader
import TableFormula.Proofs.Evaluation.Limit

/-!
# What results are made of

Operators and functions make numbers, texts and blanks.  Truth values, decimals, dates and lists are
cells: where a formula has one for its value, it has passed on a cell of the current row, through
choices and through totals without a table.  A total over a table reads what it finds in the rows as
numbers or counts it, so no cell of another row comes out of it (`isPlain_or_isReferredCell`).

`Yields P` says that a computation has values of `P` only.  It is kept by the steps of a computation,
as `FailsWith` is.
-/

namespace TableFormula

variable {α β : Type}

/-! ## Computations with values of one kind -/

/-- A computation has a value of a kind, if it has one. -/
def Yields (P : α → Prop) (x : Except Fault α) : Prop :=
  ∀ a, x = .ok a → P a

namespace Yields

variable {P : β → Prop}

lemma ok {b : β} (h : P b) : Yields P (.ok b) := by
  intro b' hb
  cases hb
  exact h

lemma error (fault : Fault) : Yields P (.error fault) := nofun

/-- Only the last step of a computation matters. -/
lemma bind {x : Except Fault α} {f : α → Except Fault β} (h : ∀ a, Yields P (f a)) :
    Yields P (x >>= f) := by
  cases x with
  | error fault => exact error fault
  | ok a => exact h a

lemma map {x : Except Fault α} {f : α → β} (h : ∀ a, P (f a)) : Yields P (x.map f) := by
  cases x with
  | error fault => exact error fault
  | ok a => exact ok (h a)

lemma ite {c : Prop} [Decidable c] {x y : Except Fault β} (hx : Yields P x) (hy : Yields P y) :
    Yields P (if c then x else y) := by
  split
  · exact hx
  · exact hy

end Yields

/-! ## Plain values -/

/-- Whether a value is one of those that operators and functions make: blank, a text, an integer or
a float. -/
def Value.isPlain : Value → Bool
  | blank | text _ | integer _ | float _ => true
  | truth _ | decimal _ | date _ | stamp _ | list _ => false

/-- A computation of a plain value. -/
abbrev YieldsPlain (x : Except Fault Value) : Prop :=
  Yields (·.isPlain = true) x

lemma Function.isPlain_ofTruth (b : Bool) : (ofTruth b).isPlain = true :=
  rfl

/-! ### Operators -/

lemma Operator.yieldsPlain_apply (op : Operator) (v w : Value) : YieldsPlain (op.apply v w) := by
  have hnumbers : ∀ f : Float → Float → Except Fault Value, (∀ x y, YieldsPlain (f x y)) →
      YieldsPlain (ofNumbers f v w) :=
    fun f hf => .bind fun x => .bind fun y => hf x y
  cases op with
  | join => exact .bind fun s => .bind fun t => .ok rfl
  | equal | unequal => exact .map fun b => Function.isPlain_ofTruth _
  | divide | modulo | power => exact hnumbers _ fun x y => .map fun z => rfl
  | other symbol => exact hnumbers _ fun _ _ => .error _
  | _ => exact hnumbers _ fun _ _ => .ok rfl

lemma Sign.yieldsPlain_apply (sign : Sign) (v : Value) : YieldsPlain (sign.apply v) := by
  cases sign with
  | negate | not => exact .map fun _ => rfl
  | other symbol => exact .error _

/-! ### Functions of values -/

namespace Function

lemma yieldsPlain_roundTo (round : Float → Except Fault Int) (v places : Value) :
    YieldsPlain (roundTo round v places) := by
  refine .bind fun n => .bind fun factor => .bind fun x => ?_
  exact .bind fun whole => .bind fun y => .bind fun z => .ok rfl

lemma yieldsPlain_ofNumber (f : Float → Except Fault Float) (v : Value) :
    YieldsPlain (ofNumber f v) :=
  .bind fun _ => .bind fun _ => .ok rfl

lemma yieldsPlain_ofNumbers (f : Float → Float → Except Fault Float) (v w : Value) :
    YieldsPlain (ofNumbers f v w) :=
  .bind fun _ => .bind fun _ => .bind fun _ => .ok rfl

lemma yieldsPlain_datePart (reader : Everyday.Reader) (part : Date → Nat) (v : Value) :
    YieldsPlain (datePart reader part v) := by
  refine .bind fun m => ?_
  cases m with
  | none => exact .ok rfl
  | some m => exact .ok rfl

lemma yieldsPlain_daysBetween (reader : Everyday.Reader) (v w : Value) :
    YieldsPlain (daysBetween reader v w) := by
  refine .bind fun start => .bind fun finish => ?_
  cases start with
  | none => exact .ok rfl
  | some start =>
    cases finish with
    | none => exact .ok rfl
    | some finish => exact .bind fun n => .ok rfl

lemma yieldsPlain_shiftDate (reader : Everyday.Reader) (v count unit : Value) :
    YieldsPlain (shiftDate reader v count unit) := by
  refine .bind fun m => ?_
  cases m with
  | none => exact .ok rfl
  | some m =>
    refine .bind fun n => .bind fun word => ?_
    cases hunit : DateUnit.ofName? (Text.lower word) with
    | none =>
      simp only [hunit]
      exact .error _
    | some named =>
      simp only [hunit]
      exact .bind fun d => .ok rfl

end Function

/-- A rule that makes plain values. -/
def Rule.MakesPlain : Rule → Prop
  | constant result => result.isPlain = true
  | one run => ∀ a, YieldsPlain (run a)
  | two run | oneOrTwo _ run => ∀ a b, YieldsPlain (run a b)
  | three run | twoOrThree _ run => ∀ a b c, YieldsPlain (run a b c)
  | four run => ∀ a b c d, YieldsPlain (run a b c d)
  | any run => ∀ args, YieldsPlain (run args)

lemma Rule.MakesPlain.yieldsPlain_apply {rule : Rule} (h : rule.MakesPlain) (name : String)
    (args : List Value) : YieldsPlain (rule.apply name args) := by
  rw [apply, run?.eq_def]
  split
  · exact .ok h
  · exact h _
  · exact h _ _
  · exact h _ _ _
  · exact h _ _ _ _
  · exact h _ _
  · exact h _ _
  · exact h _ _ _
  · exact h _ _ _
  · exact h _
  · exact .error _

/-- What a function makes of given values is plain. -/
lemma Function.makesPlain {reader : Everyday.Reader} {f : Function} {rule : Rule}
    (h : f.meaning reader = .ofValues rule) :
    rule.MakesPlain := by
  cases f with
  | sum | average | minimum | maximum | count | distinct | switch | coalesce | today | now =>
    cases h
  | constTrue | constFalse =>
    cases h
    exact isPlain_ofTruth _
  | concatenate | concat =>
    cases h
    exact fun _ => .bind fun _ => .ok rfl
  | length | upper | lower | trim | text =>
    cases h
    exact fun _ => .map fun _ => rfl
  | substitute | mid =>
    cases h
    exact fun _ _ _ => .bind fun _ => .bind fun _ => .bind fun _ => .ok rfl
  | left =>
    cases h
    exact fun _ _ => .bind fun _ => .bind fun _ => .ok rfl
  | right =>
    cases h
    exact fun _ _ => .bind fun _ => .ite (.bind fun _ => .ok rfl) (.ok rfl)
  | replace =>
    cases h
    exact fun _ _ _ _ => .bind fun _ => .bind fun _ => .bind fun _ => .bind fun _ => .ok rfl
  | round | floor | ceil | ceiling =>
    cases h
    exact yieldsPlain_roundTo _
  | abs | value | float | sqrt | log | log10 | exp =>
    cases h
    exact yieldsPlain_ofNumber _
  | power | pow | mod =>
    cases h
    exact yieldsPlain_ofNumbers _
  | year | month | day =>
    cases h
    exact yieldsPlain_datePart reader _
  | dateDiff =>
    cases h
    exact yieldsPlain_daysBetween reader
  | dateAdd =>
    cases h
    exact yieldsPlain_shiftDate reader
  | int =>
    cases h
    exact fun _ => .bind fun _ => .bind fun _ => .ok rfl
  | and | or =>
    cases h
    exact fun _ => .map fun b => isPlain_ofTruth b

/-! ## Calls -/

namespace Function

section

variable {P : Value → Prop} (hP : ∀ v : Value, v.isPlain = true → P v) {c : Context}
  {args : List Evaluator}

include hP

lemma yields_of_plain {x : Except Fault Value} (h : YieldsPlain x) : Yields P x :=
  fun v hv => hP v (h v hv)

/-- A total over a table makes a number; without a table it is its argument. -/
lemma yields_totalOf (hargs : ∀ e ∈ args, Yields P (e c)) (name : String)
    (total : List Float → Except Fault Float) : Yields P (totalOf name total args c) := by
  cases args with
  | nil => exact .error _
  | cons e args =>
    cases htable : c.table with
    | none =>
      have hhere : totalOf name total (e :: args) c = e c := by
        simp [totalOf, firstArgument, htable, bind, Except.bind]
      rw [hhere]
      exact hargs e List.mem_cons_self
    | some rows =>
      have hrows : totalOf name total (e :: args) c = (do
          return .float (← total (← e.overRows Value.toNumber rows c))) := by
        simp [totalOf, firstArgument, htable, bind, Except.bind]
      rw [hrows]
      exact .bind fun _ => .bind fun _ => .ok (hP _ rfl)

lemma yields_countRows : Yields P (countRows args c) := by
  rw [countRows]
  cases c.table with
  | none => exact .ok (hP _ rfl)
  | some rows =>
    cases args with
    | nil => exact .ok (hP _ rfl)
    | cons e args => exact .bind fun _ => .ok (hP _ rfl)

lemma yields_countTexts (name : String) : Yields P (countTexts name args c) := by
  rw [countTexts]
  cases c.table with
  | none => exact .ok (hP _ rfl)
  | some rows => exact .bind fun _ => .bind fun _ => .ok (hP _ rfl)

lemma yields_firstCase (hargs : ∀ e ∈ args, Yields P (e c)) (subject : Value) :
    Yields P (firstCase subject args c) := by
  fun_induction firstCase subject args c with
  | case1 => exact .ok (hP _ rfl)
  | case2 otherwise => exact hargs otherwise List.mem_cons_self
  | case3 case result rest c ih =>
    refine .bind fun v => .bind fun b => ?_
    have hresult : Yields P (result c) := hargs result (by simp)
    exact .ite hresult (ih fun e he => hargs e (by simp [he]))

lemma yields_switchOn (hargs : ∀ e ∈ args, Yields P (e c)) (name : String) :
    Yields P (switchOn name args c) := by
  cases args with
  | nil => exact .error _
  | cons subject cases =>
    refine .bind fun v => yields_firstCase hP (fun e he => ?_) v
    exact hargs e (List.mem_cons_of_mem _ he)

lemma yields_firstFilled (hargs : ∀ e ∈ args, Yields P (e c)) :
    Yields P (firstFilled args c) := by
  induction args with
  | nil => exact .ok (hP _ rfl)
  | cons e args ih =>
    rw [firstFilled]
    cases hv : e c with
    | error fault => exact .error _
    | ok v =>
      have hrest : Yields P (firstFilled args c) :=
        ih fun e' he' => hargs e' (List.mem_cons_of_mem _ he')
      exact .ite hrest (.ok (hargs e List.mem_cons_self v hv))

/-- **Calls.**  The value of a call is plain or that of an argument in the same context. -/
lemma yields_call (hargs : ∀ e ∈ args, Yields P (e c)) (f : Function) :
    Yields P (f.call args c) := by
  have hclock : ∀ text : Moment → List Char, Yields P (fromClock text args c) :=
    fun text => .bind fun m => .ok (hP _ rfl)
  cases hf : f.meaning c.clock.everyday with
  | ofValues rule =>
    have hrule := makesPlain hf
    rw [call, hf]
    exact .bind fun values => yields_of_plain hP (hrule.yieldsPlain_apply f.name values)
  | deferred run =>
    rw [call, hf]
    cases f with
    | sum | average | minimum | maximum =>
      cases hf
      exact yields_totalOf hP hargs _ _
    | count =>
      cases hf
      exact yields_countRows hP
    | distinct =>
      cases hf
      exact yields_countTexts hP _
    | switch =>
      cases hf
      exact yields_switchOn hP hargs _
    | coalesce =>
      cases hf
      exact yields_firstFilled hP hargs
    | today | now =>
      cases hf
      exact hclock _
    | _ => cases hf

end

end Function

/-! ## Formulas -/

namespace Formula

/-- A value that stands in the current row: it is the cell of the column that one of the references
of a formula means. -/
def IsReferredCell (f : Formula) (c : Context) (v : Value) : Prop :=
  ∃ name ∈ f.references, ∃ column, Column.find? c.columns name = some column ∧
    v = c.row.get column.id

/-- The cells to which a part refers are cells to which the formula refers. -/
lemma IsReferredCell.of_mem_parts {f g : Formula} {c : Context} {v : Value} (hg : g ∈ f.parts)
    (h : g.IsReferredCell c v) : f.IsReferredCell c v := by
  obtain ⟨name, hname, hcolumn⟩ := h
  exact ⟨name, references_subset_of_mem_parts hg hname, hcolumn⟩

/-- A formula has a plain value or one of the cells to which it refers.  What its parts refer to, it
refers to itself, so a part may pass on its value. -/
lemma yields_eval (f : Formula) (c : Context) :
    Yields (fun v => v.isPlain = true ∨ f.IsReferredCell c v) (f.eval c) := by
  have hparts : ∀ g ∈ f.parts,
      Yields (fun v => v.isPlain = true ∨ f.IsReferredCell c v) (g.eval c.deeper) := by
    intro g hg v hv
    have hlower : g.height < f.height := height_lt_of_mem_parts hg
    obtain hplain | hcell := yields_eval g c.deeper v hv
    · exact .inl hplain
    · exact .inr (hcell.of_mem_parts hg)
  have hvalues : ∀ v : Value, v.isPlain = true → v.isPlain = true ∨ f.IsReferredCell c v :=
    fun v => .inl
  cases f with
  | number x | text s => exact .ite (.error _) (.ok (.inl rfl))
  | hole => exact .ite (.error _) (.error _)
  | column name =>
    refine .ite (.error _) ?_
    rw [Evaluator.ofReference]
    cases hfind : Column.find? c.deeper.columns name with
    | none => exact .error _
    | some column => exact .ok (.inr ⟨name, List.mem_singleton_self name, column, hfind, rfl⟩)
  | binary op left right =>
    refine .ite (.error _) (.bind fun v => .bind fun w => ?_)
    exact Function.yields_of_plain hvalues (op.yieldsPlain_apply v w)
  | unary sign operand =>
    refine .ite (.error _) (.bind fun v => ?_)
    exact Function.yields_of_plain hvalues (sign.yieldsPlain_apply v)
  | choose condition whenTrue whenFalse =>
    refine .ite (.error _) (.bind fun v => .bind fun b => ?_)
    exact .ite (hparts whenTrue (by simp [parts])) (hparts whenFalse (by simp [parts]))
  | call name args =>
    refine .ite (.error _) ?_
    rw [evalAll_eq_map, Evaluator.ofCall]
    cases Function.ofName? name with
    | none => exact .error _
    | some f =>
      refine Function.yields_call hvalues (fun e he => ?_) f
      obtain ⟨g, hg, rfl⟩ := List.mem_map.mp he
      exact hparts g hg
termination_by f.height

/-- **Results.**  The value of a formula is blank, a text, an integer or a float, or it is a cell of
the current row to which the formula refers. -/
theorem isPlain_or_isReferredCell {f : Formula} {c : Context} {v : Value} (h : f.eval c = .ok v) :
    v.isPlain = true ∨ f.IsReferredCell c v :=
  yields_eval f c v h

/-- A switch between cells of the current row and a total over the table, which holds other cells.
-/
def flagged : Formula :=
  .call "SWITCH" [.column "Kind", .text "a", .call "COALESCE" [.column "note", .column "FLAG"],
    .call "MAX" [.column "flag"]]

/-- A row with a truth value, in a table whose other row has the opposite one. -/
def flaggedRow : Context :=
  .top (.atMidnight ⟨2024, 5, 17, by decide⟩) 4
    [⟨"kind", "Kind", .string⟩, ⟨"note", "Note", .string⟩, ⟨"flag", "Flag", .boolean⟩]
    (some [[("kind", .text "b"), ("flag", .truth false)], [("kind", .text "a")]])
    [("kind", .text "a"), ("note", .text ""), ("flag", .truth true)]

/-- A truth value comes out of a switch, so it is a cell of the current row. -/
theorem isReferredCell_flagged :
    flagged.eval flaggedRow = .ok (.truth true) ∧
      flagged.IsReferredCell flaggedRow (.truth true) := by
  have heval : flagged.eval flaggedRow = .ok (.truth true) := rfl
  exact ⟨heval, (isPlain_or_isReferredCell heval).resolve_left (by decide)⟩

end Formula

end TableFormula
