import Mathlib.Tactic.Common
import TableFormula.Formula.Evaluate

/-!
# Where faults come from

An operation on values fails only for the values' sake: a number leaves its range, a date leaves the
calendar, a decimal cannot be compared.  A function fails for that, for the number of its arguments
or for want of rows; every other fault of a call is one of its arguments, evaluated in some row of
the table.  So whatever names a column, a function or a depth stems from a node of the formula.

`FailsWith P` says that a computation fails with faults of `P` only.  It is kept by the steps of a
computation, so that a function needs one line for each of its steps.
-/

namespace TableFormula

variable {α β : Type} {P Q : Fault → Prop}

/-! ## Computations that fail in some ways only -/

/-- A computation fails with faults of a kind, if it fails. -/
def FailsWith (P : Fault → Prop) (x : Except Fault α) : Prop :=
  ∀ fault, x = .error fault → P fault

namespace FailsWith

lemma ok (a : α) : FailsWith P (.ok a : Except Fault α) := nofun

lemma error {fault : Fault} (h : P fault) : FailsWith P (.error fault : Except Fault α) := by
  intro fault' hfault
  cases hfault
  exact h

lemma mono {x : Except Fault α} (hx : FailsWith P x) (h : ∀ fault, P fault → Q fault) :
    FailsWith Q x :=
  fun fault hfault => h fault (hx fault hfault)

lemma bind {x : Except Fault α} {f : α → Except Fault β} (hx : FailsWith P x)
    (hf : ∀ a, FailsWith P (f a)) : FailsWith P (x >>= f) := by
  cases x with
  | error fault => exact error (hx fault rfl)
  | ok a => exact hf a

lemma map {x : Except Fault α} (f : α → β) (hx : FailsWith P x) : FailsWith P (x.map f) := by
  cases x with
  | error fault => exact error (hx fault rfl)
  | ok a => exact ok (f a)

lemma ite {c : Prop} [Decidable c] {x y : Except Fault α} (hx : FailsWith P x)
    (hy : FailsWith P y) : FailsWith P (if c then x else y) := by
  split
  · exact hx
  · exact hy

lemma mapM {f : α → Except Fault β} {as : List α} (h : ∀ a ∈ as, FailsWith P (f a)) :
    FailsWith P (as.mapM f) := by
  induction as with
  | nil => exact ok []
  | cons a as ih =>
    rw [List.mapM_cons]
    refine bind (h a List.mem_cons_self) fun b => bind (ih fun a' ha' => ?_) fun bs => ok (b :: bs)
    exact h a' (List.mem_cons_of_mem _ ha')

lemma allM {f : α → Except Fault Bool} {as : List α} (h : ∀ a ∈ as, FailsWith P (f a)) :
    FailsWith P (as.allM f) := by
  induction as with
  | nil => exact ok true
  | cons a as ih =>
    rw [List.allM]
    refine bind (h a List.mem_cons_self) fun b => ?_
    rcases b with _ | _
    · exact ok false
    · exact ih fun a' ha' => h a' (List.mem_cons_of_mem _ ha')

lemma anyM {f : α → Except Fault Bool} {as : List α} (h : ∀ a ∈ as, FailsWith P (f a)) :
    FailsWith P (as.anyM f) := by
  induction as with
  | nil => exact ok false
  | cons a as ih =>
    rw [List.anyM]
    refine bind (h a List.mem_cons_self) fun b => ?_
    rcases b with _ | _
    · exact ih fun a' ha' => h a' (List.mem_cons_of_mem _ ha')
    · exact ok true

end FailsWith

/-! ## Faults of values -/

/-- A fault of an operation on values. -/
def Fault.isOfValues : Fault → Bool
  | divisionByZero | noValue _ | outOfRange _ | signalling | tooManyDigits | unknownUnit _ => true
  | _ => false

/-- A computation fails for the sake of values only. -/
abbrev FailsByValues (x : Except Fault α) : Prop :=
  FailsWith (·.isOfValues = true) x

/-! ### Numbers -/

namespace Number

lemma failsByValues_rounded (round : BinaryFraction → Int) (x : Float) :
    FailsByValues (rounded round x) := by
  rw [rounded]
  split
  · exact .error rfl
  · exact .error rfl
  · exact .ok _

lemma failsByValues_ofInt (n : Int) : FailsByValues (ofInt n) :=
  .ite (.error rfl) (.ok _)

lemma failsByValues_divide (a b : Float) : FailsByValues (divide a b) :=
  .ite (.error rfl) (.ok _)

lemma failsByValues_remainder (a b : Float) : FailsByValues (remainder a b) := by
  rw [remainder]
  split
  · exact .ite (.error rfl) (.ok _)
  · exact .ok _
  · exact .ok _
  · exact .error rfl
  · exact .ok _
  · exact .ok _

lemma failsByValues_power (a b : Float) : FailsByValues (power a b) := by
  refine .ite (.ite (.error rfl) (.ite (.error ?_) (.ok _))) (.ok _)
  split <;> rfl

lemma failsByValues_squareRoot (a : Float) : FailsByValues (squareRoot a) :=
  .ite (.error rfl) (.ok _)

lemma failsByValues_logarithm (log : Float → Float) (a : Float) :
    FailsByValues (logarithm log a) :=
  .ite (.ok _) (.ite (.ok _) (.error rfl))

lemma failsByValues_exponential (a : Float) : FailsByValues (exponential a) :=
  .ite (.error rfl) (.ok _)

end Number

/-! ### Dates -/

lemma failsByValues_addDays (d : Date) (days : Int) : FailsByValues (d.addDays days) := by
  rw [Date.addDays]
  split
  · exact .ok _
  · exact .error rfl

lemma failsByValues_addMonths (d : Date) (months : Int) : FailsByValues (d.addMonths months) := by
  rw [Date.addMonths]
  split
  · exact .ok _
  · refine .error ?_
    split <;> rfl

lemma failsByValues_toUniversal (s : Stamp) : FailsByValues s.toUniversal := by
  rw [Stamp.toUniversal]
  split
  · exact .ok _
  · split
    · exact .ok _
    · exact .error rfl

lemma failsByValues_everyday (reader : Everyday.Reader) (cs : List Char) :
    FailsByValues (reader.read cs) := by
  cases hread : reader.read cs with
  | ok m => exact .ok m
  | error fault =>
    obtain rfl := reader.eq_tooManyDigits hread
    exact .error rfl

/-! ### Readings of values -/

namespace Value

lemma failsByValues_toText (v : Value) : FailsByValues v.toText :=
  .ite (.ok _) (.error rfl)

lemma failsByValues_toNumber (v : Value) : FailsByValues v.toNumber := by
  cases v with
  | integer n => exact Number.failsByValues_ofInt n
  | decimal d =>
    refine .map orZero ?_
    rcases d with _ | _ | ⟨_, _ | _, _⟩
    · exact .ok _
    · exact .ok _
    · exact .ok _
    · exact .error rfl
  | list items => exact (list items).failsByValues_toText.map _
  | _ => exact .ok _

lemma failsByValues_toTruth (v : Value) : FailsByValues v.toTruth := by
  cases v with
  | decimal d =>
    refine .map (!·) ?_
    rcases d with _ | _ | ⟨_, _ | _, _⟩
    · exact .ok _
    · exact .ok _
    · exact .ok _
    · exact .error rfl
  | _ => exact .ok _

lemma failsByValues_toMoment (reader : Everyday.Reader) (v : Value) :
    FailsByValues (v.toMoment reader) := by
  cases v with
  | stamp s => exact (failsByValues_toUniversal s).map some
  | text s =>
    rw [toMoment, momentOfText]
    split
    · exact .ok _
    · split
      · exact (failsByValues_toUniversal _).map some
      · exact failsByValues_everyday reader _
  | list items => exact (list items).failsByValues_toText.map _
  | _ => exact .ok _

lemma failsByValues_same (v w : Value) : FailsByValues (v.same w) := by
  refine .ite ?_ ?_
  · exact (failsByValues_toNumber v).bind fun x => (failsByValues_toNumber w).bind fun y => .ok _
  · exact (failsByValues_toText v).bind fun s => (failsByValues_toText w).bind fun t => .ok _

end Value

/-! ## Operators -/

/-- The faults of a binary operator: those of its operands' values, or that there is no such
operator. -/
def Operator.OwnFault (op : Operator) (fault : Fault) : Prop :=
  fault.isOfValues ∨ ∃ symbol, op = .other symbol ∧ fault = .unknownOperator symbol

/-- The faults of an operator on one operand: those of its operand's value, or that there is no such
operator. -/
def Sign.OwnFault (sign : Sign) (fault : Fault) : Prop :=
  fault.isOfValues ∨ ∃ symbol, sign = .other symbol ∧ fault = .unknownSign symbol

lemma Operator.failsWith_ownFault (op : Operator) (v w : Value) :
    FailsWith op.OwnFault (op.apply v w) := by
  have hnumbers : ∀ f : Float → Float → Except Fault Value,
      (∀ x y, FailsWith op.OwnFault (f x y)) → FailsWith op.OwnFault (ofNumbers f v w) := by
    intro f hf
    have hv : FailsWith op.OwnFault v.toNumber := v.failsByValues_toNumber.mono fun _ => .inl
    have hw : FailsWith op.OwnFault w.toNumber := w.failsByValues_toNumber.mono fun _ => .inl
    exact hv.bind fun x => hw.bind fun y => hf x y
  have htext : ∀ u : Value, FailsWith op.OwnFault u.toText :=
    fun u => u.failsByValues_toText.mono fun _ => .inl
  have hsame : FailsWith op.OwnFault (v.same w) := (v.failsByValues_same w).mono fun _ => .inl
  cases op with
  | join => exact (htext v).bind fun s => (htext w).bind fun t => .ok _
  | equal | unequal => exact hsame.map _
  | divide =>
    exact hnumbers _ fun x y => ((Number.failsByValues_divide x y).mono fun _ => .inl).map _
  | modulo =>
    exact hnumbers _ fun x y => ((Number.failsByValues_remainder x y).mono fun _ => .inl).map _
  | power =>
    exact hnumbers _ fun x y => ((Number.failsByValues_power x y).mono fun _ => .inl).map _
  | other symbol => exact hnumbers _ fun _ _ => .error (.inr ⟨symbol, rfl, rfl⟩)
  | _ => exact hnumbers _ fun _ _ => .ok _

lemma Sign.failsWith_ownFault (sign : Sign) (v : Value) :
    FailsWith sign.OwnFault (sign.apply v) := by
  cases sign with
  | negate => exact (v.failsByValues_toNumber.mono fun _ => .inl).map _
  | not => exact (v.failsByValues_toTruth.mono fun _ => .inl).map _
  | other symbol => exact .error (.inr ⟨symbol, rfl, rfl⟩)

/-- A fault of an operator: one of its operands' values, or that there is no such operator. -/
def Fault.isOfOperator (fault : Fault) : Prop :=
  fault.isOfValues ∨ (∃ symbol, fault = unknownOperator symbol) ∨
    ∃ symbol, fault = unknownSign symbol

lemma Operator.failsWith_apply (op : Operator) (v w : Value) :
    FailsWith Fault.isOfOperator (op.apply v w) := by
  refine (op.failsWith_ownFault v w).mono ?_
  rintro fault (hvalues | ⟨symbol, -, rfl⟩)
  · exact .inl hvalues
  · exact .inr (.inl ⟨symbol, rfl⟩)

lemma Sign.failsWith_apply (sign : Sign) (v : Value) :
    FailsWith Fault.isOfOperator (sign.apply v) := by
  refine (sign.failsWith_ownFault v).mono ?_
  rintro fault (hvalues | ⟨symbol, -, rfl⟩)
  · exact .inl hvalues
  · exact .inr (.inr ⟨symbol, rfl⟩)

/-! ## Functions of values -/

/-- A fault of a function itself: one of its arguments' values, of their number, or that a table
has no rows. -/
def Fault.isOfFunction (fault : Fault) : Prop :=
  fault.isOfValues ∨ (∃ name needed given, fault = missingArgument name needed given) ∨
    (∃ name given, fault = wrongCount name given) ∨ ∃ name, fault = noRows name

namespace Function

lemma failsByValues_wholeNumber (v : Value) : FailsByValues (wholeNumber v) :=
  v.failsByValues_toNumber.bind fun x => Number.failsByValues_rounded _ x

lemma failsByValues_joined (values : List Value) : FailsByValues (joined values) :=
  (FailsWith.mapM fun v _ => v.failsByValues_toText).bind fun _ => .ok _

lemma failsByValues_leftPart (v count : Value) : FailsByValues (leftPart v count) :=
  v.failsByValues_toText.bind fun _ => (failsByValues_wholeNumber count).bind fun _ => .ok _

lemma failsByValues_rightPart (v count : Value) : FailsByValues (rightPart v count) :=
  (failsByValues_wholeNumber count).bind fun _ =>
    .ite (v.failsByValues_toText.bind fun _ => .ok _) (.ok _)

lemma failsByValues_middlePart (v start count : Value) :
    FailsByValues (middlePart v start count) :=
  (failsByValues_wholeNumber start).bind fun _ => v.failsByValues_toText.bind fun _ =>
    (failsByValues_wholeNumber count).bind fun _ => .ok _

lemma failsByValues_replacePart (v start count new : Value) :
    FailsByValues (replacePart v start count new) :=
  v.failsByValues_toText.bind fun _ => (failsByValues_wholeNumber start).bind fun _ =>
    (failsByValues_wholeNumber count).bind fun _ => new.failsByValues_toText.bind fun _ => .ok _

lemma failsByValues_replaceAll (v find new : Value) : FailsByValues (replaceAll v find new) :=
  v.failsByValues_toText.bind fun _ => find.failsByValues_toText.bind fun _ =>
    new.failsByValues_toText.bind fun _ => .ok _

lemma failsByValues_roundTo {round : Float → Except Fault Int}
    (hround : ∀ x, FailsByValues (round x)) (v places : Value) :
    FailsByValues (roundTo round v places) := by
  refine places.failsByValues_toNumber.bind fun n => ?_
  refine (Number.failsByValues_power 10.0 n).bind fun factor => ?_
  refine v.failsByValues_toNumber.bind fun x => (hround _).bind fun whole => ?_
  refine (Number.failsByValues_ofInt whole).bind fun y => ?_
  exact (Number.failsByValues_divide y factor).bind fun _ => .ok _

lemma failsByValues_ofNumber {f : Float → Except Fault Float} (hf : ∀ x, FailsByValues (f x))
    (v : Value) : FailsByValues (ofNumber f v) :=
  v.failsByValues_toNumber.bind fun x => (hf x).bind fun _ => .ok _

lemma failsByValues_ofNumbers {f : Float → Float → Except Fault Float}
    (hf : ∀ x y, FailsByValues (f x y)) (v w : Value) : FailsByValues (ofNumbers f v w) :=
  v.failsByValues_toNumber.bind fun x => w.failsByValues_toNumber.bind fun y =>
    (hf x y).bind fun _ => .ok _

lemma failsByValues_datePart (reader : Everyday.Reader) (part : Date → Nat) (v : Value) :
    FailsByValues (datePart reader part v) := by
  refine (v.failsByValues_toMoment reader).bind fun m => ?_
  rcases m with _ | m <;> exact .ok _

lemma failsByValues_daysBetween (reader : Everyday.Reader) (v w : Value) :
    FailsByValues (daysBetween reader v w) := by
  refine (v.failsByValues_toMoment reader).bind fun start => ?_
  refine (w.failsByValues_toMoment reader).bind fun finish => ?_
  rcases start with _ | start
  · exact .ok _
  rcases finish with _ | finish
  · exact .ok _
  exact (Number.failsByValues_rounded _ _).bind fun _ => .ok _

lemma failsByValues_shift (unit : DateUnit) (d : Date) (n : Int) :
    FailsByValues (unit.shift d n) := by
  cases unit with
  | day | week => exact failsByValues_addDays d _
  | month | year => exact failsByValues_addMonths d _

lemma failsByValues_shiftDate (reader : Everyday.Reader) (v count unit : Value) :
    FailsByValues (shiftDate reader v count unit) := by
  refine (v.failsByValues_toMoment reader).bind fun m => ?_
  rcases m with _ | m
  · exact .ok _
  refine (failsByValues_wholeNumber count).bind fun n => ?_
  refine unit.failsByValues_toText.bind fun word => ?_
  cases hunit : DateUnit.ofName? (Text.lower word) with
  | none =>
    simp only [hunit]
    exact .error rfl
  | some named =>
    simp only [hunit]
    exact (failsByValues_shift named m.date n).bind fun _ => .ok _

end Function

/-- A rule that fails for the sake of values only. -/
def Rule.ByValues : Rule → Prop
  | constant _ => True
  | one run => ∀ a, FailsByValues (run a)
  | two run | oneOrTwo _ run => ∀ a b, FailsByValues (run a b)
  | three run | twoOrThree _ run => ∀ a b c, FailsByValues (run a b c)
  | four run => ∀ a b c d, FailsByValues (run a b c d)
  | any run => ∀ args, FailsByValues (run args)

/-- The faults of a rule: those of values, or that it does not take so many arguments. -/
def Rule.OwnFault (rule : Rule) (name : String) (count : Nat) (fault : Fault) : Prop :=
  fault.isOfValues ∨ rule.accepts count = false ∧ fault = .wrongCount name count

lemma Rule.ByValues.failsWith_ownFault {rule : Rule} (h : rule.ByValues) (name : String)
    (args : List Value) : FailsWith (rule.OwnFault name args.length) (rule.apply name args) := by
  have hrun : ∀ x ∈ rule.run? args, FailsByValues x := by
    intro x hx
    rw [run?.eq_def] at hx
    split at hx <;> cases hx
    · exact .ok _
    · exact h _
    · exact h _ _
    · exact h _ _ _
    · exact h _ _ _ _
    · exact h _ _
    · exact h _ _
    · exact h _ _ _
    · exact h _ _ _
    · exact h _
  have haccepts := rule.isSome_run? args
  rw [apply]
  cases hcount : rule.run? args with
  | none =>
    rw [hcount, Option.isSome_none] at haccepts
    exact .error (.inr ⟨haccepts.symm, rfl⟩)
  | some x => exact (hrun x hcount).mono fun _ => .inl

lemma Rule.ByValues.failsWith_apply {rule : Rule} (h : rule.ByValues) (name : String)
    (args : List Value) : FailsWith Fault.isOfFunction (rule.apply name args) := by
  refine (h.failsWith_ownFault name args).mono ?_
  rintro fault (hvalues | ⟨-, rfl⟩)
  · exact .inl hvalues
  · exact .inr (.inr (.inl ⟨_, _, rfl⟩))

/-- A function that is not deferred has a rule. -/
lemma Function.exists_rule (reader : Everyday.Reader) {f : Function} (h : f.isDeferred = false) :
    ∃ rule, f.meaning reader = .ofValues rule := by
  cases f <;> first | exact ⟨_, rfl⟩ | cases h

lemma Function.byValues {reader : Everyday.Reader} {f : Function} {rule : Rule}
    (h : f.meaning reader = .ofValues rule) :
    rule.ByValues := by
  cases f with
  | sum | average | minimum | maximum | count | distinct | switch | coalesce | today | now =>
    cases h
  | constTrue | constFalse =>
    cases h
    trivial
  | concatenate | concat =>
    cases h
    exact failsByValues_joined
  | length | upper | lower | trim | text =>
    cases h
    exact fun v => v.failsByValues_toText.map _
  | substitute =>
    cases h
    exact failsByValues_replaceAll
  | left =>
    cases h
    exact failsByValues_leftPart
  | right =>
    cases h
    exact failsByValues_rightPart
  | mid =>
    cases h
    exact failsByValues_middlePart
  | replace =>
    cases h
    exact failsByValues_replacePart
  | round | floor | ceil | ceiling =>
    cases h
    exact failsByValues_roundTo fun _ => Number.failsByValues_rounded _ _
  | abs | value | float =>
    cases h
    exact failsByValues_ofNumber fun _ => .ok _
  | power | pow =>
    cases h
    exact failsByValues_ofNumbers Number.failsByValues_power
  | mod =>
    cases h
    exact failsByValues_ofNumbers Number.failsByValues_remainder
  | sqrt =>
    cases h
    exact failsByValues_ofNumber Number.failsByValues_squareRoot
  | log | log10 =>
    cases h
    exact failsByValues_ofNumber (Number.failsByValues_logarithm _)
  | exp =>
    cases h
    exact failsByValues_ofNumber Number.failsByValues_exponential
  | year | month | day =>
    cases h
    exact failsByValues_datePart reader _
  | dateDiff =>
    cases h
    exact failsByValues_daysBetween reader
  | dateAdd =>
    cases h
    exact failsByValues_shiftDate reader
  | int =>
    cases h
    exact fun v => v.failsByValues_toNumber.bind fun x =>
      (Number.failsByValues_rounded _ x).bind fun _ => .ok _
  | and =>
    cases h
    exact fun values => (FailsWith.allM fun v _ => v.failsByValues_toTruth).map _
  | or =>
    cases h
    exact fun values => (FailsWith.anyM fun v _ => v.failsByValues_toTruth).map _

/-! ## Calls -/

section

variable {c : Context} {args : List Evaluator}

/-- The arguments of a call fail in some ways only, in whatever row they are evaluated. -/
def ArgumentsFailWith (P : Fault → Prop) (args : List Evaluator) (c : Context) : Prop :=
  ∀ e ∈ args, ∀ row, FailsWith P (e (c.atRow row))

lemma ArgumentsFailWith.here (h : ArgumentsFailWith P args c) {e : Evaluator} (he : e ∈ args) :
    FailsWith P (e c) :=
  h e he c.row

lemma ArgumentsFailWith.tail {e : Evaluator} (h : ArgumentsFailWith P (e :: args) c) :
    ArgumentsFailWith P args c :=
  fun e' he' => h e' (List.mem_cons_of_mem _ he')

lemma Evaluator.failsWith_overRows {e : Evaluator} {read : Value → Except Fault α}
    (he : ∀ row, FailsWith P (e (c.atRow row))) (hread : ∀ v, FailsWith P (read v))
    (rows : List Row) : FailsWith P (e.overRows read rows c) :=
  .mapM fun row _ => (he row).bind hread

namespace Function

section

variable (hP : ∀ fault, fault.isOfFunction → P fault)

include hP

lemma failsByValues_mono {x : Except Fault α} (h : FailsByValues x) : FailsWith P x :=
  h.mono fun fault hfault => hP fault (.inl hfault)

lemma failsWith_missingArgument (name : String) (needed given : Nat) :
    FailsWith P (.error (.missingArgument name needed given) : Except Fault α) :=
  .error (hP _ (.inr (.inl ⟨_, _, _, rfl⟩)))

lemma failsWith_nonempty (name : String) (f : Float → List Float → Float) (xs : List Float) :
    FailsWith P (nonempty name f xs) := by
  rcases xs with _ | ⟨x, xs⟩
  · exact .error (hP _ (.inr (.inr (.inr ⟨_, rfl⟩))))
  · exact .ok _

lemma failsWith_totalOf (hargs : ArgumentsFailWith P args c) (name : String)
    {total : List Float → Except Fault Float} (htotal : ∀ xs, FailsWith P (total xs)) :
    FailsWith P (totalOf name total args c) := by
  rcases args with _ | ⟨e, args⟩
  · exact failsWith_missingArgument hP name 1 0
  have hnumber : ∀ v : Value, FailsWith P v.toNumber := fun v =>
    failsByValues_mono hP v.failsByValues_toNumber
  cases htable : c.table with
  | none =>
    have hhere : totalOf name total (e :: args) c = e c := by
      simp [totalOf, firstArgument, htable, bind, Except.bind]
    rw [hhere]
    exact hargs.here List.mem_cons_self
  | some rows =>
    have hrows : totalOf name total (e :: args) c = (do
        return .float (← total (← e.overRows Value.toNumber rows c))) := by
      simp [totalOf, firstArgument, htable, bind, Except.bind]
    rw [hrows]
    refine (Evaluator.failsWith_overRows (hargs e List.mem_cons_self) hnumber _).bind fun xs => ?_
    exact (htotal xs).bind fun _ => .ok _

lemma failsWith_countTexts (hargs : ArgumentsFailWith P args c) (name : String) :
    FailsWith P (countTexts name args c) := by
  rw [countTexts]
  split
  · exact .ok _
  · rcases args with _ | ⟨e, args⟩
    · exact failsWith_missingArgument hP name 1 0
    · have htexts := Evaluator.failsWith_overRows (hargs e List.mem_cons_self)
        fun v => failsByValues_mono hP v.failsByValues_toText
      exact (htexts _).bind fun _ => .ok _

lemma failsWith_firstCase (hargs : ArgumentsFailWith P args c) (subject : Value) :
    FailsWith P (firstCase subject args c) := by
  fun_induction firstCase subject args c with
  | case1 => exact .ok _
  | case2 => exact hargs.here List.mem_cons_self
  | case3 case result rest c ih =>
    refine (hargs.here List.mem_cons_self).bind fun v => ?_
    refine (failsByValues_mono hP (subject.failsByValues_same v)).bind fun b => ?_
    exact .ite (hargs.tail.here List.mem_cons_self) (ih hargs.tail.tail)

lemma failsWith_switchOn (hargs : ArgumentsFailWith P args c) (name : String) :
    FailsWith P (switchOn name args c) := by
  rcases args with _ | ⟨subject, cases⟩
  · exact failsWith_missingArgument hP name 1 0
  · exact (hargs.here List.mem_cons_self).bind fun v => failsWith_firstCase hP hargs.tail v

end

lemma failsWith_countRows (hargs : ArgumentsFailWith P args c) :
    FailsWith P (countRows args c) := by
  rw [countRows]
  split
  · exact .ok _
  · rcases args with _ | ⟨e, args⟩
    · exact .ok _
    · have hvalues := Evaluator.failsWith_overRows (hargs e List.mem_cons_self) FailsWith.ok
      exact (hvalues _).bind fun _ => .ok _

lemma failsWith_firstFilled (hargs : ArgumentsFailWith P args c) :
    FailsWith P (firstFilled args c) := by
  induction args with
  | nil => exact .ok _
  | cons e args ih =>
    rw [firstFilled]
    exact (hargs.here List.mem_cons_self).bind fun v => .ite (ih hargs.tail) (.ok _)

/-- **Calls.**  A call fails for the function's sake or as one of its arguments does in some row. -/
lemma failsWith_call (hP : ∀ fault, fault.isOfFunction → P fault)
    (hargs : ArgumentsFailWith P args c) (f : Function) : FailsWith P (f.call args c) := by
  have hclock : ∀ text : Moment → List Char, FailsWith P (fromClock text args c) := fun text =>
    (failsByValues_mono hP (failsByValues_toUniversal c.clock.now)).bind fun _ => .ok _
  cases hf : f.meaning c.clock.everyday with
  | ofValues rule =>
    have hrule := byValues hf
    rw [call, hf]
    refine (FailsWith.mapM fun e he => hargs.here he).bind fun values => ?_
    exact (hrule.failsWith_apply f.name values).mono hP
  | deferred run =>
    rw [call, hf]
    cases f with
    | sum =>
      cases hf
      exact failsWith_totalOf hP hargs _ fun _ => .ok _
    | average | minimum | maximum =>
      cases hf
      exact failsWith_totalOf hP hargs _ fun xs => failsWith_nonempty hP _ _ xs
    | count =>
      cases hf
      exact failsWith_countRows hargs
    | distinct =>
      cases hf
      exact failsWith_countTexts hP hargs _
    | switch =>
      cases hf
      exact failsWith_switchOn hP hargs _
    | coalesce =>
      cases hf
      exact failsWith_firstFilled hargs
    | today | now =>
      cases hf
      exact hclock _
    | _ => cases hf

end Function

/-- **Calls by name.**  A name that is no function is a fault of its own. -/
lemma Evaluator.failsWith_ofCall (hP : ∀ fault, fault.isOfFunction → P fault) {name : String}
    (hname : Function.ofName? name = none → P (.unknownFunction name))
    (hargs : ArgumentsFailWith P args c) : FailsWith P (ofCall name args c) := by
  rw [ofCall]
  cases hf : Function.ofName? name with
  | none => exact .error (hname hf)
  | some f => exact Function.failsWith_call hP hargs f

end

end TableFormula
