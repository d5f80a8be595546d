import TableFormula.Function.Meaning
import TableFormula.Formula.Operation
import TableFormula.Proofs.Number.Zeros

/-!
# Values that are alike

Two values are *alike* if they are the same, or doubles that differ in the sign of zero only.
Operators and functions make of values that are alike results that are alike again: they read them
as the same texts, truth values, places and dates, and as numbers that are alike
(`Operator.keepsAlike_apply`, `Function.keepsAlike`).  No text shows the sign of a zero.
-/

namespace TableFormula

open Number (KeepsUpTo)

/-! ## Readings -/

namespace Value

/-- Values are alike if they are the same or doubles that are alike. -/
inductive Alike : Value → Value → Prop
  | same (v : Value) : Alike v v
  | float {x y : Float} (h : Number.Alike x y) : Alike (.float x) (.float y)

/-- The two zeros are shown without their sign. -/
lemma floatText_eq {x y : Float} (h : Number.Alike x y) : floatText x = floatText y := by
  have hzero : ∀ z negative, Number.kind z = .finite ⟨negative, 0, -1074⟩ →
      floatText z = String.ofList (Number.integerText 0) := by
    intro z negative hz
    have hfloor : Number.BinaryFraction.floor ⟨negative, 0, -1074⟩ = 0 := by
      rw [Number.BinaryFraction.floor, Number.BinaryFraction.numerator_zero, Int.zero_fdiv]
    have hwhole : Number.BinaryFraction.isWhole ⟨negative, 0, -1074⟩ = true := by
      rw [Number.BinaryFraction.isWhole, Number.BinaryFraction.numerator_zero, Int.zero_emod]
      rfl
    simp only [floatText, hz, hwhole, hfloor]
    rfl
  obtain rfl | ⟨negative, negative', hx, hy⟩ := h.eq_or_kinds
  · rfl
  · rw [hzero x negative hx, hzero y negative' hy]

variable {v v' w w' : Value} (hv : Alike v v') (hw : Alike w w')

namespace Alike

include hv

lemma isEmpty_eq : v.isEmpty = v'.isEmpty := by
  cases hv <;> rfl

lemma comparesByNumber_eq : v.comparesByNumber = v'.comparesByNumber := by
  cases hv <;> rfl

lemma toText_eq : v.toText = v'.toText := by
  cases hv with
  | same => rfl
  | float h => exact congrArg Except.ok (floatText_eq h)

lemma toTruth_eq : v.toTruth = v'.toTruth := by
  cases hv with
  | same => rfl
  | float h => rw [toTruth, toTruth, h.beq_zero_eq]

lemma toMoment_eq (reader : Everyday.Reader) : v.toMoment reader = v'.toMoment reader := by
  cases hv <;> rfl

lemma toNumber : KeepsUpTo Number.Alike v.toNumber v'.toNumber := by
  cases hv with
  | same => exact .of_eq .refl rfl
  | float h =>
    refine .ok ?_
    rw [orZero, orZero, h.isNaN_eq]
    split
    · exact .refl _
    · exact h

include hw

lemma same_eq : KeepsUpTo Eq (v.same w) (v'.same w') := by
  rw [Value.same, Value.same, hv.comparesByNumber_eq, hw.comparesByNumber_eq]
  refine .ite Iff.rfl ?_ ?_
  · refine hv.toNumber.bind fun x x' hx => hw.toNumber.bind fun y y' hy => ?_
    exact .ok (hx.beq_eq hy)
  · rw [hv.toText_eq, hw.toText_eq]
    exact .eq rfl

end Alike

end Value

/-- If the first computation has a value, then the second one has a value that is alike. -/
abbrev KeepsAlike (x y : Except Fault Value) : Prop :=
  KeepsUpTo Value.Alike x y

lemma KeepsAlike.of_eq {x y : Except Fault Value} (h : x = y) : KeepsAlike x y :=
  KeepsUpTo.of_eq Value.Alike.same h

/-! ## Operators -/

section Operators

variable {v v' w w' : Value} (hv : Value.Alike v v') (hw : Value.Alike w w')

include hv hw

lemma Operator.keepsAlike_ofNumbers {f : Float → Float → Except Fault Value}
    (hf : ∀ x x' y y', Number.Alike x x' → Number.Alike y y' → KeepsAlike (f x y) (f x' y')) :
    KeepsAlike (ofNumbers f v w) (ofNumbers f v' w') :=
  hv.toNumber.bind fun _ _ hx => hw.toNumber.bind fun _ _ hy => hf _ _ _ _ hx hy

lemma Operator.keepsAlike_apply (op : Operator) : KeepsAlike (op.apply v w) (op.apply v' w') := by
  cases op with
  | join =>
    rw [apply, apply, hv.toText_eq, hw.toText_eq]
    exact .of_eq rfl
  | equal | unequal => exact (hv.same_eq hw).map fun _ _ h => h ▸ .same _
  | add => exact keepsAlike_ofNumbers hv hw fun _ _ _ _ hx hy => .ok (.float (hx.add hy))
  | subtract => exact keepsAlike_ofNumbers hv hw fun _ _ _ _ hx hy => .ok (.float (hx.sub hy))
  | multiply => exact keepsAlike_ofNumbers hv hw fun _ _ _ _ hx hy => .ok (.float (hx.mul hy))
  | divide =>
    exact keepsAlike_ofNumbers hv hw fun _ _ _ _ hx hy =>
      (hx.keepsUpTo_divide hy).map fun _ _ => .float
  | modulo =>
    exact keepsAlike_ofNumbers hv hw fun _ _ _ _ hx hy =>
      (hx.keepsUpTo_remainder hy).map fun _ _ => .float
  | power =>
    exact keepsAlike_ofNumbers hv hw fun _ _ _ _ hx hy =>
      (hx.keepsUpTo_power hy).map fun _ _ => .float
  | less | greater | atMost | atLeast =>
    refine keepsAlike_ofNumbers hv hw fun _ _ _ _ hx hy => .of_eq ?_
    simp only [hx.lt_iff hy, hx.le_iff hy, gt_iff_lt, ge_iff_le, hy.lt_iff hx, hy.le_iff hx]
  | other symbol => exact keepsAlike_ofNumbers hv hw fun _ _ _ _ _ _ => .error _ _

omit hw

lemma Sign.keepsAlike_apply (sign : Sign) : KeepsAlike (sign.apply v) (sign.apply v') := by
  cases sign with
  | negate => exact hv.toNumber.map fun _ _ hx => .float hx.neg
  | not =>
    rw [apply, apply, hv.toTruth_eq]
    exact .of_eq rfl
  | other symbol => exact .error _ _

end Operators

/-! ## Functions of values -/

namespace Function

section

variable {v v' w w' : Value} (hv : Value.Alike v v') (hw : Value.Alike w w')

include hv

lemma wholeNumber_eq : KeepsUpTo Eq (wholeNumber v) (wholeNumber v') :=
  hv.toNumber.bind fun _ _ hx => .eq hx.truncate_eq

lemma keepsAlike_ofText (f : String → Value) : KeepsAlike (ofText f v) (ofText f v') := by
  rw [ofText, ofText, hv.toText_eq]
  exact .of_eq rfl

lemma keepsAlike_ofNumber {f : Float → Except Fault Float}
    (hf : ∀ x x', Number.Alike x x' → KeepsUpTo Number.Alike (f x) (f x')) :
    KeepsAlike (ofNumber f v) (ofNumber f v') :=
  hv.toNumber.bind fun _ _ hx => (hf _ _ hx).bind fun _ _ hy => .ok (.float hy)

lemma keepsAlike_toInteger : KeepsAlike (toInteger v) (toInteger v') :=
  hv.toNumber.bind fun _ _ hx => (KeepsUpTo.eq hx.floor_eq).andThen fun _ => .ok (.same _)

lemma keepsAlike_datePart (reader : Everyday.Reader) (part : Date → Nat) :
    KeepsAlike (datePart reader part v) (datePart reader part v') := by
  rw [datePart, datePart, hv.toMoment_eq reader]
  exact .of_eq rfl

include hw

lemma keepsAlike_ofNumbers {f : Float → Float → Except Fault Float}
    (hf : ∀ x x' y y', Number.Alike x x' → Number.Alike y y' →
      KeepsUpTo Number.Alike (f x y) (f x' y')) :
    KeepsAlike (ofNumbers f v w) (ofNumbers f v' w') :=
  hv.toNumber.bind fun _ _ hx => hw.toNumber.bind fun _ _ hy =>
    (hf _ _ _ _ hx hy).bind fun _ _ hz => .ok (.float hz)

lemma keepsAlike_daysBetween (reader : Everyday.Reader) :
    KeepsAlike (daysBetween reader v w) (daysBetween reader v' w') := by
  rw [daysBetween, daysBetween, hv.toMoment_eq reader, hw.toMoment_eq reader]
  exact .of_eq rfl

/-- Zero places are one factor, and the sign of a zero is lost where it is rounded. -/
lemma keepsAlike_roundTo {round : Float → Except Fault Int}
    (hround : ∀ x x', Number.Alike x x' → round x = round x') :
    KeepsAlike (roundTo round v w) (roundTo round v' w') := by
  refine hw.toNumber.bind fun n n' hn => ?_
  refine ((Number.Alike.refl 10.0).keepsUpTo_power hn).bind fun factor factor' hfactor => ?_
  refine hv.toNumber.bind fun x x' hx => ?_
  refine (KeepsUpTo.eq (hround _ _ (hx.mul hfactor))).andThen fun whole => ?_
  refine (KeepsUpTo.eq rfl).andThen fun y => ?_
  exact ((Number.Alike.refl y).keepsUpTo_divide hfactor).bind fun _ _ hz => .ok (.float hz)

end

variable {u u' v v' w w' t t' : Value} {vs vs' : List Value} (hu : Value.Alike u u')
  (hv : Value.Alike v v') (hw : Value.Alike w w') (ht : Value.Alike t t')
  (hvs : List.Forall₂ Value.Alike vs vs')

include hvs in
lemma keepsAlike_joined : KeepsAlike (joined vs) (joined vs') := by
  refine .of_eq (congrArg (· >>= _) ?_)
  induction hvs with
  | nil => rfl
  | cons hv _ ih => rw [List.mapM_cons, List.mapM_cons, hv.toText_eq, ih]

include hvs in
lemma allTrue_eq : allTrue vs = allTrue vs' := by
  induction hvs with
  | nil => rfl
  | cons hv _ ih =>
    rw [allTrue, allTrue] at ih ⊢
    rw [List.allM, List.allM, hv.toTruth_eq, ih]

include hvs in
lemma anyTrue_eq : anyTrue vs = anyTrue vs' := by
  induction hvs with
  | nil => rfl
  | cons hv _ ih =>
    rw [anyTrue, anyTrue] at ih ⊢
    rw [List.anyM, List.anyM, hv.toTruth_eq, ih]

include hv hw in
lemma keepsAlike_leftPart : KeepsAlike (leftPart v w) (leftPart v' w') := by
  rw [leftPart, leftPart, hv.toText_eq]
  exact (KeepsUpTo.eq rfl).andThen fun s =>
    (wholeNumber_eq hw).andThen fun n => KeepsAlike.of_eq rfl

include hv hw in
lemma keepsAlike_rightPart : KeepsAlike (rightPart v w) (rightPart v' w') := by
  rw [rightPart, rightPart, hv.toText_eq]
  exact (wholeNumber_eq hw).andThen fun n => KeepsAlike.of_eq rfl

include hu hv hw in
lemma keepsAlike_middlePart : KeepsAlike (middlePart u v w) (middlePart u' v' w') := by
  rw [middlePart, middlePart, hu.toText_eq]
  exact (wholeNumber_eq hv).andThen fun i => (KeepsUpTo.eq rfl).andThen fun s =>
    (wholeNumber_eq hw).andThen fun n => KeepsAlike.of_eq rfl

include hu hv hw ht in
lemma keepsAlike_replacePart : KeepsAlike (replacePart u v w t) (replacePart u' v' w' t') := by
  rw [replacePart, replacePart, hu.toText_eq, ht.toText_eq]
  exact (KeepsUpTo.eq rfl).andThen fun s => (wholeNumber_eq hv).andThen fun i =>
    (wholeNumber_eq hw).andThen fun n => KeepsAlike.of_eq rfl

include hu hv hw in
lemma keepsAlike_replaceAll : KeepsAlike (replaceAll u v w) (replaceAll u' v' w') := by
  rw [replaceAll, replaceAll, hu.toText_eq, hv.toText_eq, hw.toText_eq]
  exact .of_eq rfl

include hu hv hw in
lemma keepsAlike_shiftDate (reader : Everyday.Reader) :
    KeepsAlike (shiftDate reader u v w) (shiftDate reader u' v' w') := by
  rw [shiftDate, shiftDate, hu.toMoment_eq reader, hw.toText_eq]
  refine (KeepsUpTo.eq rfl).andThen fun m => ?_
  cases m with
  | none => exact KeepsAlike.of_eq rfl
  | some m => exact (wholeNumber_eq hv).andThen fun n => KeepsAlike.of_eq rfl

end Function

/-- A rule that makes of values that are alike results that are alike. -/
def Rule.KeepsAlike : Rule → Prop
  | constant _ => True
  | one run => ∀ a a', Value.Alike a a' → TableFormula.KeepsAlike (run a) (run a')
  | two run | oneOrTwo _ run => ∀ a a' b b', Value.Alike a a' → Value.Alike b b' →
      TableFormula.KeepsAlike (run a b) (run a' b')
  | three run | twoOrThree _ run => ∀ a a' b b' c c', Value.Alike a a' → Value.Alike b b' →
      Value.Alike c c' → TableFormula.KeepsAlike (run a b c) (run a' b' c')
  | four run => ∀ a a' b b' c c' d d', Value.Alike a a' → Value.Alike b b' → Value.Alike c c' →
      Value.Alike d d' → TableFormula.KeepsAlike (run a b c d) (run a' b' c' d')
  | any run => ∀ args args', List.Forall₂ Value.Alike args args' →
      TableFormula.KeepsAlike (run args) (run args')

lemma Rule.KeepsAlike.exists_run? {rule : Rule} (h : rule.KeepsAlike) {args args' : List Value}
    (hargs : List.Forall₂ Value.Alike args args') {x : Except Fault Value}
    (hx : rule.run? args = some x) :
    ∃ x', rule.run? args' = some x' ∧ TableFormula.KeepsAlike x x' := by
  rw [run?.eq_def] at hx
  split at hx <;> cases hx
  · cases hargs
    exact ⟨_, rfl, .of_eq rfl⟩
  · obtain _ | ⟨ha, _ | _⟩ := hargs
    exact ⟨_, rfl, h _ _ ha⟩
  · obtain _ | ⟨ha, _ | ⟨hb, _ | _⟩⟩ := hargs
    exact ⟨_, rfl, h _ _ _ _ ha hb⟩
  · obtain _ | ⟨ha, _ | ⟨hb, _ | ⟨hc, _ | _⟩⟩⟩ := hargs
    exact ⟨_, rfl, h _ _ _ _ _ _ ha hb hc⟩
  · obtain _ | ⟨ha, _ | ⟨hb, _ | ⟨hc, _ | ⟨hd, _ | _⟩⟩⟩⟩ := hargs
    exact ⟨_, rfl, h _ _ _ _ _ _ _ _ ha hb hc hd⟩
  · obtain _ | ⟨ha, _ | _⟩ := hargs
    exact ⟨_, rfl, h _ _ _ _ ha (.same _)⟩
  · obtain _ | ⟨ha, _ | ⟨hb, _ | _⟩⟩ := hargs
    exact ⟨_, rfl, h _ _ _ _ ha hb⟩
  · obtain _ | ⟨ha, _ | ⟨hb, _ | _⟩⟩ := hargs
    exact ⟨_, rfl, h _ _ _ _ _ _ ha hb (.same _)⟩
  · obtain _ | ⟨ha, _ | ⟨hb, _ | ⟨hc, _ | _⟩⟩⟩ := hargs
    exact ⟨_, rfl, h _ _ _ _ _ _ ha hb hc⟩
  · exact ⟨_, rfl, h _ _ hargs⟩

lemma Rule.KeepsAlike.apply {rule : Rule} (h : rule.KeepsAlike) (name : String)
    {args args' : List Value} (hargs : List.Forall₂ Value.Alike args args') :
    TableFormula.KeepsAlike (rule.apply name args) (rule.apply name args') := by
  rw [Rule.apply, Rule.apply]
  cases hx : rule.run? args with
  | none => exact .error _ _
  | some x =>
    obtain ⟨x', hx', hkeeps⟩ := h.exists_run? hargs hx
    rw [hx']
    exact hkeeps

/-- What a function makes of given values does not depend on the sign of a zero among them, but for
the sign of a zero that it makes. -/
lemma Function.keepsAlike {reader : Everyday.Reader} {f : Function} {rule : Rule}
    (h : f.meaning reader = .ofValues rule) : rule.KeepsAlike := by
  cases f with
  | sum | average | minimum | maximum | count | distinct | switch | coalesce | today | now =>
    cases h
  | constTrue | constFalse =>
    cases h
    trivial
  | concatenate | concat =>
    cases h
    exact fun _ _ => keepsAlike_joined
  | length | upper | lower | trim | text =>
    cases h
    exact fun _ _ hv => keepsAlike_ofText hv _
  | substitute =>
    cases h
    exact fun _ _ _ _ _ _ => keepsAlike_replaceAll
  | left =>
    cases h
    exact fun _ _ _ _ => keepsAlike_leftPart
  | right =>
    cases h
    exact fun _ _ _ _ => keepsAlike_rightPart
  | mid =>
    cases h
    exact fun _ _ _ _ _ _ => keepsAlike_middlePart
  | replace =>
    cases h
    exact fun _ _ _ _ _ _ _ _ => keepsAlike_replacePart
  | round =>
    cases h
    exact fun _ _ _ _ hv hw => keepsAlike_roundTo hv hw fun _ _ hx =>
      (hx.add (.refl 0.5)).floor_eq
  | floor =>
    cases h
    exact fun _ _ _ _ hv hw => keepsAlike_roundTo hv hw fun _ _ hx => hx.floor_eq
  | ceil | ceiling =>
    cases h
    exact fun _ _ _ _ hv hw => keepsAlike_roundTo hv hw fun _ _ hx => hx.ceil_eq
  | abs =>
    cases h
    exact fun _ _ hv => keepsAlike_ofNumber hv fun _ _ hx => .ok hx.abs
  | value | float =>
    cases h
    exact fun _ _ hv => keepsAlike_ofNumber hv fun _ _ hx => .ok hx
  | power | pow =>
    cases h
    exact fun _ _ _ _ hv hw =>
      keepsAlike_ofNumbers hv hw fun _ _ _ _ => Number.Alike.keepsUpTo_power
  | mod =>
    cases h
    exact fun _ _ _ _ hv hw =>
      keepsAlike_ofNumbers hv hw fun _ _ _ _ => Number.Alike.keepsUpTo_remainder
  | sqrt =>
    cases h
    exact fun _ _ hv => keepsAlike_ofNumber hv fun _ _ => Number.Alike.keepsUpTo_squareRoot
  | log | log10 =>
    cases h
    exact fun _ _ hv => keepsAlike_ofNumber hv fun _ _ hx => hx.keepsUpTo_logarithm _
  | exp =>
    cases h
    exact fun _ _ hv => keepsAlike_ofNumber hv fun _ _ => Number.Alike.keepsUpTo_exponential
  | year | month | day =>
    cases h
    exact fun _ _ hv => keepsAlike_datePart hv reader _
  | dateDiff =>
    cases h
    exact fun _ _ _ _ hv hw => keepsAlike_daysBetween hv hw reader
  | dateAdd =>
    cases h
    exact fun _ _ _ _ _ _ hu hv hw => keepsAlike_shiftDate hu hv hw reader
  | int =>
    cases h
    exact fun _ _ => keepsAlike_toInteger
  | and =>
    cases h
    exact fun _ _ hvs => .of_eq (congrArg (Except.map ofTruth) (allTrue_eq hvs))
  | or =>
    cases h
    exact fun _ _ hvs => .of_eq (congrArg (Except.map ofTruth) (anyTrue_eq hvs))

end TableFormula
