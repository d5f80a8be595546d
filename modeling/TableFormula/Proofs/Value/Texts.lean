import TableFormula.Proofs.Evaluation.Equality
import TableFormula.Proofs.Number.Digits
import TableFormula.Proofs.Number.Written
import TableFormula.Proofs.Text.Printed

/-!
# Texts of numbers

A number that is shown as text is read back from it.  All shapes in which numbers are written are
numerals, so a reader takes the whole text, and no character of a numeral is noise that is dropped
before.  The value that is read is the double nearest to what was written: to the digits of a double
this is the double itself, and to an integer or a decimal it is the double that these count as.

What is no number is written in letters, which are read as zero, and it counts as zero itself.
-/

namespace TableFormula

open Number Text
open Float.Model (UnpackedFloat)

namespace Value

/-! ## Numerals in texts -/

lemma isNoise_eq_false_of_isDigit {c : Char} (h : c.isDigit = true) : isNoise c = false := by
  have hblank := (printed_of_isDigit h).isBlank_eq_false
  have hsigns : c ≠ '$' ∧ c ≠ ',' ∧ c ≠ '%' := by
    refine ⟨?_, ?_, ?_⟩ <;> rintro rfl <;> cases h
  simp [isNoise, hblank, hsigns]

/-- No character of a numeral is dropped before numbers are read. -/
lemma isNoise_eq_false_of_spells {word : List Char} {numeral : Numeral}
    (h : SpellsNumeral word numeral) : ∀ c ∈ word, isNoise c = false := by
  have hclosed : ∀ {word : List Char}, (word.all fun c => !isNoise c) = true →
      ∀ c ∈ word, isNoise c = false :=
    fun h c hc => by simpa using List.all_eq_true.mp h c hc
  have hsign : ∀ {word negative}, SpellsSign word negative → ∀ c ∈ word, isNoise c = false := by
    intro word negative h
    cases h <;> exact hclosed (by decide)
  have hdigits : ∀ {word : List Char}, (∀ c ∈ word, c.isDigit = true) →
      ∀ c ∈ word, isNoise c = false :=
    fun h c hc => isNoise_eq_false_of_isDigit (h c hc)
  have hpoint : isNoise '.' = false := by decide
  obtain ⟨hspells, hsize⟩ := h
  refine List.forall_mem_append.mpr ⟨hsign hspells, ?_⟩
  cases hsize with
  | infinite => exact hclosed (by decide)
  | decimal hpoint' hexponent =>
    refine List.forall_mem_append.mpr ⟨?_, ?_⟩
    · cases hpoint' with
      | whole hwhole => exact hdigits hwhole
      | point hwhole _ hplaces =>
        exact List.forall_mem_append.mpr
          ⟨hdigits hwhole, List.forall_mem_cons.mpr ⟨hpoint, hdigits hplaces⟩⟩
      | front hplaces => exact List.forall_mem_cons.mpr ⟨hpoint, hdigits hplaces⟩
    · cases hexponent with
      | none => exact List.forall_mem_nil _
      | @some mark hmark _ _ hspells _ hplaces =>
        have hmark' : isNoise mark = false := by
          obtain rfl | rfl := hmark <;> decide
        exact List.forall_mem_cons.mpr
          ⟨hmark', List.forall_mem_append.mpr ⟨hsign hspells, hdigits hplaces⟩⟩

/-- A text that is a numeral has its value. -/
lemma numberOfText_of_spells {word : List Char} {numeral : Numeral}
    (h : SpellsNumeral word numeral) : numberOfText word = numeral.toFloat := by
  have hfilter : word.filter (!isNoise ·) = word :=
    List.filter_eq_self.mpr fun c hc => by rw [isNoise_eq_false_of_spells h c hc]; rfl
  rw [numberOfText, hfilter, h.read?_eq]

lemma spellsSign_minus (negative : Bool) :
    SpellsSign (if negative then ['-'] else []) negative := by
  cases negative
  · exact .none
  · exact .minus

/-- A double that is nearest to what is written behind its sign is read back. -/
lemma beq_numberOfText {x : Float} {size : List Char} {negative : Bool} {t : ℚ}
    (hsize : SpellsValue size t) (hx : IsNearest x (if negative then .negative else .positive) t) :
    (numberOfText ((if negative then ['-'] else []) ++ size) == x) = true := by
  obtain ⟨digits, exponent, hspells, rfl⟩ := hsize
  rw [numberOfText_of_spells (.mk (spellsSign_minus negative) hspells)]
  exact IsNearest.beq (Numeral.isValue_toFloat ⟨negative, .decimal digits exponent⟩) hx

/-- So is a double that is nearest to a whole number. -/
lemma beq_numberOfText_integerText {x : Float} {n : ℤ}
    (hx : IsNearest x (if n < 0 then .negative else .positive) n.natAbs) :
    (numberOfText (integerText n) == x) = true := by
  have hvalue : IsNearest (Numeral.toFloat ⟨n < 0, .decimal n.natAbs 0⟩)
      (if decide (n < 0) = true then .negative else .positive) (n.natAbs * 10 ^ (0 : ℤ)) :=
    Numeral.isValue_toFloat ⟨n < 0, .decimal n.natAbs 0⟩
  rw [zpow_zero, mul_one] at hvalue
  simp only [decide_eq_true_eq] at hvalue
  rw [numberOfText_of_spells (spellsNumeral_integerText n)]
  exact hvalue.beq hx

/-- What is infinite is written as one word. -/
lemma numberOfText_infinity (negative : Bool) :
    numberOfText ((if negative then ['-'] else []) ++ infinityWord) =
      Numeral.toFloat ⟨negative, .infinite⟩ :=
  numberOfText_of_spells (.mk (spellsSign_minus negative) .infinite)

/-- A word that does not begin like a number is read as zero, with a sign or without. -/
lemma numberOfText_word (negative : Bool) (cs : List Char) :
    numberOfText ((if negative then ['-'] else []) ++ 'N' :: cs) = 0.0 := by
  have hfilter : ((if negative then ['-'] else []) ++ 'N' :: cs).filter (!isNoise ·) =
      (if negative then ['-'] else []) ++ 'N' :: cs.filter (!isNoise ·) := by
    have hminus : isNoise '-' = false := by decide
    have hletter : isNoise 'N' = false := by decide
    cases negative <;> simp [hminus, hletter]
  rw [numberOfText, hfilter]
  cases negative <;> rfl

/-! ## Integers and decimals -/

/-- A value is read back from its text. -/
def IsReadBack (v : Value) : Prop :=
  ∀ x, v.toNumber = .ok x → (numberOfText v.shown.toList == x) = true

lemma isReadBack_integer (n : ℤ) : (integer n).IsReadBack := by
  intro x hx
  have hread : x = Float.ofInt n := by
    rw [toNumber, ofInt] at hx
    split at hx <;> cases hx
    rfl
  rw [hread, shown, String.toList_ofList]
  exact beq_numberOfText_integerText (isNearest_ofInt n)

lemma isReadBack_decimal (d : Decimal) : (decimal d).IsReadBack := by
  intro x hx
  rw [shown, String.toList_ofList]
  cases d with
  | finite negative digits exponent =>
    have hvalue : IsNearest (Numeral.toFloat ⟨negative, .decimal digits exponent⟩)
        (if negative then .negative else .positive) (digits * 10 ^ exponent) :=
      Numeral.isValue_toFloat ⟨negative, .decimal digits exponent⟩
    obtain rfl : orZero (Numeral.toFloat ⟨negative, .decimal digits exponent⟩) = x := by
      cases hx
      rfl
    rw [orZero_of_isNaN_eq_false hvalue.isNaN_eq_false]
    exact beq_numberOfText (spellsValue_sizeText digits exponent) hvalue
  | infinite negative =>
    have hnan := (Numeral.isValue_toFloat ⟨negative, .infinite⟩).isNaN_eq_false
    obtain rfl : orZero (Numeral.toFloat ⟨negative, .infinite⟩) = x := by
      cases hx
      rfl
    rw [orZero_of_isNaN_eq_false hnan, Decimal.text, numberOfText_infinity]
    exact beq_float_self hnan
  | nan negative signalling payload =>
    cases signalling with
    | true => cases hx
    | false =>
      obtain rfl : 0.0 = x := by
        cases hx
        rfl
      have htext : (Decimal.nan negative false payload).text = (if negative then ['-'] else []) ++
          'N' :: 'a' :: 'N' :: (if payload = 0 then [] else decimalDigits payload) := by
        simp [Decimal.text]
      rw [htext, numberOfText_word]
      exact beq_float_self rfl

/-! ## Floats -/

section

variable {x : Float} {d : BinaryFraction}

lemma floatText_nan (h : kind x = .nan) : floatText x = "NaN" := by
  rw [floatText, Notation.text, h]

lemma floatText_infinite {negative : Bool} (h : kind x = .infinite negative) :
    floatText x = (if negative then "-" else "") ++ "Infinity" := by
  rw [floatText, Notation.text, h]

lemma floatText_whole (h : kind x = .finite d) (hwhole : d.isWhole = true)
    (hshort : d.floor.natAbs < 10 ^ 21) : floatText x = String.ofList (integerText d.floor) := by
  rw [floatText, h]
  exact if_pos (by rw [hwhole, Bool.true_and, decide_eq_true_eq]; exact hshort)

lemma floatText_fraction (h : kind x = .finite d)
    (hnot : ¬ (d.isWhole = true ∧ d.floor.natAbs < 10 ^ 21)) :
    floatText x = String.ofList (cellNotation.fraction d) := by
  rw [floatText, Notation.text, h]
  simpa using fun hwhole hshort => absurd ⟨hwhole, hshort⟩ hnot

end

/-- The floor of a whole fraction is its value. -/
lemma cast_floor_of_isWhole {d : BinaryFraction} (h : d.isWhole = true) : (d.floor : ℚ) =
    if d.negative then -((d.mantissa : ℚ) * 2 ^ d.exponent) else (d.mantissa : ℚ) * 2 ^ d.exponent := by
  have hdvd : (d.denominator : ℤ) ∣ d.numerator :=
    Int.dvd_of_emod_eq_zero (by simpa [BinaryFraction.isWhole] using h)
  have hpos : ((d.denominator : ℤ) : ℚ) ≠ 0 := by exact_mod_cast d.denominator_pos.ne'
  rw [← d.numerator_div_denominator, BinaryFraction.floor,
    Int.fdiv_eq_ediv_of_nonneg _ (Int.natCast_nonneg _), Int.cast_div hdvd hpos, Int.cast_natCast]

lemma if_isNegative (sign : UnpackedFloat.Sign) :
    (if isNegative sign then UnpackedFloat.Sign.negative else .positive) = sign := by
  cases sign <;> rfl

section

variable {x : Float} {sign : UnpackedFloat.Sign} {m : ℕ} {e : ℤ} {hm : 0 < m}
  (hx : x.toModel.unpack = .finite sign m e hm)

include hx

/-- A whole float is the nearest double to its floor. -/
lemma isNearest_floor_of_isWhole
    (h : (BinaryFraction.mk (isNegative sign) m e).isWhole = true) :
    IsNearest x (if (BinaryFraction.mk (isNegative sign) m e).floor < 0 then .negative else .positive)
      (BinaryFraction.mk (isNegative sign) m e).floor.natAbs := by
  have hnearest := isNearest_of_unpack hx (isDouble_of_unpack hx).1.rounds rfl
  have hpos : (0 : ℚ) < m * 2 ^ e := mul_pos (by exact_mod_cast hm) (unit_pos e)
  have hfloor := cast_floor_of_isWhole h
  generalize (BinaryFraction.mk (isNegative sign) m e).floor = n at *
  rw [Nat.cast_natAbs, Int.cast_abs, hfloor]
  have hsign : n < 0 ↔ isNegative sign = true := by
    rw [← Int.cast_lt_zero (R := ℚ), hfloor]
    cases isNegative sign <;> simp [hpos, hpos.le]
  simp only [hsign, if_isNegative]
  cases sign with
  | positive => simpa [isNegative, abs_of_pos hpos] using hnearest
  | negative => simpa [isNegative, abs_of_pos hpos] using hnearest

/-- A float with digits behind the point, or with very many in front of it, is read back. -/
lemma beq_numberOfText_fraction :
    (numberOfText (cellNotation.fraction ⟨isNegative sign, m, e⟩) == x) = true := by
  obtain ⟨s, hs⟩ : ∃ s, s = (BinaryFraction.shortest ⟨isNegative sign, m, e⟩).stripZeros 400 :=
    ⟨_, rfl⟩
  have hnearest : IsNearest x (if isNegative sign then .negative else .positive) s.value := by
    rw [if_isNegative, hs]
    exact isNearest_shortest hx (isNegative sign) 400
  have hminus : ∀ (negative : Bool) (size : List Char), (if negative then '-' :: size else size) =
      (if negative then ['-'] else []) ++ size := by
    intro negative size
    cases negative <;> rfl
  have hfraction : cellNotation.fraction ⟨isNegative sign, m, e⟩ =
      (if isNegative sign then ['-'] else []) ++ cellNotation.layout s := by
    rw [Notation.fraction, ← hminus, hs]
    dsimp only
    rw [if_neg hm.ne']
  rw [hfraction]
  exact beq_numberOfText (spellsValue_layout cellNotation s) hnearest

end

/-- Zero is a whole number, whatever its sign. -/
lemma numerator_zero (negative : Bool) (e : ℤ) :
    (BinaryFraction.mk negative 0 e).numerator = 0 := by
  rw [BinaryFraction.numerator, Nat.zero_mul]
  cases negative <;> rfl

lemma isReadBack_float (x : Float) : (float x).IsReadBack := by
  intro y hy
  obtain rfl : orZero x = y := by
    cases hy
    rfl
  have hkind := kind_eq x
  have hnan : x.isNaN = x.toModel.unpack.isNaN := rfl
  rw [shown]
  cases hx : x.toModel.unpack with
  | notANumber =>
    rw [hx] at hkind hnan
    have hnan' : x.isNaN = true := hnan
    have htext : "NaN".toList = (if false then ['-'] else []) ++ 'N' :: ['a', 'N'] := rfl
    rw [floatText_nan hkind, orZero, if_pos hnan', htext, numberOfText_word]
    exact beq_float_self rfl
  | infinity sign =>
    rw [hx] at hkind hnan
    have htext : ((if isNegative sign then "-" else "") ++ "Infinity").toList =
        (if isNegative sign then ['-'] else []) ++ infinityWord := by
      cases sign <;> rfl
    have hvalue : (Numeral.toFloat ⟨isNegative sign, .infinite⟩).toModel.unpack =
        .infinity (if isNegative sign then .negative else .positive) :=
      Numeral.isValue_toFloat ⟨isNegative sign, .infinite⟩
    rw [if_isNegative] at hvalue
    rw [floatText_infinite hkind, orZero_of_isNaN_eq_false hnan, htext, numberOfText_infinity,
      beq_float_iff]
    exact .inl ⟨hvalue.trans hx.symm, (Numeral.isValue_toFloat _).isNaN_eq_false⟩
  | zero sign =>
    rw [hx] at hkind hnan
    have hnumerator := numerator_zero (isNegative sign) (-1074)
    have hfloor : (BinaryFraction.mk (isNegative sign) 0 (-1074)).floor = 0 := by
      rw [BinaryFraction.floor, hnumerator, Int.zero_fdiv]
    have hwhole : (BinaryFraction.mk (isNegative sign) 0 (-1074)).isWhole = true := by
      rw [BinaryFraction.isWhole, hnumerator, Int.zero_emod]
      rfl
    rw [floatText_whole hkind hwhole (by rw [hfloor]; decide), orZero_of_isNaN_eq_false hnan, hfloor,
      String.toList_ofList, beq_float_iff]
    exact .inr ⟨.positive, sign, rfl, hx⟩
  | finite sign m e hm =>
    rw [hx] at hkind hnan
    rw [orZero_of_isNaN_eq_false hnan]
    by_cases hshort : (BinaryFraction.mk (isNegative sign) m e).isWhole = true ∧
        (BinaryFraction.mk (isNegative sign) m e).floor.natAbs < 10 ^ 21
    · rw [floatText_whole hkind hshort.1 hshort.2, String.toList_ofList]
      exact beq_numberOfText_integerText (isNearest_floor_of_isWhole hx hshort.1)
    · rw [floatText_fraction hkind hshort, String.toList_ofList]
      exact beq_numberOfText_fraction hx

/-- **A number is read back from its text.** -/
lemma isReadBack_of_isNumber {v : Value} (h : v.isNumber = true) : v.IsReadBack := by
  cases v with
  | integer n => exact isReadBack_integer n
  | float x => exact isReadBack_float x
  | decimal d => exact isReadBack_decimal d
  | _ => cases h

end Value

/-! ## Formulas -/

namespace Formula

variable {c : Context} {f : Formula}

/-- The number of a formula, by a function. -/
def valueOf (f : Formula) : Formula :=
  call Function.value.name [f]

/-- The text of a formula, by a function. -/
def textOf (f : Formula) : Formula :=
  call Function.text.name [f]

/-- A function of one value is given the outcome of its argument. -/
lemma outcome_call_one {g : Function} {run : Value → Except Fault Value}
    (c : Context) (hrule : g.meaning c.clock.everyday = .ofValues (.one run)) (f : Formula) :
    (call g.name [f]).outcome c = f.outcome c >>= run := by
  rw [outcome_call_ofValues c hrule, List.mapM_cons, List.mapM_nil]
  cases f.outcome c <;> rfl

lemma outcome_valueOf (f : Formula) (c : Context) :
    (valueOf f).outcome c = f.outcome c >>= fun v => v.toNumber.map Value.float := by
  have hrule : Function.value.meaning c.clock.everyday =
      .ofValues (.one (Function.ofNumber .ok)) := rfl
  rw [valueOf, outcome_call_one c hrule]
  rfl

lemma outcome_textOf (f : Formula) (c : Context) :
    (textOf f).outcome c = f.outcome c >>= fun v => v.toText.map Value.text :=
  outcome_call_one c rfl f

/-- **Texts of numbers.**  Every integer, float or decimal that has a number has a text and is read
from it as an equal number, so it is the same value as its text, and the function that gives the
number of a formula gives an equal number for the text of the formula. -/
theorem text_keeps_number {v : Value} {x : Float} (hv : v.isNumber = true)
    (hx : v.toNumber = .ok x) :
    ∃ s y, v.toText = .ok s ∧ (Value.text s).toNumber = .ok y ∧ (y == x) = true ∧
      v.same (.text s) = .ok true ∧
      ∀ (c : Context) (f : Formula), c.HasRoom (valueOf (textOf f)) → f.eval c = .ok v →
        (valueOf f).eval c = .ok (.float x) ∧ (valueOf (textOf f)).eval c = .ok (.float y) := by
  have hread := Value.isReadBack_of_isNumber hv x hx
  have hshown : v.toText = .ok v.shown := Value.toText_of_hasText (Value.hasText_of_toNumber hx)
  have htext : (Value.text v.shown).toNumber = .ok (Value.numberOfText v.shown.toList) := rfl
  refine ⟨_, _, hshown, htext, hread, ?_, fun c f hroom hf => ?_⟩
  · have hnumber : v.comparesByNumber = true := by
      cases v <;> first | rfl | cases hv
    rw [Value.same_eq hx htext, hnumber, Bool.true_or, if_pos rfl, beq_float_comm, hread]
  · have hlower : (valueOf f).height ≤ (valueOf (textOf f)).height ∧
        f.height ≤ (valueOf (textOf f)).height := by
      simp only [valueOf, textOf, height, heightAll]
      omega
    rw [eval_eq_outcome (hroom.of_le hlower.2)] at hf
    rw [eval_eq_outcome hroom, eval_eq_outcome (hroom.of_le hlower.1), outcome_valueOf,
      outcome_valueOf, outcome_textOf, hf]
    show v.toNumber.map Value.float = _ ∧
      (v.toText.map Value.text >>= fun w => w.toNumber.map Value.float) = _
    rw [hx, hshown]
    exact ⟨rfl, congrArg (Except.map Value.float) htext⟩

/-- A tenth, which is no binary fraction. -/
theorem text_keeps_number_tenth :
    ∃ s y, (Value.float 0.1).toText = .ok s ∧ (Value.text s).toNumber = .ok y ∧
      (y == (0.1 : Float)) = true ∧
      (valueOf (textOf (number 0.1))).eval (.plain 3) = .ok (.float y) := by
  obtain ⟨s, y, hs, hy, heq, -, heval⟩ := text_keeps_number (v := .float 0.1) (x := 0.1) rfl rfl
  exact ⟨s, y, hs, hy, heq, (heval (.plain 3) (number 0.1) (by decide) rfl).2⟩

end Formula

end TableFormula
