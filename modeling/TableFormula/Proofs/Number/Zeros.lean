import TableFormula.Number.Arithmetic
import TableFormula.Proofs.Number.Decimals
import TableFormula.Proofs.Number.Order

/-!
# The sign of zero

There are two zeros, which compare as equal and differ in their sign.  Two doubles are *alike* if
they are one double or both zero.  Numbers that are alike round to the same whole number and compare
in the same way, and arithmetic makes of them results that are alike again.
-/

namespace TableFormula.Number

open Float.Model Float.Model.UnpackedFloat

/-! ## Parts -/

/-- Parts of doubles are alike if they are the same or both those of a zero. -/
inductive AlikeParts : UnpackedFloat → UnpackedFloat → Prop
  | same (f : UnpackedFloat) : AlikeParts f f
  | zeros (sign sign' : UnpackedFloat.Sign) : AlikeParts (.zero sign) (.zero sign')

namespace AlikeParts

variable {f f' g g' h : UnpackedFloat}

lemma trans (hfg : AlikeParts f g) (hgh : AlikeParts g h) : AlikeParts f h := by
  cases hfg with
  | same => exact hgh
  | zeros sign sign' =>
    cases hgh with
    | same => exact .zeros _ _
    | zeros => exact .zeros _ _

/-- An operation keeps what is alike if on either side the two zeros do the same, up to a sign of
zero. -/
lemma operation {op : UnpackedFloat → UnpackedFloat → UnpackedFloat}
    (hleft : ∀ sign sign' g, AlikeParts (op (.zero sign) g) (op (.zero sign') g))
    (hright : ∀ sign sign' f, AlikeParts (op f (.zero sign)) (op f (.zero sign')))
    (hf : AlikeParts f f') (hg : AlikeParts g g') : AlikeParts (op f g) (op f' g') := by
  have hfirst : AlikeParts (op f g) (op f' g) := by
    cases hf with
    | same => exact .same _
    | zeros => exact hleft _ _ g
  have hsecond : AlikeParts (op f' g) (op f' g') := by
    cases hg with
    | same => exact .same _
    | zeros => exact hright _ _ f'
  exact hfirst.trans hsecond

/-- The sum of two zeros is a zero, and to any other number a zero adds nothing. -/
lemma add (hf : AlikeParts f f') (hg : AlikeParts g g') :
    AlikeParts (f.add .binary64 g) (f'.add .binary64 g') := by
  refine operation (fun sign sign' g => ?_) (fun sign sign' f => ?_) hf hg
  · cases g with
    | zero sign'' => cases sign <;> cases sign' <;> cases sign'' <;> exact .zeros _ _
    | _ => exact .same _
  · cases f with
    | zero sign'' => cases sign <;> cases sign' <;> cases sign'' <;> exact .zeros _ _
    | _ => exact .same _

lemma sub (hf : AlikeParts f f') (hg : AlikeParts g g') :
    AlikeParts (f.sub .binary64 g) (f'.sub .binary64 g') := by
  refine operation (fun sign sign' g => ?_) (fun sign sign' f => ?_) hf hg
  · cases g with
    | zero sign'' => cases sign <;> cases sign' <;> cases sign'' <;> exact .zeros _ _
    | _ => exact .same _
  · cases f with
    | zero sign'' => cases sign <;> cases sign' <;> cases sign'' <;> exact .zeros _ _
    | _ => exact .same _

/-- A product with a zero is a zero, or it is none, whatever the sign of the zero is. -/
lemma mul (hf : AlikeParts f f') (hg : AlikeParts g g') :
    AlikeParts (f.mul .binary64 g) (f'.mul .binary64 g') := by
  refine operation (fun sign sign' g => ?_) (fun sign sign' f => ?_) hf hg
  · cases g with
    | zero | finite => exact .zeros _ _
    | infinity | notANumber => exact .same _
  · cases f with
    | zero | finite => exact .zeros _ _
    | infinity | notANumber => exact .same _

/-- The quotients of the two zeros; no quotient by them is asked for. -/
lemma div (hf : AlikeParts f f') : AlikeParts (f.div .binary64 g) (f'.div .binary64 g) := by
  cases hf with
  | same => exact .same _
  | zeros =>
    cases g with
    | infinity | finite => exact .zeros _ _
    | zero | notANumber => exact .same _

lemma sqrt (hf : AlikeParts f f') : AlikeParts (f.sqrt .binary64) (f'.sqrt .binary64) := by
  cases hf with
  | same => exact .same _
  | zeros => exact .zeros _ _

lemma neg (hf : AlikeParts f f') : AlikeParts f.neg f'.neg := by
  cases hf with
  | same => exact .same _
  | zeros => exact .zeros _ _

lemma abs (hf : AlikeParts f f') : AlikeParts f.abs f'.abs := by
  cases hf with
  | same => exact .same _
  | zeros => exact .same _

/-- A zero compares with a number as the other one does. -/
lemma compare_eq (hf : AlikeParts f f') (hg : AlikeParts g g') : f.compare g = f'.compare g' := by
  have hfirst : f.compare g = f'.compare g := by
    cases hf with
    | same => rfl
    | zeros =>
      cases g with
      | infinity sign | finite sign => cases sign <;> rfl
      | _ => rfl
  have hsecond : f'.compare g = f'.compare g' := by
    cases hg with
    | same => rfl
    | zeros =>
      cases f' with
      | infinity sign | finite sign => cases sign <;> rfl
      | _ => rfl
  exact hfirst.trans hsecond

lemma place_eq (hf : AlikeParts f f') : place f = place f' := by
  cases hf <;> rfl

lemma isNaN_eq (hf : AlikeParts f f') : f.isNaN = f'.isNaN := by
  cases hf <;> rfl

lemma isFinite_eq (hf : AlikeParts f f') : f.isFinite = f'.isFinite := by
  cases hf <;> rfl

lemma isInf_eq (hf : AlikeParts f f') : f.isInf = f'.isInf := by
  cases hf <;> rfl

end AlikeParts

/-! ## Doubles -/

/-- Doubles are alike if they are one double or both zero. -/
def Alike (x y : Float) : Prop :=
  x = y ∨ ∃ sign sign', x.toModel.unpack = .zero sign ∧ y.toModel.unpack = .zero sign'

lemma AlikeParts.pack {f g : UnpackedFloat} (h : AlikeParts f g) :
    Alike (.ofModel (Float.Model.pack f)) (.ofModel (Float.Model.pack g)) := by
  cases h with
  | same => exact .inl rfl
  | zeros sign sign' => exact .inr ⟨sign, sign', unpack_pack_zero sign, unpack_pack_zero sign'⟩

/-- Doubles that stand for one fraction or one infinity are one double. -/
lemma eq_of_kind_eq {x y : Float} (h : kind x = kind y) (hx : kind x ≠ .nan) : x = y := by
  have hbits : x.toBits = y.toBits := by
    have hlt := x.toBits.toNat_lt
    have hlt' := y.toBits.toNat_lt
    rw [← UInt64.toNat_inj]
    simp only [kind, Nat.pow_eq] at h hx
    generalize x.toBits.toNat = b at *
    generalize y.toBits.toNat = b' at *
    split_ifs at h hx <;> simp_all <;> omega
  obtain ⟨⟨bits, hvalid⟩⟩ := x
  obtain ⟨⟨bits', hvalid'⟩⟩ := y
  cases hbits
  rfl

namespace Alike

variable {x x' y y' : Float}

lemma refl (x : Float) : Alike x x :=
  .inl rfl

lemma parts (h : Alike x y) : AlikeParts x.toModel.unpack y.toModel.unpack := by
  obtain rfl | ⟨sign, sign', hx, hy⟩ := h
  · exact .same _
  · rw [hx, hy]
    exact .zeros sign sign'

/-- Numbers are alike if they compare as equal. -/
lemma of_beq (h : (x == y) = true) : Alike x y := by
  obtain ⟨hparts, hnan⟩ | hzeros := (beq_float_iff x y).mp h
  · refine .inl (eq_of_kind_eq ?_ ?_)
    · rw [kind_eq, kind_eq, hparts]
    · intro hkind
      rw [kind_eq] at hkind
      have hnan : x.toModel.unpack.isNaN = false := hnan
      cases hx : x.toModel.unpack with
      | notANumber =>
        rw [hx] at hnan
        cases hnan
      | _ =>
        rw [hx] at hkind
        cases hkind
  · exact .inr hzeros

variable (hx : Alike x x') (hy : Alike y y')

include hx

/-- Numbers that are alike compare as equal. -/
lemma beq (hnan : x.isNaN = false) : (x == x') = true := by
  obtain rfl | hzeros := hx
  · exact beq_float_self hnan
  · exact (beq_float_iff x x').mpr (.inr hzeros)

lemma rank_eq : rank x = rank x' :=
  hx.parts.place_eq

lemma isNaN_eq : x.isNaN = x'.isNaN :=
  hx.parts.isNaN_eq

lemma isFinite_eq : x.isFinite = x'.isFinite :=
  hx.parts.isFinite_eq

lemma isInf_eq : x.isInf = x'.isInf :=
  hx.parts.isInf_eq

lemma neg : Alike (-x) (-x') :=
  hx.parts.neg.pack

lemma abs : Alike x.abs x'.abs :=
  hx.parts.abs.pack

lemma sqrt : Alike x.sqrt x'.sqrt :=
  hx.parts.sqrt.pack

lemma div (y : Float) : Alike (x / y) (x' / y) :=
  hx.parts.div.pack

include hy

lemma add : Alike (x + y) (x' + y') :=
  (hx.parts.add hy.parts).pack

lemma sub : Alike (x - y) (x' - y') :=
  (hx.parts.sub hy.parts).pack

lemma mul : Alike (x * y) (x' * y') :=
  (hx.parts.mul hy.parts).pack

lemma compare_eq : x.toModel.unpack.compare y.toModel.unpack =
    x'.toModel.unpack.compare y'.toModel.unpack :=
  hx.parts.compare_eq hy.parts

lemma beq_eq : (x == y) = (x' == y') :=
  congrArg (· == some Ordering.eq) (hx.compare_eq hy)

lemma lt_iff : x < y ↔ x' < y' := by
  have hlt : ∀ x y : Float,
      x < y ↔ (x.toModel.unpack.compare y.toModel.unpack == some .lt) = true :=
    fun x y => decide_eq_true_iff
  rw [hlt, hlt, hx.compare_eq hy]

lemma le_iff : x ≤ y ↔ x' ≤ y' := by
  have hle : ∀ x y : Float,
      x ≤ y ↔ (x.toModel.unpack.compare y.toModel.unpack).any (·.isLE) = true :=
    fun x y => decide_eq_true_iff
  rw [hle, hle, hx.compare_eq hy]

end Alike

/-! ## Whole numbers -/

/-- Numbers that are alike are one number, or both stand for no units. -/
lemma Alike.eq_or_kinds {x y : Float} (h : Alike x y) : x = y ∨
    ∃ negative negative', kind x = .finite ⟨negative, 0, -1074⟩ ∧
      kind y = .finite ⟨negative', 0, -1074⟩ := by
  obtain heq | ⟨sign, sign', hx, hy⟩ := h
  · exact .inl heq
  · refine .inr ⟨isNegative sign, isNegative sign', ?_, ?_⟩
    · rw [Number.kind_eq, hx]
      rfl
    · rw [Number.kind_eq, hy]
      rfl

lemma Alike.rounded_eq {round : BinaryFraction → Int} {x y : Float}
    (hround : ∀ negative, round ⟨negative, 0, -1074⟩ = 0) (h : Alike x y) :
    rounded round x = rounded round y := by
  obtain rfl | ⟨negative, negative', hx, hy⟩ := h.eq_or_kinds
  · rfl
  · rw [rounded, rounded, hx, hy]
    simp only [hround]

/-- The fraction of a zero has no numerator. -/
lemma BinaryFraction.numerator_zero (negative : Bool) (e : ℤ) :
    BinaryFraction.numerator ⟨negative, 0, e⟩ = 0 := by
  rw [BinaryFraction.numerator, Nat.zero_mul]
  cases negative <;> rfl

lemma Alike.floor_eq {x y : Float} (h : Alike x y) : floor x = floor y := by
  refine h.rounded_eq fun negative => ?_
  rw [BinaryFraction.floor, BinaryFraction.numerator_zero, Int.zero_fdiv]

lemma Alike.ceil_eq {x y : Float} (h : Alike x y) : ceil x = ceil y := by
  refine h.rounded_eq fun negative => ?_
  rw [BinaryFraction.ceil, BinaryFraction.numerator_zero, Int.neg_zero, Int.zero_fdiv, Int.neg_zero]

lemma Alike.truncate_eq {x y : Float} (h : Alike x y) : truncate x = truncate y := by
  refine h.rounded_eq fun negative => ?_
  rw [BinaryFraction.truncate, BinaryFraction.numerator_zero, Int.zero_tdiv]

/-- The double nearest to zero. -/
lemma unpack_ofScientific_zero (down : ℕ) :
    (Float.ofScientific 0 true down).toModel.unpack = .zero .positive := by
  have hnearest : IsNearest (Float.ofScientific 0 true down) .positive 0 := by
    by_cases hfew : down ≤ 22
    · have h := (isNearest_ofScientific_few (n := 0) ⟨by decide, hfew⟩).2
      rwa [Nat.cast_zero, zero_div] at h
    · have h := isNearest_ofScientific 0 (-(down : ℤ))
      rwa [decide_eq_true (by omega), Int.natAbs_neg, Int.natAbs_natCast, Nat.cast_zero,
        zero_mul] at h
  have hzero : IsNearest (Float.ofNat 0) .positive 0 := by
    have h := isNearest_ofNat 0
    rwa [Nat.cast_zero] at h
  exact hnearest.unpack_eq hzero

/-- The double of a fraction without numerator is a zero. -/
lemma exists_unpack_toFloat_zero (negative : Bool) (e : ℤ) :
    ∃ sign, (BinaryFraction.toFloat ⟨negative, 0, e⟩).toModel.unpack = .zero sign := by
  have hzero := unpack_ofScientific_zero (-e).toNat
  rw [BinaryFraction.toFloat, Nat.zero_mul, Nat.zero_mul]
  cases negative with
  | false => exact ⟨.positive, hzero⟩
  | true =>
    refine ⟨.negative, ?_⟩
    show (Float.Model.pack
      (UnpackedFloat.neg (Float.ofScientific 0 true _).toModel.unpack)).unpack = _
    rw [hzero]
    exact unpack_pack_zero .negative

/-- Remainders of the two zeros are alike. -/
lemma alike_remainder_zero (negative negative' : Bool) (d : BinaryFraction) :
    Alike (BinaryFraction.toFloat (.remainder ⟨negative, 0, -1074⟩ d))
      (BinaryFraction.toFloat (.remainder ⟨negative', 0, -1074⟩ d)) := by
  have hzero : ∀ negative, ∃ e,
      BinaryFraction.remainder ⟨negative, 0, -1074⟩ d = ⟨negative, 0, e⟩ := by
    intro negative
    refine ⟨min (-1074) d.exponent, ?_⟩
    simp only [BinaryFraction.remainder, Nat.zero_mul, Nat.zero_mod]
  obtain ⟨e, he⟩ := hzero negative
  obtain ⟨e', he'⟩ := hzero negative'
  obtain ⟨sign, hsign⟩ := exists_unpack_toFloat_zero negative e
  obtain ⟨sign', hsign'⟩ := exists_unpack_toFloat_zero negative' e'
  rw [he, he']
  exact .inr ⟨sign, sign', hsign, hsign'⟩

/-! ## Operations that may have no value -/

/-- If the first computation has a value, then the second one has a value that is related to it. -/
def KeepsUpTo {α β : Type} (R : α → β → Prop) (x : Except Fault α) (y : Except Fault β) : Prop :=
  ∀ a, x = .ok a → ∃ b, y = .ok b ∧ R a b

namespace KeepsUpTo

variable {α β γ δ : Type} {R : α → β → Prop} {S : γ → δ → Prop}

lemma ok {a : α} {b : β} (h : R a b) : KeepsUpTo R (.ok a) (.ok b) := by
  rintro _ ⟨⟩
  exact ⟨b, rfl, h⟩

lemma error (fault : Fault) (y : Except Fault β) : KeepsUpTo R (.error fault) y := by
  rintro a ⟨⟩

lemma of_eq {x y : Except Fault α} {R : α → α → Prop} (hR : ∀ a, R a a) (h : x = y) :
    KeepsUpTo R x y := by
  rintro a rfl
  exact ⟨a, h.symm, hR a⟩

lemma bind {x : Except Fault α} {y : Except Fault β} {f : α → Except Fault γ}
    {g : β → Except Fault δ} (hx : KeepsUpTo R x y) (hf : ∀ a b, R a b → KeepsUpTo S (f a) (g b)) :
    KeepsUpTo S (x >>= f) (y >>= g) := by
  cases x with
  | error fault => exact error fault _
  | ok a =>
    obtain ⟨b, rfl, hab⟩ := hx a rfl
    exact hf a b hab

lemma eq {x y : Except Fault α} (h : x = y) : KeepsUpTo Eq x y :=
  of_eq (fun _ => rfl) h

/-- Where the first value is kept as it is, it remains to look at what is made of it. -/
lemma andThen {x y : Except Fault α} {f : α → Except Fault γ} {g : α → Except Fault δ}
    (hx : KeepsUpTo Eq x y) (hf : ∀ a, KeepsUpTo S (f a) (g a)) : KeepsUpTo S (x >>= f) (y >>= g) :=
  hx.bind fun a _ hab => hab ▸ hf a

lemma map {x : Except Fault α} {y : Except Fault β} {f : α → γ} {g : β → δ} (hx : KeepsUpTo R x y)
    (hf : ∀ a b, R a b → S (f a) (g b)) : KeepsUpTo S (x.map f) (y.map g) := by
  cases x with
  | error fault => exact error fault _
  | ok a =>
    obtain ⟨b, rfl, hab⟩ := hx a rfl
    exact ok (hf a b hab)

lemma mapM {ε ζ : Type} {f : ε → Except Fault α} {g : ζ → Except Fault β} {as : List ε}
    {bs : List ζ} (h : List.Forall₂ (fun a b => KeepsUpTo R (f a) (g b)) as bs) :
    KeepsUpTo (List.Forall₂ R) (as.mapM f) (bs.mapM g) := by
  induction h with
  | nil => exact ok .nil
  | cons hab _ ih =>
    rw [List.mapM_cons, List.mapM_cons]
    exact hab.bind fun v w hvw => ih.bind fun vs ws hrest => ok (.cons hvw hrest)

lemma ite {p q : Prop} [Decidable p] [Decidable q] {x x' : Except Fault α} {y y' : Except Fault β}
    (hp : p ↔ q) (hx : KeepsUpTo R x y) (hx' : KeepsUpTo R x' y') :
    KeepsUpTo R (if p then x else x') (if q then y else y') := by
  by_cases h : p
  · rwa [if_pos h, if_pos (hp.mp h)]
  · rwa [if_neg h, if_neg (mt hp.mpr h)]

end KeepsUpTo

namespace Alike

variable {a a' b b' : Float}

lemma beq_zero (h : Alike a 0.0) : (a == 0.0) = true :=
  h.beq_eq (refl 0.0)

variable (ha : Alike a a') (hb : Alike b b')

include ha

lemma beq_zero_eq : (a == 0.0) = (a' == 0.0) :=
  ha.beq_eq (refl 0.0)

/-- Numbers that are alike are one number, or both are alike to zero. -/
lemma eq_or_zeros : a = a' ∨ Alike a 0.0 ∧ Alike a' 0.0 := by
  obtain heq | ⟨sign, sign', hzero, hzero'⟩ := ha
  · exact .inl heq
  · exact .inr ⟨.inr ⟨sign, .positive, hzero, rfl⟩, .inr ⟨sign', .positive, hzero', rfl⟩⟩

lemma keepsUpTo_squareRoot : KeepsUpTo Alike (squareRoot a) (squareRoot a') :=
  .ite (ha.lt_iff (refl 0.0)) (.error _ _) (.ok ha.sqrt)

/-- Zero has no logarithm. -/
lemma keepsUpTo_logarithm (log : Float → Float) :
    KeepsUpTo Alike (logarithm log a) (logarithm log a') := by
  obtain rfl | ⟨hzero, -⟩ := ha.eq_or_zeros
  · exact .of_eq refl rfl
  · have hpos : ¬ a > 0.0 := by
      rw [gt_iff_lt, (refl 0.0).lt_iff hzero]
      decide
    have hnan : ¬ a.isNaN = true := by
      rw [hzero.isNaN_eq]
      decide
    rw [logarithm, if_neg hpos, if_neg hnan]
    exact .error _ _

lemma keepsUpTo_exponential : KeepsUpTo Alike (exponential a) (exponential a') := by
  obtain rfl | ⟨hzero, hzero'⟩ := ha.eq_or_zeros
  · exact .of_eq refl rfl
  · refine .of_eq refl ?_
    rw [exponential, exponential, if_pos hzero.beq_zero, if_pos hzero'.beq_zero, ha.isFinite_eq]

include hb

lemma keepsUpTo_divide : KeepsUpTo Alike (divide a b) (divide a' b') := by
  obtain rfl | ⟨hzero, -⟩ := hb.eq_or_zeros
  · exact .ite Iff.rfl (.error _ _) (.ok (ha.div b))
  · rw [divide, if_pos hzero.beq_zero]
    exact .error _ _

lemma keepsUpTo_remainder : KeepsUpTo Alike (remainder a b) (remainder a' b') := by
  obtain rfl | ⟨negative, negative', hy, hy'⟩ := hb.eq_or_kinds
  · obtain rfl | ⟨negative, negative', hx, hx'⟩ := ha.eq_or_kinds
    · exact .of_eq refl rfl
    · rw [remainder, remainder, hx, hx']
      cases kind b with
      | nan => exact .ok hb
      | infinite => exact .ok ha
      | finite y => exact .ite Iff.rfl (.error _ _) (.ok (alike_remainder_zero _ _ y))
  · -- Only what is no number has a remainder by a zero, and that is itself.
    obtain rfl | ⟨negative, negative', hx, hx'⟩ := ha.eq_or_kinds
    · rw [remainder, remainder, hy, hy']
      cases kind a with
      | nan => exact .ok ha
      | infinite | finite => exact .error _ _
    · rw [remainder, hx, hy]
      exact .error _ _

/-- Powers of the two zeros are alike; powers to a zero are one. -/
lemma rawPower : Alike (rawPower a b) (rawPower a' b') := by
  rw [Number.rawPower, Number.rawPower]
  obtain rfl | ⟨hb, hb'⟩ := hb.eq_or_zeros
  · obtain rfl | ⟨hzero, hzero'⟩ := ha.eq_or_zeros
    · exact refl _
    · rw [if_pos hzero.beq_zero, if_pos hzero'.beq_zero]
      split_ifs
      all_goals first | exact refl _ | exact ha
  · rw [if_pos hb.beq_zero, if_pos hb'.beq_zero]
    exact refl _

lemma keepsUpTo_power : KeepsUpTo Alike (power a b) (power a' b') := by
  have hpower := ha.rawPower hb
  rw [power, power, hpower.isNaN_eq, hpower.isInf_eq, ha.isFinite_eq, hb.isFinite_eq,
    ha.beq_zero_eq]
  refine .ite Iff.rfl (.ite Iff.rfl (.error _ _) (.ite Iff.rfl ?_ (.ok hpower))) (.ok hpower)
  exact .of_eq refl rfl

end Alike

end TableFormula.Number
