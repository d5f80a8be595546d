import TableFormula.Proofs.Number.Division

/-!
# The bits of a double

The bits of a double are its sign, its scale and its tail.  They can be read in two ways: as the
exact fraction that the double stands for, or as the parts with which the arithmetic of doubles is
computed.  Both are the same (`kind_eq`).

What the arithmetic finds is packed into bits.  In the range of doubles it is found again from them
(`HasValue.unpack_pack`), so that the results are known from their parts; out of this range it has
become infinite (`HasValue.unpack_pack_of_le`).  The bits themselves are never out of range
(`isDouble_of_unpack`).
-/

namespace TableFormula.Number

open Float.Model Float.Model.UnpackedFloat

/-! ## Fields -/

section Fields

variable (b : BitVec Format.binary64.numBits)

lemma toNat_unpackMantissa : (unpackMantissa b).toNat = b.toNat % 2 ^ 52 := by
  simp only [unpackMantissa, BitVec.toNat_cast, BitVec.extractLsb_toNat, Nat.shiftRight_zero]

lemma toNat_unpackExponent : (unpackExponent b).toNat = b.toNat / 2 ^ 52 % 2 ^ 11 := by
  simp only [unpackExponent, BitVec.toNat_cast, BitVec.extractLsb_toNat, Nat.shiftRight_eq_div_pow]

lemma toNat_unpackSign : (unpackSign b).toNat = b.toNat / 2 ^ 63 := by
  have hlt : b.toNat < 2 ^ 64 := b.isLt
  have hextract : (unpackSign b).toNat = (b.extractLsb 63 63).toNat := rfl
  rw [hextract, BitVec.extractLsb_toNat, Nat.shiftRight_eq_div_pow]
  omega

lemma toNat_append {n k : ℕ} (x : BitVec n) (y : BitVec k) :
    (x ++ y).toNat = x.toNat * 2 ^ k + y.toNat := by
  rw [BitVec.toNat_append, ← Nat.shiftLeft_add_eq_or_of_lt y.isLt, Nat.shiftLeft_eq]

end Fields

/-! ## From fields to parts -/

section Parts

variable {b : BitVec Format.binary64.numBits}

lemma unpack_infinity (hscale : (unpackExponent b).toNat = 2047)
    (htail : (unpackMantissa b).toNat = 0) :
    UnpackedFloat.unpack Format.binary64 b = .infinity (.ofBitVec (unpackSign b)) :=
  (if_pos (BitVec.eq_of_toNat_eq hscale)).trans (if_pos (BitVec.eq_of_toNat_eq htail))

lemma unpack_notANumber (hscale : (unpackExponent b).toNat = 2047)
    (htail : 0 < (unpackMantissa b).toNat) :
    UnpackedFloat.unpack Format.binary64 b = .notANumber :=
  (if_pos (BitVec.eq_of_toNat_eq hscale)).trans
    (if_neg fun h => htail.ne' (congrArg BitVec.toNat h))

variable (hlast : (unpackExponent b).toNat ≠ 2047)

include hlast

lemma unpack_zero (hscale : (unpackExponent b).toNat = 0) (htail : (unpackMantissa b).toNat = 0) :
    UnpackedFloat.unpack Format.binary64 b = .zero (.ofBitVec (unpackSign b)) :=
  (if_neg fun h => hlast (congrArg BitVec.toNat h)).trans
    ((if_pos (BitVec.eq_of_toNat_eq hscale)).trans (dif_pos (BitVec.eq_of_toNat_eq htail)))

/-- A scale of zero stands for a mantissa as it is written. -/
lemma unpack_subnormal (hscale : (unpackExponent b).toNat = 0)
    (htail : 0 < (unpackMantissa b).toNat) :
    UnpackedFloat.unpack Format.binary64 b =
      .finite (.ofBitVec (unpackSign b)) (unpackMantissa b).toNat (-1074) htail := by
  refine (if_neg fun h => hlast (congrArg BitVec.toNat h)).trans ?_
  refine (if_pos (BitVec.eq_of_toNat_eq hscale)).trans ?_
  refine (dif_neg fun h => htail.ne' (congrArg BitVec.toNat h)).trans ?_
  rw [UnpackedFloat.finite.injEq, hscale]
  exact ⟨rfl, rfl, rfl⟩

/-- Any other scale stands for a mantissa with a leading bit that is not written. -/
lemma unpack_normal (hscale : 0 < (unpackExponent b).toNat) :
    UnpackedFloat.unpack Format.binary64 b =
      .finite (.ofBitVec (unpackSign b)) (2 ^ 52 + (unpackMantissa b).toNat)
        ((unpackExponent b).toNat - 1075) (Nat.add_pos_left (by decide) _) := by
  refine (if_neg fun h => hlast (congrArg BitVec.toNat h)).trans ?_
  refine (if_neg fun h => hscale.ne' (congrArg BitVec.toNat h)).trans ?_
  rw [UnpackedFloat.finite.injEq, toNat_append]
  exact ⟨rfl, rfl, rfl⟩

end Parts

/-! ## What the bits stand for -/

/-- Whether a sign is the one of negative numbers. -/
def isNegative : UnpackedFloat.Sign → Bool
  | .negative => true
  | .positive => false

/-- What a double that is taken apart stands for. -/
def Kind.ofUnpacked : UnpackedFloat → Kind
  | .infinity sign => .infinite (isNegative sign)
  | .notANumber => .nan
  | .zero sign => .finite ⟨isNegative sign, 0, -1074⟩
  | .finite sign m e _ => .finite ⟨isNegative sign, m, e⟩

lemma isNegative_unpackSign (b : BitVec Format.binary64.numBits) :
    isNegative (UnpackedFloat.Sign.ofBitVec (unpackSign b)) = (b.toNat / 2 ^ 63 == 1) := by
  have hbit := toNat_unpackSign b
  rw [UnpackedFloat.Sign.ofBitVec, ← hbit]
  split
  · rename_i hzero
    rw [hzero]
    rfl
  · rename_i hne
    have hone : (unpackSign b).toNat = 1 := by
      have hlt := (unpackSign b).isLt
      rw [← BitVec.toNat_inj] at hne
      simp only [BitVec.toNat_ofNat] at hne
      omega
    rw [hone]
    rfl

/-- The bits of a double stand for what it is taken apart into. -/
lemma kind_eq (x : Float) : kind x = .ofUnpacked x.toModel.unpack := by
  obtain ⟨b, hb⟩ : ∃ b : BitVec Format.binary64.numBits, b = x.toModel.toBits.toBitVec := ⟨_, rfl⟩
  have hbits : x.toBits.toNat = b.toNat := by
    rw [hb]
    rfl
  have hsign := isNegative_unpackSign b
  have hmantissa := toNat_unpackMantissa b
  have hexponent := toNat_unpackExponent b
  simp only [kind, hbits, Nat.pow_eq]
  rw [Float.Model.unpack, ← hb, ← hmantissa, ← hexponent, ← hsign]
  split_ifs with hlast htail hscale
  · rw [unpack_infinity hlast htail]
    rfl
  · rw [unpack_notANumber hlast (Nat.pos_of_ne_zero htail)]
    rfl
  · by_cases htail : (unpackMantissa b).toNat = 0
    · rw [unpack_zero hlast hscale htail, htail]
      rfl
    · rw [unpack_subnormal hlast hscale (Nat.pos_of_ne_zero htail)]
      rfl
  · rw [unpack_normal hlast (Nat.pos_of_ne_zero hscale)]
    rfl

/-! ## Packing -/

section Packing

variable {sign : UnpackedFloat.Sign} {scale tail : ℕ}

/-- The sign of packed parts is found again. -/
lemma ofBitVec_unpackSign_packComponents (x : BitVec Format.binary64.exponentBits)
    (y : BitVec Format.binary64.mantissaBitsWithoutImplicit) :
    UnpackedFloat.Sign.ofBitVec (unpackSign (packComponents Format.binary64 sign x y)) = sign := by
  have hsign : unpackSign (packComponents Format.binary64 sign x y) = sign.toBitVec := by
    have hx : x.toNat < 2 ^ 11 := x.isLt
    have hy : y.toNat < 2 ^ 52 := y.isLt
    have hword : (packComponents Format.binary64 sign x y).toNat =
        (sign.toBitVec.toNat * 2 ^ 11 + x.toNat) * 2 ^ 52 + y.toNat := by
      rw [packComponents, toNat_append, toNat_append]
    rw [← BitVec.toNat_inj, toNat_unpackSign, hword]
    omega
  rw [hsign]
  cases sign <;> rfl

/-- The parts of a double, packed and unpacked again. -/
lemma unpack_packComponents (hscale : scale < 2 ^ 11 - 1) (htail : tail < 2 ^ 52) :
    UnpackedFloat.unpack Format.binary64 (packComponents Format.binary64 sign
      (BitVec.ofNat _ scale) (BitVec.ofNat _ tail)) =
      if scale = 0 then
        if h : tail = 0 then .zero sign else .finite sign tail (-1074) (Nat.pos_of_ne_zero h)
      else .finite sign (2 ^ 52 + tail) (scale - 1075) (Nat.add_pos_left (by decide) _) := by
  have hexponent : (BitVec.ofNat 11 scale).toNat = scale := Nat.mod_eq_of_lt (by omega)
  have hmantissa : (BitVec.ofNat 52 tail).toNat = tail := Nat.mod_eq_of_lt htail
  obtain ⟨b, hb⟩ : ∃ b, b = packComponents Format.binary64 sign (BitVec.ofNat _ scale)
      (BitVec.ofNat _ tail) := ⟨_, rfl⟩
  have hexponent' : (unpackExponent b).toNat = scale := by
    rw [hb, unpackExponent_packComponents]
    exact hexponent
  have hmantissa' : (unpackMantissa b).toNat = tail := by
    rw [hb, unpackMantissa_packComponents]
    exact hmantissa
  have hsign : .ofBitVec (unpackSign b) = sign := by rw [hb, ofBitVec_unpackSign_packComponents]
  have hlast : (unpackExponent b).toNat ≠ 2047 := by omega
  rw [← hb]
  by_cases hscale0 : scale = 0
  · rw [if_pos hscale0]
    by_cases htail0 : tail = 0
    · rw [dif_pos htail0, unpack_zero hlast (hexponent'.trans hscale0) (hmantissa'.trans htail0),
        hsign]
    · rw [dif_neg htail0, unpack_subnormal hlast (hexponent'.trans hscale0) (by omega),
        UnpackedFloat.finite.injEq]
      exact ⟨hsign, hmantissa', rfl⟩
  · rw [if_neg hscale0, unpack_normal hlast (by omega), UnpackedFloat.finite.injEq, hexponent',
      hmantissa']
    exact ⟨hsign, rfl, rfl⟩

variable {f : UnpackedFloat} {r : ℚ}

/-- A double in range is found again from its bits. -/
lemma HasValue.unpack_pack (h : HasValue f sign r) (hr : r < 2 ^ 1024) :
    (Float.Model.pack f).unpack = f := by
  have hpacked : (Float.Model.pack f).unpack =
      UnpackedFloat.unpack Format.binary64 (UnpackedFloat.pack Format.binary64 f) := rfl
  rw [hpacked]
  have hsmallest : 0 < 2 ^ 11 - 1 := by decide
  obtain ⟨rfl, -⟩ | ⟨m, e, hm, rfl, hdouble, rfl⟩ := h
  · have htail : 0 < 2 ^ 52 := by decide
    exact unpack_packComponents hsmallest htail
  have hleast := hdouble.least
  have hlast : e ≤ 971 := hdouble.le_of_lt hr
  have hbias : (Format.binary64.exponentBias : ℤ) = 1023 := rfl
  obtain ⟨scale, hscale⟩ : ∃ scale : ℕ, e + 1075 = scale := ⟨(e + 1075).toNat, by omega⟩
  have hbiased : (e + Format.binary64.exponentBias + (52 : ℕ)).toNat = scale := by omega
  have hpack : UnpackedFloat.pack Format.binary64 (.finite sign m e hm) =
      if m.log2 + 1 = 53 then
        packComponents Format.binary64 sign (BitVec.ofNat _ scale) (BitVec.ofNat _ m)
      else packComponents Format.binary64 sign 0 (BitVec.ofNat _ m) := by
    have hin : ¬2 ^ 11 ≤ (e + Format.binary64.exponentBias + (52 : ℕ)).toNat + 1 := by omega
    rw [← hbiased]
    exact if_neg hin
  rw [hpack]
  by_cases hfull : 2 ^ 52 ≤ m
  · have hlog : m.log2 = 52 := (Nat.log2_eq_iff hm.ne').mpr ⟨hfull, hdouble.upper⟩
    have htail : BitVec.ofNat 52 m = BitVec.ofNat 52 (m - 2 ^ 52) := by
      rw [← BitVec.toNat_inj, BitVec.toNat_ofNat, BitVec.toNat_ofNat]
      omega
    have hupper := hdouble.upper
    rw [if_pos (by omega), htail, unpack_packComponents (by omega) (by omega), if_neg (by omega),
      UnpackedFloat.finite.injEq]
    exact ⟨rfl, by omega, by omega⟩
  · have hlog : m.log2 < 52 := (Nat.log2_lt hm.ne').mpr (not_le.mp hfull)
    have hunit : e = -1074 := hdouble.full.resolve_left hfull
    rw [if_neg (by omega)]
    refine (unpack_packComponents hsmallest (not_le.mp hfull)).trans ?_
    rw [if_pos rfl, dif_neg hm.ne', UnpackedFloat.finite.injEq]
    exact ⟨rfl, rfl, hunit.symm⟩

/-- A double out of range is infinite. -/
lemma HasValue.unpack_pack_of_le (h : HasValue f sign r) (hr : 2 ^ 1024 ≤ r) :
    (Float.Model.pack f).unpack = .infinity sign := by
  obtain ⟨rfl, rfl⟩ | ⟨m, e, hm, rfl, hdouble, rfl⟩ := h
  · exact absurd hr (by norm_num)
  have hlarge : 971 < e := by
    by_contra hsmall
    exact hr.not_gt (hdouble.lt_of_le (not_lt.mp hsmall))
  have hbias : (Format.binary64.exponentBias : ℤ) = 1023 := rfl
  have hpack : UnpackedFloat.pack Format.binary64 (.finite sign m e hm) =
      packedInfinity Format.binary64 sign := by
    have hout : 2 ^ 11 ≤ (e + Format.binary64.exponentBias + (52 : ℕ)).toNat + 1 := by omega
    exact if_pos hout
  show UnpackedFloat.unpack Format.binary64 (UnpackedFloat.pack Format.binary64
    (.finite sign m e hm)) = _
  rw [hpack, packedInfinity, unpack_infinity, ofBitVec_unpackSign_packComponents]
  · rw [unpackExponent_packComponents]
    rfl
  · rw [unpackMantissa_packComponents]
    rfl

/-- A full double is found again from its bits. -/
lemma unpack_pack (h : IsFull f sign r) : (Float.Model.pack f).unpack = f := by
  refine h.hasValue.unpack_pack ?_
  obtain ⟨m, e, hm, rfl, hfull, he, rfl⟩ := h
  exact (IsDouble.mk hfull.2 he.1 (.inl hfull.1)).lt_of_le he.2

/-- What the bits of a double say is in the range of doubles. -/
lemma isDouble_of_unpack {x : Float} {m : ℕ} {e : ℤ} {hm : 0 < m}
    (h : x.toModel.unpack = .finite sign m e hm) : IsDouble m e ∧ e ≤ 971 := by
  obtain ⟨b, hb⟩ : ∃ b : BitVec Format.binary64.numBits, b = x.toModel.toBits.toBitVec := ⟨_, rfl⟩
  have hfields : (unpackMantissa b).toNat < 2 ^ 52 ∧ (unpackExponent b).toNat < 2 ^ 11 :=
    ⟨(unpackMantissa b).isLt, (unpackExponent b).isLt⟩
  rw [Float.Model.unpack, ← hb] at h
  by_cases hlast : (unpackExponent b).toNat = 2047
  · by_cases htail : (unpackMantissa b).toNat = 0
    · rw [unpack_infinity hlast htail] at h
      cases h
    · rw [unpack_notANumber hlast (Nat.pos_of_ne_zero htail)] at h
      cases h
  · by_cases hscale : (unpackExponent b).toNat = 0
    · by_cases htail : (unpackMantissa b).toNat = 0
      · rw [unpack_zero hlast hscale htail] at h
        cases h
      · rw [unpack_subnormal hlast hscale (Nat.pos_of_ne_zero htail)] at h
        cases h
        exact ⟨⟨by omega, le_refl _, .inr rfl⟩, by omega⟩
    · rw [unpack_normal hlast (Nat.pos_of_ne_zero hscale)] at h
      cases h
      exact ⟨⟨by omega, by omega, .inl (by omega)⟩, by omega⟩

end Packing

end TableFormula.Number
