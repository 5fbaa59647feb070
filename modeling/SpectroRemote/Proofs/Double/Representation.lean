import Mathlib

/-!
# How doubles are represented

A finite double other than zero is a sign, a mantissa of 53 bits and an exponent; close to zero the
mantissa has fewer bits and the exponent is the least one (`Canonical`). Packing such a triple into
64 bits and unpacking it are inverse to each other, and rounding leaves it as it is. So
multiplication by one changes no double, not even one that is no number.
-/

namespace SpectroRemote.Double

open Float.Model Float.Model.UnpackedFloat

/-- A mantissa and an exponent are those of a double, except that the exponent may be too great. -/
structure Canonical (m : Nat) (e : Int) : Prop where
  log2_le : m.log2 ≤ 52
  le_exponent : -1074 ≤ e
  full : m.log2 = 52 ∨ e = -1074

lemma Canonical.lt {m : Nat} {e : Int} (h : Canonical m e) : m < 2 ^ 53 :=
  Nat.lt_of_lt_of_le Nat.lt_log2_self (Nat.pow_le_pow_right (by decide) (by have := h.log2_le; omega))

lemma log2_mul_two_pow {m : Nat} (h : m ≠ 0) (k : Nat) : (m * 2 ^ k).log2 = m.log2 + k := by
  rw [Nat.log2_eq_iff (Nat.mul_ne_zero h (Nat.two_pow_pos k).ne'), Nat.pow_add,
    Nat.add_right_comm, Nat.pow_add]
  exact ⟨Nat.mul_le_mul_right _ (Nat.log2_self_le h),
    Nat.mul_lt_mul_of_pos_right Nat.lt_log2_self (Nat.two_pow_pos k)⟩

/-- The exponent to which rounding goes. -/
lemma targetExponent_eq (m : Nat) (e : Int) :
    Format.binary64.targetExponent (totalExponent m e) = max (m.log2 + e - 52) (-1074) := by
  rw [Format.targetExponent, totalExponent]
  change max ((m.log2 : Int) + 1 + e - 53) (-1074) = _
  omega

lemma Canonical.targetExponent {m : Nat} {e : Int} (h : Canonical m e) :
    Format.binary64.targetExponent (totalExponent m e) = e := by
  obtain ⟨hlog, hle, hfull⟩ := h
  rw [targetExponent_eq]
  omega

/-! ### Rounding what fits -/

lemma mantissa_shiftRight (em : ExtendedMantissa) (k : Nat) :
    (em >>> k).mantissa = em.mantissa / 2 ^ k := by
  induction k with
  | zero => exact (Nat.div_one _).symm
  | succ k ih =>
    change (em >>> k).mantissa / 2 = _
    rw [ih, Nat.div_div_eq_div_mul, Nat.pow_succ]

/-- Zeros at the end of a mantissa are dropped without a trace. -/
lemma shiftRight_mul_two_pow (m k : Nat) :
    (⟨m * 2 ^ k, false, false⟩ : ExtendedMantissa) >>> k = ⟨m, false, false⟩ := by
  induction k generalizing m with
  | zero => rw [Nat.pow_zero, Nat.mul_one]; rfl
  | succ k ih =>
    have h := ih (m * 2)
    rw [Nat.mul_assoc, ← Nat.pow_succ'] at h
    change ((⟨m * 2 ^ (k + 1), false, false⟩ : ExtendedMantissa) >>> k).shiftRightOne = _
    rw [h]
    simp [ExtendedMantissa.shiftRightOne]

/-- A canonical mantissa with zeros at its end is rounded to itself. -/
lemma roundWithAccuracy_mul_two_pow {m : Nat} {e : Int} (h : Canonical m e) (hm : 0 < m)
    (s : Sign) (k : Nat) :
    roundWithAccuracy Format.binary64 s (m * 2 ^ k) (e - k) .exact = .finite s m e hm := by
  have hfirst : shiftToTargetExponent Format.binary64 (m * 2 ^ k) (e - k) .exact
      = (⟨m, false, false⟩, e) := by
    have htarget : Format.binary64.targetExponent (totalExponent (m * 2 ^ k) (e - k)) = e := by
      have he := h.targetExponent
      rw [targetExponent_eq] at he ⊢
      rw [log2_mul_two_pow hm.ne']
      omega
    have hk : (e - (e - (k : Int))).toNat = k := by omega
    simp only [shiftToTargetExponent, htarget, shiftToExponent, hk,
      ExtendedMantissa.ofMantissaAndAccuracy, shiftRight_mul_two_pow, Int.sub_add_cancel]
  have hsecond : shiftToTargetExponent Format.binary64 m e .exact = (⟨m, false, false⟩, e) := by
    have hzero : (e - e).toNat = 0 := by omega
    have hshift := shiftRight_mul_two_pow m 0
    rw [Nat.pow_zero, Nat.mul_one] at hshift
    simp only [shiftToTargetExponent, h.targetExponent, shiftToExponent, hzero,
      ExtendedMantissa.ofMantissaAndAccuracy, hshift, Int.natCast_zero, Int.add_zero]
  simp only [roundWithAccuracy, hfirst, ExtendedMantissa.roundedMantissa,
    ExtendedMantissa.accuracy, Accuracy.roundToNearestEven, hsecond, hm.ne', dite_false]

/-! ### Packing and unpacking -/

lemma packComponents_unpack (b : BitVec Format.binary64.numBits) :
    packComponents Format.binary64 (.ofBitVec (unpackSign b)) (unpackExponent b)
      (unpackMantissa b) = b := by
  have hsign : ∀ b : BitVec 1, (Sign.ofBitVec b).toBitVec = b := by decide
  rw [packComponents, hsign]
  apply BitVec.eq_of_getLsbD_eq
  intro i hi
  change i < 64 at hi
  simp only [BitVec.getLsbD_append, unpackSign, unpackExponent, unpackMantissa,
    BitVec.getLsbD_cast, BitVec.getLsbD_extractLsb]
  by_cases hmantissa : i < 52
  · simp [hmantissa]
  · by_cases hexponent : i < 63
    · have hplace : 52 + (i - 52) = i := by omega
      have hwidth : i - 52 < 11 := by omega
      simp [hmantissa, hwidth, hplace]
    · obtain rfl : i = 63 := by omega
      rfl

lemma unpackSign_packComponents (s : Sign) (exponent : BitVec 11) (mantissa : BitVec 52) :
    Sign.ofBitVec (unpackSign (packComponents Format.binary64 s exponent mantissa)) = s := by
  have hbit : unpackSign (packComponents Format.binary64 s exponent mantissa) = s.toBitVec := by
    apply BitVec.eq_of_getLsbD_eq
    intro i hi
    obtain rfl : i = 0 := by omega
    simp only [unpackSign, packComponents, BitVec.getLsbD_append, BitVec.getLsbD_cast,
      BitVec.getLsbD_extractLsb]
    simp
  rw [hbit]
  cases s <;> rfl

/-- A mantissa with the leading bit in front, which is not kept. -/
lemma toNat_append_one (b : BitVec 52) : (1#1 ++ b).toNat = 2 ^ 52 + b.toNat := by
  rw [BitVec.toNat_append, ← Nat.shiftLeft_add_eq_or_of_lt b.isLt]
  rfl

/-- What a sign, an exponent and a mantissa stand for. -/
inductive Fields (s : Sign) (exponent : BitVec 11) (mantissa : BitVec 52) : UnpackedFloat → Prop
  | infinite (hexponent : exponent = -1#11) (hmantissa : mantissa = 0#52) :
    Fields s exponent mantissa (.infinity s)
  | notANumber (hexponent : exponent = -1#11) (hmantissa : mantissa ≠ 0#52) :
    Fields s exponent mantissa .notANumber
  | zero (hexponent : exponent = 0#11) (hmantissa : mantissa = 0#52) :
    Fields s exponent mantissa (.zero s)
  | subnormal {m : Nat} {e : Int} {hm : 0 < m} (hexponent : exponent = 0#11)
    (hmantissa : m = mantissa.toNat) (he : e = -1074) :
    Fields s exponent mantissa (.finite s m e hm)
  | normal {m : Nat} {e : Int} {hm : 0 < m} (hlow : 0 < exponent.toNat)
    (hhigh : exponent.toNat < 2047) (hmantissa : m = 2 ^ 52 + mantissa.toNat)
    (he : e = exponent.toNat - 1075) :
    Fields s exponent mantissa (.finite s m e hm)

lemma fields_unpack (b : BitVec Format.binary64.numBits) :
    Fields (.ofBitVec (unpackSign b)) (unpackExponent b) (unpackMantissa b)
      (UnpackedFloat.unpack Format.binary64 b) := by
  have hlt := (unpackExponent b).isLt
  rw [UnpackedFloat.unpack]
  dsimp only
  split
  · next hexponent =>
    split
    · next hmantissa => exact .infinite hexponent hmantissa
    · next hmantissa => exact .notANumber hexponent hmantissa
  · next hfinite =>
    split
    · next hexponent =>
      split
      · next hmantissa => exact .zero hexponent hmantissa
      · next hmantissa => exact .subnormal hexponent rfl (by rw [hexponent]; rfl)
    · next hexponent =>
      have hlow := BitVec.toNat_pos_of_ne_zero hexponent
      have hhigh : (unpackExponent b).toNat ≠ 2047 := fun h => hfinite (BitVec.eq_of_toNat_eq h)
      change (unpackExponent b).toNat < 2048 at hlt
      exact .normal hlow (by omega) (toNat_append_one _) rfl

lemma fields_packComponents (s : Sign) (exponent : BitVec 11) (mantissa : BitVec 52) :
    Fields s exponent mantissa
      (UnpackedFloat.unpack Format.binary64
        (packComponents Format.binary64 s exponent mantissa)) := by
  have h := fields_unpack (packComponents Format.binary64 s exponent mantissa)
  rwa [unpackSign_packComponents, unpackExponent_packComponents,
    unpackMantissa_packComponents] at h

lemma Fields.canonical {s s' : Sign} {exponent : BitVec 11} {mantissa : BitVec 52} {m : Nat}
    {e : Int} {hm : 0 < m} (h : Fields s exponent mantissa (.finite s' m e hm)) :
    Canonical m e ∧ e ≤ 971 := by
  have hlt := mantissa.isLt
  cases h with
  | subnormal hexponent hmantissa he =>
    subst hmantissa he
    have hlog := (Nat.log2_lt hm.ne').mpr hlt
    exact ⟨⟨by omega, by omega, by omega⟩, by omega⟩
  | normal hlow hhigh hmantissa he =>
    have hlog : m.log2 = 52 := (Nat.log2_eq_iff hm.ne').mpr (by omega)
    exact ⟨⟨by omega, by omega, by omega⟩, by omega⟩

/-- Unpacking gives canonical mantissas and exponents. -/
lemma canonical_of_unpack {x : Float.Model} {s : Sign} {m : Nat} {e : Int} {hm : 0 < m}
    (h : x.unpack = .finite s m e hm) : Canonical m e ∧ e ≤ 971 := by
  have hx := fields_unpack x.toBits.toBitVec
  rw [show UnpackedFloat.unpack Format.binary64 x.toBits.toBitVec = .finite s m e hm from h] at hx
  exact hx.canonical

/-- Every canonical mantissa and exponent has its bits. -/
lemma Canonical.fields {m : Nat} {e : Int} (h : Canonical m e) (hm : 0 < m) (he : e ≤ 971)
    (s : Sign) : ∃ exponent mantissa, exponent ≠ -1#11 ∧
      Fields s exponent mantissa (.finite s m e hm) := by
  have hlt := h.lt
  obtain ⟨hlog, hle, hfull⟩ := h
  by_cases hbits : m.log2 = 52
  · have hm' := (Nat.log2_eq_iff hm.ne').mp hbits
    have hexponent : (BitVec.ofNat 11 (e + 1075).toNat).toNat = (e + 1075).toNat := by
      rw [BitVec.toNat_ofNat, Nat.mod_eq_of_lt (by omega)]
    have hmantissa : (BitVec.ofNat 52 (m - 2 ^ 52)).toNat = m - 2 ^ 52 := by
      rw [BitVec.toNat_ofNat, Nat.mod_eq_of_lt (by omega)]
    refine ⟨.ofNat 11 (e + 1075).toNat, .ofNat 52 (m - 2 ^ 52), fun heq => ?_,
      .normal (by omega) (by omega) (by omega) (by omega)⟩
    rw [heq] at hexponent
    change 2047 = _ at hexponent
    omega
  · have hlt' : m < 2 ^ 52 := (Nat.log2_lt hm.ne').mp (by omega)
    have hmantissa : (BitVec.ofNat 52 m).toNat = m := by
      rw [BitVec.toNat_ofNat, Nat.mod_eq_of_lt hlt']
    exact ⟨0#11, .ofNat 52 m, by decide, .subnormal rfl hmantissa.symm (by omega)⟩

lemma Fields.unique {s : Sign} {exponent : BitVec 11} {mantissa : BitVec 52} {u v : UnpackedFloat}
    (hu : Fields s exponent mantissa u) (hv : Fields s exponent mantissa v) : u = v := by
  cases hu <;> cases hv <;> first
    | rfl
    | contradiction
    | (subst_vars; first | rfl | contradiction)

lemma pack_finite (s : Sign) {m : Nat} (hm : 0 < m) {e : Int} (he : e ≤ 971) :
    UnpackedFloat.pack Format.binary64 (.finite s m e hm) =
      if m.log2 = 52 then
        packComponents Format.binary64 s (.ofNat 11 (e + 1075).toNat) (.ofNat 52 m)
      else packComponents Format.binary64 s 0#11 (.ofNat 52 m) := by
  have hbias : Format.binary64.exponentBias = 1023 := by decide
  have hbits : Format.binary64.mantissaBits = 53 := by decide
  have hbiased : (e + (1023 : Nat) + (52 : Nat)).toNat = (e + 1075).toNat := by omega
  simp only [UnpackedFloat.pack, hbias, hbits, hbiased]
  rw [if_neg (by omega)]
  simp only [Nat.reduceEqDiff]

/-- Packing is unpacking backwards, except that there is only one number that is none. -/
lemma Fields.pack {s : Sign} {exponent : BitVec 11} {mantissa : BitVec 52} {u : UnpackedFloat}
    (h : Fields s exponent mantissa u)
    (hvalid : exponent = -1#11 → mantissa ≠ 0#52 →
      packComponents Format.binary64 s exponent mantissa = packedNaN Format.binary64) :
    UnpackedFloat.pack Format.binary64 u
      = packComponents Format.binary64 s exponent mantissa := by
  have hlt := mantissa.isLt
  cases h with
  | infinite hexponent hmantissa => rw [hexponent, hmantissa]; rfl
  | notANumber hexponent hmantissa => rw [hvalid hexponent hmantissa]; rfl
  | zero hexponent hmantissa => rw [hexponent, hmantissa]; rfl
  | @subnormal m e hm hexponent hmantissa he =>
    have hlog := (Nat.log2_lt hm.ne').mpr (hmantissa ▸ hlt)
    rw [pack_finite s hm (by omega), if_neg (by omega), hexponent, hmantissa, BitVec.ofNat_toNat,
      BitVec.setWidth_eq]
  | @normal m e hm hlow hhigh hmantissa he =>
    have hlog : m.log2 = 52 := (Nat.log2_eq_iff hm.ne').mpr (by omega)
    have hexponent : (e + 1075).toNat = exponent.toNat := by omega
    have hbits : BitVec.ofNat 52 m = mantissa := by
      apply BitVec.eq_of_toNat_eq
      rw [BitVec.toNat_ofNat]
      omega
    rw [pack_finite s hm (by omega), if_pos hlog, hexponent, BitVec.ofNat_toNat,
      BitVec.setWidth_eq, hbits]

lemma unpack_pack {s : Sign} {m : Nat} {e : Int} {hm : 0 < m} (h : Canonical m e)
    (he : e ≤ 971) : (Float.Model.pack (.finite s m e hm)).unpack = .finite s m e hm := by
  obtain ⟨exponent, mantissa, hfinite, hfields⟩ := h.fields hm he s
  rw [Float.Model.pack, Float.Model.unpack]
  change UnpackedFloat.unpack _ (UnpackedFloat.pack _ _) = _
  rw [hfields.pack fun heq => absurd heq hfinite]
  exact (fields_packComponents s exponent mantissa).unique hfields

lemma pack_unpack (x : Float.Model) : Float.Model.pack x.unpack = x := by
  have hx := (fields_unpack x.toBits.toBitVec).pack fun hexponent hmantissa => by
    rw [packComponents_unpack]
    exact x.valid.eq_packedNaN hexponent hmantissa
  rw [packComponents_unpack] at hx
  have hbits : (Float.Model.pack x.unpack).toBits = x.toBits := congrArg UInt64.ofBitVec hx
  generalize Float.Model.pack x.unpack = y at hbits
  cases x
  cases y
  congr

/-- The bits of a double give it back. -/
theorem ofBits_toBits (v : Float) : Float.ofBits v.toBits = v :=
  congrArg Float.ofModel (pack_unpack v.toModel)

/-! ### Multiplication by one -/

lemma unpack_one : (1 : Float).toModel.unpack = .finite .positive (2 ^ 52) (-52) (by decide) := by
  rfl

lemma Sign.mul_positive (s : Sign) : s * .positive = s := by cases s <;> rfl

/-- Multiplication by one changes no double. -/
theorem mul_one (v : Float) : v * 1 = v := by
  suffices h : UnpackedFloat.mul Format.binary64 v.toModel.unpack (1 : Float).toModel.unpack
      = v.toModel.unpack by
    change Float.ofModel (Float.Model.pack (UnpackedFloat.mul _ _ _)) = v
    rw [h, pack_unpack]
  rw [unpack_one]
  cases hv : v.toModel.unpack with
  | notANumber => rfl
  | infinity s => rw [UnpackedFloat.mul, Sign.mul_positive]
  | zero s => rw [UnpackedFloat.mul, Sign.mul_positive]
  | finite s m e hm =>
    have hcanonical := (canonical_of_unpack hv).1
    rw [UnpackedFloat.mul, Sign.mul_positive]
    exact roundWithAccuracy_mul_two_pow hcanonical hm s 52

end SpectroRemote.Double
