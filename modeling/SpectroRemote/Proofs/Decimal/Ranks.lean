import SpectroRemote.Decimal.Rank
import SpectroRemote.Proofs.Double.Representation

/-!
# Doubles and their ranks

A double is its sign and its rank. The rank is made of the fields of exponent and mantissa, so the
finite doubles are those of ranks below that of infinity, and there is one double that is no number.
-/

namespace SpectroRemote.Decimal

open Float.Model Float.Model.UnpackedFloat Double

/-- The sign and the rank of a double give it back. -/
theorem ofRank_rank (v : Float) : ofRank (isNegative v) (rank v) = v := by
  have hlt : v.toBits.toNat < 2 ^ 64 := v.toBits.toNat_lt
  have hsign : signBit = 2 ^ 63 := rfl
  have hbits : (if isNegative v then signBit + rank v else rank v) = v.toBits.toNat := by
    rw [isNegative, rank, hsign]
    by_cases h : 2 ^ 63 ≤ v.toBits.toNat
    · rw [if_pos (decide_eq_true h)]
      omega
    · rw [if_neg (by simpa using h)]
      omega
  rw [ofRank, hbits, UInt64.ofNat_toNat, ofBits_toBits]

/-! ### Fields -/

def bits (v : Float) : BitVec Format.binary64.numBits := v.toBits.toBitVec

lemma toNat_unpackExponent (b : BitVec Format.binary64.numBits) :
    (unpackExponent b).toNat = b.toNat % 2 ^ 63 / 2 ^ 52 := by
  have h : (unpackExponent b).toNat = b.toNat >>> 52 % 2 ^ 11 := by
    rw [unpackExponent, BitVec.toNat_cast]
    exact BitVec.extractLsb_toNat ..
  rw [h, Nat.shiftRight_eq_div_pow]
  omega

lemma toNat_unpackMantissa (b : BitVec Format.binary64.numBits) :
    (unpackMantissa b).toNat = b.toNat % 2 ^ 52 := by
  have h : (unpackMantissa b).toNat = b.toNat >>> 0 % 2 ^ 52 := by
    rw [unpackMantissa, BitVec.toNat_cast]
    exact BitVec.extractLsb_toNat ..
  rwa [Nat.shiftRight_zero] at h

/-- The rank is the exponent field followed by the mantissa field. -/
lemma rank_eq (v : Float) :
    rank v = (unpackExponent (bits v)).toNat * binade + (unpackMantissa (bits v)).toNat := by
  have hbits : (bits v).toNat = v.toBits.toNat := rfl
  have hsign : signBit = 2 ^ 63 := rfl
  have hbinade : binade = 2 ^ 52 := rfl
  rw [toNat_unpackExponent, toNat_unpackMantissa, hbits, rank, hsign, hbinade]
  omega

lemma fields_bits (v : Float) :
    Fields (.ofBitVec (unpackSign (bits v))) (unpackExponent (bits v)) (unpackMantissa (bits v))
      v.toModel.unpack := fields_unpack (bits v)

lemma rank_lt_of_isFinite {v : Float} (h : v.isFinite = true) : rank v < infinityRank := by
  change v.toModel.unpack.isFinite = true at h
  have hmantissa : (unpackMantissa (bits v)).toNat < binade := (unpackMantissa (bits v)).isLt
  have hexponent : (unpackExponent (bits v)).toNat < 2047 := by
    have hfields := fields_bits v
    generalize v.toModel.unpack = u at h hfields
    cases hfields with
    | infinite _ _ => cases h
    | notANumber _ _ => cases h
    | zero hzero _ => rw [hzero]; decide
    | subnormal hzero _ _ => rw [hzero]; decide
    | normal _ hhigh _ _ => exact hhigh
  have hle := Nat.mul_le_mul_right binade (Nat.le_of_lt_succ hexponent)
  rw [rank_eq, infinityRank]
  omega

lemma rank_of_infinite {v : Float} (hfinite : v.isFinite = false) (hnumber : v.isNaN = false) :
    rank v = infinityRank := by
  change v.toModel.unpack.isFinite = false at hfinite
  change v.toModel.unpack.isNaN = false at hnumber
  have hfields := fields_bits v
  rw [rank_eq]
  generalize v.toModel.unpack = u at hfinite hnumber hfields
  cases hfields with
  | infinite hexponent hmantissa => rw [hexponent, hmantissa]; rfl
  | notANumber _ _ => cases hnumber
  | _ => cases hfinite

/-- There is only one double that is no number. -/
lemma eq_notANumber {v : Float} (h : v.isNaN = true) : v = notANumber := by
  change v.toModel.unpack.isNaN = true at h
  have hunpack : v.toModel.unpack = .notANumber := by
    generalize v.toModel.unpack = u at h
    cases u with
    | notANumber => rfl
    | _ => cases h
  have hmodel := pack_unpack v.toModel
  rw [hunpack] at hmodel
  have hconstant : Float.Model.ofBits 0x7FF8000000000000 = Float.Model.pack .notANumber := by
    decide +kernel
  rw [notANumber]
  change v = Float.ofModel (Float.Model.ofBits 0x7FF8000000000000)
  rw [hconstant, hmodel]

end SpectroRemote.Decimal
