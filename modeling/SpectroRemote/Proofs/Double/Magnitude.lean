import SpectroRemote.Proofs.Double.Representation

/-!
# How large doubles can get

`Below k` holds of a finite double that is less than `2 ^ k` in magnitude. Each operation takes
doubles below some powers of two to a double below another one, unless that power is too great for
finite doubles. The bounds leave room for the rounding of the result and are not the least ones.
-/

namespace SpectroRemote.Double

open Float.Model Float.Model.UnpackedFloat

/-- The number is finite and less than `2 ^ k` in magnitude. -/
def BelowUnpacked (k : Int) : UnpackedFloat → Prop
  | .zero _ => True
  | .finite _ m e _ => Canonical m e ∧ totalExponent m e ≤ k
  | _ => False

/-- The double is finite and less than `2 ^ k` in magnitude. -/
def Below (k : Int) (v : Float) : Prop := BelowUnpacked k v.toModel.unpack

lemma BelowUnpacked.mono {k l : Int} (hkl : k ≤ l) {u : UnpackedFloat} (h : BelowUnpacked k u) :
    BelowUnpacked l u := by
  cases u with
  | zero s => trivial
  | finite s m e hm => exact ⟨h.1, h.2.trans hkl⟩
  | _ => exact h.elim

/-! ### Rounding -/

lemma mantissa_le_roundedMantissa (em : ExtendedMantissa) :
    em.mantissa ≤ em.roundedMantissa ∧ em.roundedMantissa ≤ em.mantissa + 1 := by
  obtain ⟨m, roundBit, stickyBit⟩ := em
  cases roundBit <;> cases stickyBit <;>
    simp only [ExtendedMantissa.roundedMantissa, ExtendedMantissa.accuracy,
      Accuracy.roundToNearestEven] <;> omega

lemma log2_div_two_pow {m k : Nat} (h : m / 2 ^ k ≠ 0) : (m / 2 ^ k).log2 + k = m.log2 := by
  have hm : m ≠ 0 := by
    rintro rfl
    exact h (Nat.zero_div _)
  symm
  rw [Nat.log2_eq_iff hm, Nat.pow_add, Nat.add_right_comm, Nat.pow_add]
  exact ⟨(Nat.le_div_iff_mul_le (Nat.two_pow_pos k)).mp (Nat.log2_self_le h),
    (Nat.div_lt_iff_lt_mul (Nat.two_pow_pos k)).mp Nat.lt_log2_self⟩

/-- The first part of rounding takes the mantissa to the exponent where it is canonical. -/
lemma shiftToTargetExponent_eq {m : Nat} {e : Int} (h : 52 ≤ m.log2 ∨ e ≤ -1074) (a : Accuracy) :
    ∃ k : Nat, (shiftToTargetExponent Format.binary64 m e a).2 = e + k
      ∧ (e + k : Int) = max (m.log2 + e - 52) (-1074)
      ∧ (shiftToTargetExponent Format.binary64 m e a).1.mantissa = m / 2 ^ k := by
  refine ⟨(max ((m.log2 : Int) + e - 52) (-1074) - e).toNat, ?_, by omega, ?_⟩
  · rw [shiftToTargetExponent, targetExponent_eq]
    rfl
  · rw [shiftToTargetExponent, targetExponent_eq, shiftToExponent, mantissa_shiftRight]
    cases a with
    | exact => rfl
    | inexact o => cases o <;> rfl

/-- A mantissa that is not too long stays as it is in the second part of rounding. -/
lemma shiftToTargetExponent_of_log2_le {m : Nat} {e : Int} (hlog : m.log2 ≤ 52) (he : -1074 ≤ e) :
    (shiftToTargetExponent Format.binary64 m e .exact).1.mantissa = m
      ∧ (shiftToTargetExponent Format.binary64 m e .exact).2 = e := by
  have hzero : (max ((m.log2 : Int) + e - 52) (-1074) - e).toNat = 0 := by omega
  rw [shiftToTargetExponent, targetExponent_eq, shiftToExponent, hzero]
  exact ⟨rfl, Int.add_zero e⟩

/-- A mantissa that was cut off and rounded has no more digits than before, or one more. -/
lemma log2_le_of_cut {m r j : Nat} (hlow : m / 2 ^ j ≤ r) (hhigh : r ≤ m / 2 ^ j + 1) :
    r.log2 = 0 ∨ r.log2 + j ≤ m.log2 + 1 := by
  by_cases hq : m / 2 ^ j = 0
  · obtain rfl | rfl : r = 0 ∨ r = 1 := by omega
    · exact .inl rfl
    · exact .inl rfl
  · right
    have hdigits := log2_div_two_pow hq
    generalize m / 2 ^ j = q at hlow hhigh hq hdigits
    have hr : r < 2 ^ (q.log2 + 2) := by
      have hlt := Nat.lt_log2_self (n := q)
      rw [Nat.pow_succ]
      omega
    have hlog := (Nat.log2_lt (by omega)).mpr hr
    omega

/-- Rounding at most doubles the magnitude. -/
lemma roundWithAccuracy_below {m : Nat} {e k : Int} (h : 52 ≤ m.log2 ∨ e ≤ -1074)
    (hk : totalExponent m e ≤ k) (hmin : -1074 ≤ k) (s : Sign) (a : Accuracy) :
    BelowUnpacked (k + 1) (roundWithAccuracy Format.binary64 s m e a) := by
  obtain ⟨j, hexponent, hj, hmantissa⟩ := shiftToTargetExponent_eq h a
  rw [totalExponent] at hk
  rw [roundWithAccuracy]
  generalize shiftToTargetExponent Format.binary64 m e a = first at hexponent hmantissa ⊢
  obtain ⟨em, t⟩ := first
  obtain ⟨hlow, hhigh⟩ := mantissa_le_roundedMantissa em
  dsimp only at hexponent hmantissa ⊢
  rw [hmantissa] at hlow hhigh
  subst hexponent
  generalize em.roundedMantissa = r at hlow hhigh ⊢
  have hcut := log2_le_of_cut hlow hhigh
  have hq : m / 2 ^ j < 2 ^ 53 := by
    rw [Nat.div_lt_iff_lt_mul (Nat.two_pow_pos j), ← Nat.pow_add]
    exact Nat.lt_of_lt_of_le Nat.lt_log2_self (Nat.pow_le_pow_right (by decide) (by omega))
  by_cases hlt : r < 2 ^ 53
  · have hlog : r.log2 ≤ 52 := by
      by_cases hr : r = 0
      · rw [hr]
        exact Nat.zero_le _
      · exact Nat.le_of_lt_succ ((Nat.log2_lt hr).mpr hlt)
    obtain ⟨hsame, hstay⟩ := shiftToTargetExponent_of_log2_le hlog (e := e + j) (by omega)
    rw [hsame, hstay]
    split
    · trivial
    · next hr =>
      -- above the least exponent the mantissa was cut to full length
      have hfull : r.log2 = 52 ∨ (e + j : Int) = -1074 := by
        by_cases hleast : (e + j : Int) = -1074
        · exact .inr hleast
        · have hm : m ≠ 0 := by
            rintro rfl
            have : Nat.log2 0 = 0 := rfl
            omega
          have hdigits : m.log2 = 52 + j := by omega
          have hbits : 2 ^ 52 ≤ m / 2 ^ j := by
            rw [Nat.le_div_iff_mul_le (Nat.two_pow_pos j), ← Nat.pow_add, ← hdigits]
            exact Nat.log2_self_le hm
          exact .inl (Nat.le_antisymm hlog ((Nat.le_log2 hr).mpr (hbits.trans hlow)))
      refine ⟨⟨hlog, by omega, hfull⟩, ?_⟩
      rw [totalExponent]
      omega
  · -- rounding up gave one more digit, which is zero
    obtain rfl : r = 2 ^ 53 := by omega
    have hdigits : Nat.log2 (2 ^ 53) = 53 := Nat.log2_two_pow
    obtain ⟨i, hexponent, hi, hmantissa⟩ :=
      shiftToTargetExponent_eq (m := 2 ^ 53) (e := e + j) (by omega) .exact
    obtain rfl : i = 1 := by omega
    rw [hmantissa, hexponent]
    have hhalf : 2 ^ 53 / 2 ^ 1 = 2 ^ 52 := rfl
    have hdigits' : Nat.log2 (2 ^ 52) = 52 := Nat.log2_two_pow
    rw [hhalf, dif_neg (by decide)]
    refine ⟨⟨by omega, by omega, by omega⟩, ?_⟩
    rw [totalExponent]
    omega

/-- Rounding to fewer and to more digits at most doubles the magnitude. -/
lemma round_below {m : Nat} (hm : m ≠ 0) {e k : Int} (hk : totalExponent m e ≤ k)
    (hmin : -1074 ≤ k) (s : Sign) :
    BelowUnpacked (k + 1) (UnpackedFloat.round Format.binary64 s m e) := by
  rw [UnpackedFloat.round, targetExponent_eq]
  rw [totalExponent] at hk
  simp only [decreaseExponent, Nat.shiftLeft_eq]
  have hlog := log2_mul_two_pow hm (e - max ((m.log2 : Int) + e - 52) (-1074)).toNat
  refine roundWithAccuracy_below ?_ ?_ hmin s .exact
  · rw [hlog]
    omega
  · rw [totalExponent, hlog]
    omega

lemma normalize_below {m : Int} {e k : Int} (hk : m ≠ 0 → totalExponent m.natAbs e ≤ k)
    (hmin : -1074 ≤ k) (s : Sign) :
    BelowUnpacked (k + 1) (UnpackedFloat.normalize Format.binary64 m e s) := by
  rw [UnpackedFloat.normalize]
  split
  · next h =>
    have hneg : m < 0 := Int.compare_eq_lt.mp h
    have habs : (-m).toNat = m.natAbs := by omega
    rw [habs]
    exact round_below (by omega) (hk (by omega)) hmin _
  · trivial
  · next h =>
    have hpos : 0 < m := Int.compare_eq_gt.mp h
    have habs : m.toNat = m.natAbs := by omega
    rw [habs]
    exact round_below (by omega) (hk (by omega)) hmin _

/-! ### Doubles -/

lemma belowUnpacked_pack {k : Int} (hmax : k ≤ 1024) {u : UnpackedFloat}
    (h : BelowUnpacked k u) : BelowUnpacked k (Float.Model.pack u).unpack := by
  cases u with
  | zero s => cases s <;> trivial
  | finite s m e hm =>
    obtain ⟨hcanonical, hk⟩ := h
    have he : e ≤ 971 := by
      have := hcanonical.full
      rw [totalExponent] at hk
      omega
    rw [unpack_pack hcanonical he]
    exact ⟨hcanonical, hk⟩
  | _ => exact h.elim

lemma isFinite_of_below {k : Int} {v : Float} (h : Below k v) : v.isFinite = true := by
  rw [Below] at h
  change v.toModel.unpack.isFinite = true
  cases hv : v.toModel.unpack with
  | zero s => rfl
  | finite s m e hm => rfl
  | _ => rw [hv] at h; exact h.elim

/-- Every finite double is less than `2 ^ 1024` in magnitude. -/
lemma below_of_isFinite {v : Float} (h : v.isFinite = true) : Below 1024 v := by
  change v.toModel.unpack.isFinite = true at h
  rw [Below]
  cases hv : v.toModel.unpack with
  | zero s => trivial
  | finite s m e hm =>
    obtain ⟨hcanonical, he⟩ := canonical_of_unpack hv
    have := hcanonical.log2_le
    refine ⟨hcanonical, ?_⟩
    rw [totalExponent]
    omega
  | _ => rw [hv] at h; cases h

lemma Below.mono {k l : Int} (hkl : k ≤ l) {v : Float} (h : Below k v) : Below l v :=
  BelowUnpacked.mono hkl h

lemma Below.abs {k : Int} (hmax : k ≤ 1024) {v : Float} (h : Below k v) : Below k v.abs := by
  refine belowUnpacked_pack hmax ?_
  rw [Below] at h
  cases hv : v.toModel.unpack with
  | zero s => trivial
  | finite s m e hm => rw [hv] at h; exact h
  | _ => rw [hv] at h; exact h.elim

/-! ### Sums and differences -/

/-- The common exponent of two mantissas makes them longer but no greater. -/
lemma shiftLeft_lt {m : Nat} (hm : 0 < m) {e least k : Int} (hleast : least ≤ e)
    (hk : totalExponent m e ≤ k) : m <<< (e - least).toNat < 2 ^ (k - least).toNat := by
  rw [totalExponent] at hk
  have hlog := log2_mul_two_pow hm.ne' (e - least).toNat
  rw [Nat.shiftLeft_eq]
  exact Nat.lt_of_lt_of_le Nat.lt_log2_self (Nat.pow_le_pow_right (by decide) (by omega))

/-- What two mantissas with a common exponent add up to. -/
lemma totalExponent_le_of_natAbs_le {m : Int} {a b : Nat} {least k : Int} (hm : m ≠ 0)
    (hle : m.natAbs ≤ a + b) (ha : a < 2 ^ (k - least).toNat) (hb : b < 2 ^ (k - least).toNat) :
    totalExponent m.natAbs least ≤ k + 1 := by
  have hsum : m.natAbs < 2 ^ ((k - least).toNat + 1) := by
    rw [Nat.pow_succ]
    omega
  have hlog := (Nat.log2_lt (by omega)).mpr hsum
  have hpos : 0 < (k - least).toNat := by
    by_contra hzero
    have : (k - least).toNat = 0 := by omega
    rw [this] at ha hb
    omega
  rw [totalExponent]
  omega

lemma natAbs_apply (s : Sign) (n : Nat) : (s.apply n).natAbs = n := by
  cases s
  · exact Int.natAbs_neg n
  · rfl

section Sums

variable {k : Int} (hmin : -1075 ≤ k)
include hmin

/-- Any way to combine two mantissas with a common exponent that does no more than add them. -/
lemma combine_below {m₁ m₂ : Nat} (hm₁ : 0 < m₁) (hm₂ : 0 < m₂) {e₁ e₂ : Int}
    (h₁ : totalExponent m₁ e₁ ≤ k) (h₂ : totalExponent m₂ e₂ ≤ k) {m : Int}
    (hm : m.natAbs ≤ m₁ <<< (e₁ - min e₁ e₂).toNat + m₂ <<< (e₂ - min e₁ e₂).toNat) (s : Sign) :
    BelowUnpacked (k + 2) (UnpackedFloat.normalize Format.binary64 m (min e₁ e₂) s) := by
  have hsum := normalize_below (m := m) (e := min e₁ e₂) (k := k + 1)
    (fun hne => totalExponent_le_of_natAbs_le hne hm
      (shiftLeft_lt hm₁ (Int.min_le_left e₁ e₂) h₁) (shiftLeft_lt hm₂ (Int.min_le_right e₁ e₂) h₂))
    (by omega) s
  rwa [Int.add_assoc] at hsum

lemma BelowUnpacked.add {a b : UnpackedFloat} (ha : BelowUnpacked k a) (hb : BelowUnpacked k b) :
    BelowUnpacked (k + 2) (UnpackedFloat.add Format.binary64 a b) := by
  have hle : k ≤ k + 2 := by omega
  cases a with
  | zero s =>
    cases b with
    | zero t => rw [UnpackedFloat.add]; split <;> trivial
    | finite t m e hm => exact hb.mono hle
    | _ => exact hb.elim
  | finite s₁ m₁ e₁ hm₁ =>
    cases b with
    | zero t => exact ha.mono hle
    | finite s₂ m₂ e₂ hm₂ =>
      refine combine_below hmin hm₁ hm₂ ha.2 hb.2 ?_ .positive
      refine (Int.natAbs_add_le _ _).trans_eq ?_
      rw [natAbs_apply, natAbs_apply]
    | _ => exact hb.elim
  | _ => exact ha.elim

lemma BelowUnpacked.sub {a b : UnpackedFloat} (ha : BelowUnpacked k a) (hb : BelowUnpacked k b) :
    BelowUnpacked (k + 2) (UnpackedFloat.sub Format.binary64 a b) := by
  have hle : k ≤ k + 2 := by omega
  cases a with
  | zero s =>
    cases b with
    | zero t => rw [UnpackedFloat.sub]; split <;> trivial
    | finite t m e hm => exact ⟨hb.1, hb.2.trans hle⟩
    | _ => exact hb.elim
  | finite s₁ m₁ e₁ hm₁ =>
    cases b with
    | zero t => exact ha.mono hle
    | finite s₂ m₂ e₂ hm₂ =>
      refine combine_below hmin hm₁ hm₂ ha.2 hb.2 ?_ .positive
      refine (Int.natAbs_sub_le _ _).trans_eq ?_
      rw [natAbs_apply, natAbs_apply]
    | _ => exact hb.elim
  | _ => exact ha.elim

variable (hmax : k + 2 ≤ 1024) {a b : Float} (ha : Below k a) (hb : Below k b)
include hmax ha hb

theorem Below.add : Below (k + 2) (a + b) :=
  belowUnpacked_pack hmax (BelowUnpacked.add hmin ha hb)

theorem Below.sub : Below (k + 2) (a - b) :=
  belowUnpacked_pack hmax (BelowUnpacked.sub hmin ha hb)

end Sums

/-! ### Products and quotients -/

lemma log2_mul_le {m n : Nat} (hm : m ≠ 0) (hn : n ≠ 0) :
    m.log2 + n.log2 ≤ (m * n).log2 ∧ (m * n).log2 ≤ m.log2 + n.log2 + 1 := by
  have hne : m * n ≠ 0 := Nat.mul_ne_zero hm hn
  constructor
  · rw [Nat.le_log2 hne, Nat.pow_add]
    exact Nat.mul_le_mul (Nat.log2_self_le hm) (Nat.log2_self_le hn)
  · have hlt : m * n < 2 ^ (m.log2 + 1 + (n.log2 + 1)) := by
      rw [Nat.pow_add]
      exact Nat.mul_lt_mul'' Nat.lt_log2_self Nat.lt_log2_self
    have := (Nat.log2_lt hne).mpr hlt
    omega

lemma BelowUnpacked.mul {j k : Int} (hmin : -1074 ≤ j + k) {a b : UnpackedFloat}
    (ha : BelowUnpacked j a) (hb : BelowUnpacked k b) :
    BelowUnpacked (j + k + 1) (UnpackedFloat.mul Format.binary64 a b) := by
  cases a with
  | zero s => cases b <;> first | exact hb.elim | trivial
  | finite s₁ m₁ e₁ hm₁ =>
    cases b with
    | zero t => trivial
    | finite s₂ m₂ e₂ hm₂ =>
      obtain ⟨⟨_, _, hfull₁⟩, hj⟩ := ha
      obtain ⟨⟨_, _, hfull₂⟩, hk⟩ := hb
      have hlog := log2_mul_le hm₁.ne' hm₂.ne'
      rw [totalExponent] at hj hk
      refine roundWithAccuracy_below (by omega) ?_ hmin _ _
      rw [totalExponent]
      omega
    | _ => exact hb.elim
  | _ => exact ha.elim

theorem Below.mul {j k : Int} (hmin : -1074 ≤ j + k) (hmax : j + k + 1 ≤ 1024) {a b : Float}
    (ha : Below j a) (hb : Below k b) : Below (j + k + 1) (a * b) :=
  belowUnpacked_pack hmax (BelowUnpacked.mul hmin ha hb)

/-- The number is finite, and at least half of `2 ^ k` in magnitude. -/
def ReachesUnpacked (k : Int) : UnpackedFloat → Prop
  | .finite _ m e _ => k ≤ totalExponent m e
  | _ => False

/-- The double is finite, and at least half of `2 ^ k` in magnitude. -/
def Attains (k : Int) (v : Float) : Prop := ReachesUnpacked k v.toModel.unpack

lemma log2_div {n m : Nat} (hm : m ≠ 0) (hq : n / m ≠ 0) :
    (n / m).log2 + m.log2 ≤ n.log2 ∧ n.log2 ≤ (n / m).log2 + m.log2 + 1 := by
  have hn : n ≠ 0 := by
    rintro rfl
    exact hq (Nat.zero_div m)
  constructor
  · rw [Nat.le_log2 hn, Nat.pow_add]
    exact (Nat.mul_le_mul (Nat.log2_self_le hq) (Nat.log2_self_le hm)).trans (Nat.div_mul_le_self n m)
  · have hlt : n < 2 ^ ((n / m).log2 + 1 + (m.log2 + 1)) := by
      rw [Nat.pow_add]
      calc n < (n / m + 1) * m := by
            rw [Nat.mul_comm]
            exact Nat.lt_mul_div_succ n (Nat.pos_of_ne_zero hm)
        _ ≤ 2 ^ ((n / m).log2 + 1) * 2 ^ (m.log2 + 1) :=
            Nat.mul_le_mul Nat.lt_log2_self (Nat.le_of_lt Nat.lt_log2_self)
    have := (Nat.log2_lt hn).mpr hlt
    omega

/-- The quotient has enough digits to be rounded. -/
lemma divCore_digits {m₁ m₂ : Nat} (hm₁ : 0 < m₁) (hm₂ : 0 < m₂) (e₁ e₂ : Int) :
    ∃ q t a, divCore Format.binary64 m₁ e₁ m₂ e₂ = (q, t, a) ∧ (52 ≤ q.log2 ∨ t ≤ -1074)
      ∧ (totalExponent q t ≤ totalExponent m₁ e₁ - totalExponent m₂ e₂ + 1
        ∨ totalExponent q t ≤ -1073) := by
  have htarget (x : Int) : Format.binary64.targetExponent x = max (x - 53) (-1074) := rfl
  rw [divCore, htarget]
  refine ⟨_, _, _, rfl, ?_⟩
  rw [totalExponent, totalExponent, totalExponent, Nat.shiftLeft_eq]
  generalize ht : min (e₁ - e₂)
    (max ((m₁.log2 : Int) + 1 + e₁ - ((m₂.log2 : Int) + 1 + e₂) - 53) (-1074)) = t
  have hlog := log2_mul_two_pow hm₁.ne' (e₁ - e₂ - t).toNat
  generalize m₁ * 2 ^ (e₁ - e₂ - t).toNat = n at hlog
  by_cases hq : n / m₂ = 0
  · have hlt : n < m₂ := (Nat.div_eq_zero_iff_lt hm₂).mp hq
    have hle : n.log2 ≤ m₂.log2 := by
      by_cases hn : n = 0
      · rw [hn]
        exact Nat.zero_le _
      · exact (Nat.le_log2 hm₂.ne').mpr ((Nat.log2_self_le hn).trans hlt.le)
    have hzero : Nat.log2 0 = 0 := rfl
    rw [hq]
    omega
  · have := log2_div hm₂.ne' hq
    generalize n / m₂ = q at hq this ⊢
    omega

lemma BelowUnpacked.div {k l : Int} (hmin : -1074 ≤ k - l) {a b : UnpackedFloat}
    (ha : BelowUnpacked k a) (hb : ReachesUnpacked l b) :
    BelowUnpacked (k - l + 2) (UnpackedFloat.div Format.binary64 a b) := by
  cases a with
  | zero s => cases b <;> first | exact hb.elim | trivial
  | finite s₁ m₁ e₁ hm₁ =>
    cases b with
    | finite s₂ m₂ e₂ hm₂ =>
      obtain ⟨q, t, accuracy, hcore, hdigits, htotal⟩ := divCore_digits hm₁ hm₂ e₁ e₂
      have hk := ha.2
      change l ≤ totalExponent m₂ e₂ at hb
      rw [UnpackedFloat.div, hcore]
      have h := roundWithAccuracy_below (k := k - l + 1) hdigits (by omega) (by omega)
        (s₁ / s₂) accuracy
      rwa [Int.add_assoc] at h
    | _ => exact hb.elim
  | _ => exact ha.elim

theorem Below.div {k l : Int} (hmin : -1074 ≤ k - l) (hmax : k - l + 2 ≤ 1024) {a b : Float}
    (ha : Below k a) (hb : Attains l b) : Below (k - l + 2) (a / b) :=
  belowUnpacked_pack hmax (BelowUnpacked.div hmin ha hb)

/-! ### Counts -/

/-- A count that is not too great is represented exactly. -/
lemma unpack_count {n : Nat} (hn : 0 < n) (hlt : n < 2 ^ 53) :
    ∃ m e hm, n.toUInt64.toFloat.toModel.unpack = .finite .positive m e hm
      ∧ Canonical m e ∧ totalExponent m e = n.log2 + 1 := by
  have hlog : n.log2 ≤ 52 := Nat.le_of_lt_succ ((Nat.log2_lt hn.ne').mpr hlt)
  have hdigits := log2_mul_two_pow hn.ne' (52 - n.log2)
  have hcanonical : Canonical (n * 2 ^ (52 - n.log2)) (n.log2 - 52) :=
    ⟨by omega, by omega, by omega⟩
  have hpos : 0 < n * 2 ^ (52 - n.log2) := Nat.mul_pos hn (Nat.two_pow_pos _)
  have hround : UnpackedFloat.ofUInt64 Format.binary64 n.toUInt64
      = .finite .positive (n * 2 ^ (52 - n.log2)) (n.log2 - 52) hpos := by
    have hn' : n.toUInt64.toNat = n := by
      exact UInt64.toNat_ofNat_of_lt' (hlt.trans (by decide))
    have hcompare : compare (n : Int) 0 = .gt := Int.compare_eq_gt.mpr (by omega)
    have hexponent : max ((n.log2 : Int) + 0 - 52) (-1074) = n.log2 - 52 := by omega
    have hshift : (0 - ((n.log2 : Int) - 52)).toNat = 52 - n.log2 := by omega
    have hleft : (0 - ((52 - n.log2 : Nat) : Int)) = n.log2 - 52 := by omega
    rw [UnpackedFloat.ofUInt64, UnpackedFloat.ofNat, UnpackedFloat.ofInt, UnpackedFloat.normalize, hn', hcompare]
    simp only [Int.toNat_natCast, UnpackedFloat.round, targetExponent_eq, hexponent,
      decreaseExponent, hshift, hleft, Nat.shiftLeft_eq]
    have h := roundWithAccuracy_mul_two_pow hcanonical hpos .positive 0
    rwa [Nat.pow_zero, Nat.mul_one, Int.natCast_zero, Int.sub_zero] at h
  refine ⟨_, _, hpos, ?_, hcanonical, ?_⟩
  · change (Float.Model.pack (UnpackedFloat.ofUInt64 Format.binary64 n.toUInt64)).unpack = _
    rw [hround, unpack_pack hcanonical (by omega)]
  · rw [totalExponent]
    omega

lemma below_count {n : Nat} (hn : 0 < n) (hlt : n < 2 ^ 53) :
    Below (n.log2 + 1) n.toUInt64.toFloat := by
  obtain ⟨m, e, hm, hunpack, hcanonical, htotal⟩ := unpack_count hn hlt
  rw [Below, hunpack]
  exact ⟨hcanonical, htotal.le⟩

lemma attains_count {n : Nat} (hn : 0 < n) (hlt : n < 2 ^ 53) :
    Attains (n.log2 + 1) n.toUInt64.toFloat := by
  obtain ⟨m, e, hm, hunpack, -, htotal⟩ := unpack_count hn hlt
  rw [Attains, hunpack]
  exact htotal.ge

/-! ### Numbers that are not too great -/

/-- The number is finite and at most `10 ^ 300` in magnitude. -/
def IsModerate (v : Float) : Prop := v.abs ≤ 1e300

instance (v : Float) : Decidable (IsModerate v) := inferInstanceAs (Decidable (_ ≤ _))

lemma unpack_limit :
    ∃ m hm, (1e300 : Float).toModel.unpack = .finite .positive m 944 hm := by
  have hbits : (1e300 : Float).toModel.toBits = 9094988921128908188 := by decide +kernel
  rw [Float.Model.unpack, hbits]
  exact ⟨_, _, rfl⟩

lemma IsModerate.below {v : Float} (h : IsModerate v) : Below 997 v := by
  obtain ⟨limit, hlimit, hunpack⟩ := unpack_limit
  rw [IsModerate] at h
  generalize (1e300 : Float) = bound at h hunpack
  replace h : v.abs.toModel.unpack.le bound.toModel.unpack = true := of_decide_eq_true h
  rw [hunpack] at h
  change (Float.Model.pack v.toModel.unpack.abs).unpack.le _ = true at h
  rw [Below]
  cases hv : v.toModel.unpack with
  | zero s => trivial
  | finite s m e hm =>
    obtain ⟨hcanonical, he⟩ := canonical_of_unpack hv
    rw [hv, UnpackedFloat.abs, unpack_pack hcanonical he] at h
    have hle : e ≤ 944 := by
      by_contra hgt
      have hcompare : compare e 944 = .gt := Int.compare_eq_gt.mpr (by omega)
      rw [UnpackedFloat.le, UnpackedFloat.compare, hcompare] at h
      cases h
    have := hcanonical.log2_le
    refine ⟨hcanonical, ?_⟩
    rw [totalExponent]
    omega
  | infinity s =>
    have hpacked : (Float.Model.pack (UnpackedFloat.infinity s).abs).unpack
        = .infinity .positive :=
      (fields_packComponents .positive (-1#11) 0#52).unique (.infinite rfl rfl)
    rw [hv, hpacked] at h
    cases h
  | notANumber =>
    rw [hv] at h
    cases h

lemma unpack_thousand :
    (1000 : Float).toModel.unpack = .finite .positive 8796093022208000 (-43) (by decide) := by
  rfl

/-- A thousandth of a finite number is finite. -/
lemma isFinite_div_thousand {v : Float} (h : v.isFinite = true) : (v / 1000).isFinite = true := by
  have hthousand : Attains 10 (1000 : Float) := by
    rw [Attains, unpack_thousand]
    change (10 : Int) ≤ totalExponent 8796093022208000 (-43)
    decide
  exact isFinite_of_below ((below_of_isFinite h).div (by decide) (by decide) hthousand)

/-- A thousand times a number that is not too great is finite. -/
lemma isFinite_mul_thousand {v : Float} (h : IsModerate v) : (v * 1000).isFinite = true := by
  have hthousand : Below 10 (1000 : Float) := by
    rw [Below, unpack_thousand]
    exact ⟨⟨by decide, by decide, by decide⟩, by decide⟩
  exact isFinite_of_below (h.below.mul (by decide) (by decide) hthousand)

end SpectroRemote.Double
