import Mathlib
import SpectroRemote.Decimal.Shortest

/-!
# Rounding to doubles

The fractions that round to a double are those between the midpoints to its two neighbours, and a
midpoint itself if the rank of the double is even (`Rounds`). Every fraction of that kind has the
double as its nearest one (`nearestRank_eq`), and the shortest decimal of a double is such a
fraction (`rounds_shortest`).
-/

namespace SpectroRemote.Decimal

/-- The fraction `a / b` lies between the midpoints of the double of rank `r` and its neighbours,
and on one of them only if `r` is even. -/
structure Rounds (r a b : Nat) : Prop where
  lower : (units (r - 1) + units r) * b ≤ 2 * a * unitsPerOne
  upper : 2 * a * unitsPerOne ≤ (units r + units (r + 1)) * b
  odd : r % 2 = 1 → (units (r - 1) + units r) * b < 2 * a * unitsPerOne
    ∧ 2 * a * unitsPerOne < (units r + units (r + 1)) * b

/-- Whether a fraction rounds to a double does not depend on how it is reduced. -/
lemma Rounds.cancel {r a b c : Nat} (hc : 0 < c) (h : Rounds r (a * c) (b * c)) :
    Rounds r a b := by
  obtain ⟨hlower, hupper, hodd⟩ := h
  have hnumerator : 2 * (a * c) * unitsPerOne = 2 * a * unitsPerOne * c := by
    generalize unitsPerOne = one
    ring
  rw [hnumerator, ← Nat.mul_assoc] at hlower hupper
  rw [hnumerator, ← Nat.mul_assoc, ← Nat.mul_assoc] at hodd
  constructor
  · exact Nat.le_of_mul_le_mul_right hlower hc
  · exact Nat.le_of_mul_le_mul_right hupper hc
  · intro h
    exact ⟨Nat.lt_of_mul_lt_mul_right (hodd h).1, Nat.lt_of_mul_lt_mul_right (hodd h).2⟩

/-! ### Units -/

lemma binade_pos : 0 < binade := by decide

lemma binade_eq : binade = 2 ^ 52 := rfl

/-- The value of a double of which the exponent and the significand are known. -/
lemma units_eq {t c : Nat} (hlt : c < 2 * binade) (hle : t = 0 ∨ binade ≤ c) :
    units (t * binade + c) = c * 2 ^ t := by
  have hscale : scale (t * binade + c) = t := by
    rw [scale, Nat.add_comm, Nat.add_mul_div_right c t binade_pos]
    rcases Nat.lt_or_ge c binade with hc | hc
    · rw [Nat.div_eq_of_lt hc]
      omega
    · have hone : c / binade = 1 := Nat.div_eq_of_lt_le (by omega) (by omega)
      omega
  rw [units, significand, hscale, Nat.add_sub_cancel_left]
  rfl

/-- Every rank is made of an exponent and a significand. -/
lemma exists_rank_eq (r : Nat) :
    ∃ t c, r = t * binade + c ∧ c < 2 * binade ∧ (t = 0 ∨ binade ≤ c) := by
  have hdiv := Nat.div_add_mod r binade
  have hmod := Nat.mod_lt r binade_pos
  cases hq : r / binade with
  | zero =>
    rw [hq] at hdiv
    exact ⟨0, r, by omega, by omega, .inl rfl⟩
  | succ t =>
    rw [hq, Nat.mul_comm, Nat.succ_mul] at hdiv
    exact ⟨t, binade + r % binade, by omega, by omega, .inr (Nat.le_add_right _ _)⟩

section Neighbours

variable {t c : Nat} (hlt : c < 2 * binade)
include hlt

lemma units_succ (hle : t = 0 ∨ binade ≤ c) : units (t * binade + c + 1) = (c + 1) * 2 ^ t := by
  rcases Nat.lt_or_ge (c + 1) (2 * binade) with hnext | hnext
  · rw [Nat.add_assoc]
    exact units_eq hnext (by omega)
  · have hpos := binade_pos
    have hc : c + 1 = 2 * binade := by omega
    have hrank : t * binade + c + 1 = (t + 1) * binade + binade := by
      rw [Nat.add_mul t 1 binade]
      omega
    rw [hrank, units_eq (t := t + 1) (by omega) (.inr le_rfl), hc, Nat.pow_succ]
    ring

/-- Below a double whose significand is not the least one the distance is the same as above it. -/
lemma units_pred (hpos : 0 < c) (hle : t = 0 ∨ binade < c) :
    units (t * binade + c - 1) = (c - 1) * 2 ^ t := by
  have hrank : t * binade + c - 1 = t * binade + (c - 1) := by omega
  rw [hrank]
  exact units_eq (by omega) (by omega)

end Neighbours

/-- Below a double with the least significand the distance is half of that above it. -/
lemma units_pred_binade (t : Nat) :
    units ((t + 1) * binade + binade - 1) = (2 * binade - 1) * 2 ^ t := by
  have hpos := binade_pos
  have hrank : (t + 1) * binade + binade - 1 = t * binade + (2 * binade - 1) := by
    rw [Nat.add_mul t 1 binade]
    omega
  rw [hrank]
  exact units_eq (by omega) (.inr (by omega))

/-! ### The nearest double -/

lemma divNearestEven_eq {x d c : Nat} (hlower : 2 * (c * d) ≤ 2 * x + d)
    (hupper : 2 * x ≤ 2 * (c * d) + d)
    (hodd : c % 2 = 1 → 2 * (c * d) < 2 * x + d ∧ 2 * x < 2 * (c * d) + d) (hd : 0 < d) :
    divNearestEven x d = c := by
  have hx := Nat.div_add_mod x d
  have hmod := Nat.mod_lt x hd
  rw [divNearestEven]
  generalize x / d = q at hx ⊢
  generalize x % d = m at hx hmod ⊢
  obtain hc | hc | hc | hc : c + 1 ≤ q ∨ c = q ∨ c = q + 1 ∨ q + 2 ≤ c := by omega
  · have := Nat.mul_le_mul_right d hc
    rw [Nat.add_mul c 1 d, Nat.mul_comm q d] at this
    omega
  · subst hc
    rw [Nat.mul_comm c d] at hlower hupper hodd
    split
    · rfl
    · split
      · omega
      · split
        · rfl
        · omega
  · subst hc
    rw [Nat.add_mul q 1 d, Nat.mul_comm q d] at hlower hupper hodd
    split
    · omega
    · split
      · rfl
      · split
        · omega
        · rfl
  · have := Nat.mul_le_mul_right d hc
    rw [Nat.add_mul, Nat.mul_comm q d] at this
    omega

/-- The exponent of the double nearest to `x / b`, from bounds for that quotient. -/
lemma log2_sub_eq {x b t : Nat} (hb : 0 < b) (hlower : t = 0 ∨ 2 ^ (52 + t) * b ≤ x)
    (hupper : x < 2 ^ (53 + t) * b) : Nat.log2 (x / b) - 52 = t := by
  have hlt : x / b < 2 ^ (53 + t) := (Nat.div_lt_iff_lt_mul hb).mpr hupper
  by_cases hzero : x / b = 0
  · rcases hlower with rfl | hlower
    · rw [hzero]
      rfl
    · have := (Nat.le_div_iff_mul_le hb).mpr hlower
      have := Nat.two_pow_pos (52 + t)
      omega
  · have hhigh := (Nat.log2_lt hzero).mpr hlt
    rcases hlower with rfl | hlower
    · omega
    · have hlow := (Nat.le_log2 hzero).mpr ((Nat.le_div_iff_mul_le hb).mpr hlower)
      omega

/-- The midpoints on both sides of a double, except for the least significand of an exponent. -/
lemma Rounds.bounds {t c a b : Nat} (h : Rounds (t * binade + c) a b) (hpos : 0 < c)
    (hlt : c < 2 * binade) (hle : t = 0 ∨ binade < c) :
    2 * (c * (b * 2 ^ t)) ≤ 2 * (a * unitsPerOne) + b * 2 ^ t
      ∧ 2 * (a * unitsPerOne) ≤ 2 * (c * (b * 2 ^ t)) + b * 2 ^ t
      ∧ (c % 2 = 1 → 2 * (c * (b * 2 ^ t)) < 2 * (a * unitsPerOne) + b * 2 ^ t
        ∧ 2 * (a * unitsPerOne) < 2 * (c * (b * 2 ^ t)) + b * 2 ^ t) := by
  obtain ⟨hlower, hupper, hodd⟩ := h
  have hself : units (t * binade + c) = c * 2 ^ t := units_eq hlt (by omega)
  rw [units_pred hlt hpos hle, hself] at hlower hodd
  rw [units_succ hlt (by omega)] at hupper hodd
  rw [hself] at hupper
  have heven : (t * binade + c) % 2 = c % 2 := by
    have : t * binade = 2 * (t * 2 ^ 51) := by
      rw [binade_eq]
      ring
    omega
  have hbelow : ((c - 1) * 2 ^ t + c * 2 ^ t) * b + b * 2 ^ t = 2 * (c * (b * 2 ^ t)) := by
    obtain ⟨k, rfl⟩ : ∃ k, c = k + 1 := ⟨c - 1, by omega⟩
    rw [Nat.add_sub_cancel]
    ring
  have habove : (c * 2 ^ t + (c + 1) * 2 ^ t) * b = 2 * (c * (b * 2 ^ t)) + b * 2 ^ t := by ring
  rw [Nat.mul_assoc] at hlower hupper hodd
  rw [heven] at hodd
  omega

/-- The midpoints on both sides of a double with the least significand of its exponent. -/
lemma Rounds.bounds_binade {t a b : Nat} (h : Rounds ((t + 1) * binade + binade) a b) :
    2 * (2 * binade * (b * 2 ^ t)) ≤ 2 * (a * unitsPerOne) + b * 2 ^ t
      ∧ 2 * (a * unitsPerOne) ≤ 2 * (2 * binade * (b * 2 ^ t)) + 2 * (b * 2 ^ t) := by
  obtain ⟨hlower, hupper, -⟩ := h
  have hpos := binade_pos
  have hself : units ((t + 1) * binade + binade) = binade * 2 ^ (t + 1) :=
    units_eq (by omega) (.inr le_rfl)
  rw [units_pred_binade, hself, Nat.mul_assoc 2 a] at hlower
  rw [units_succ (by omega) (.inr le_rfl), hself, Nat.mul_assoc 2 a] at hupper
  have hbelow : ((2 * binade - 1) * 2 ^ t + binade * 2 ^ (t + 1)) * b + b * 2 ^ t
      = 2 * (2 * binade * (b * 2 ^ t)) := by
    obtain ⟨k, hk⟩ : ∃ k, 2 * binade = k + 1 := ⟨2 * binade - 1, by omega⟩
    rw [Nat.pow_succ', ← Nat.mul_assoc, Nat.mul_comm binade 2, hk, Nat.add_sub_cancel]
    ring
  have habove : (binade * 2 ^ (t + 1) + (binade + 1) * 2 ^ (t + 1)) * b
      = 2 * (2 * binade * (b * 2 ^ t)) + 2 * (b * 2 ^ t) := by ring
  omega

/-- The nearest double, given its exponent and its significand. -/
lemma nearestRank_eq_of_div {a b t c : Nat} (hb : 0 < b)
    (hlower : t = 0 ∨ binade * (b * 2 ^ t) ≤ a * unitsPerOne)
    (hupper : a * unitsPerOne < 2 * binade * (b * 2 ^ t))
    (hdiv : divNearestEven (a * unitsPerOne) (b * 2 ^ t) = c)
    (hlt : t * binade + c < infinityRank) : nearestRank a b = t * binade + c := by
  rw [nearestRank]
  generalize a * unitsPerOne = x at hlower hupper hdiv ⊢
  have hlow : t = 0 ∨ 2 ^ (52 + t) * b ≤ x := by
    refine hlower.imp_right fun h => ?_
    rwa [Nat.pow_add, ← binade_eq, Nat.mul_assoc, Nat.mul_comm (2 ^ t)]
  have hhigh : x < 2 ^ (53 + t) * b := by
    have hdouble : 2 ^ 53 = 2 * binade := rfl
    rwa [Nat.pow_add, hdouble, Nat.mul_assoc, Nat.mul_comm (2 ^ t)]
  rw [log2_sub_eq hb hlow hhigh]
  change min (t * binade + divNearestEven x (b * 2 ^ t)) infinityRank = _
  rw [hdiv]
  exact Nat.min_eq_left hlt.le

/-- A fraction between the midpoints around a double has it as its nearest one. -/
theorem nearestRank_eq {r a b : Nat} (hb : 0 < b) (hr : 0 < r) (hlt : r < infinityRank)
    (h : Rounds r a b) : nearestRank a b = r := by
  have hbinade := binade_pos
  obtain ⟨t, c, rfl, hc, hle⟩ := exists_rank_eq r
  have hd (t : Nat) : 0 < b * 2 ^ t := Nat.mul_pos hb (Nat.two_pow_pos t)
  by_cases hleast : t = 0 ∨ binade < c
  · have hpos : 0 < c := by
      rcases hleast with rfl | hleast
      · omega
      · omega
    obtain ⟨hlower, hupper, hodd⟩ := h.bounds hpos hc hleast
    have hc' := Nat.mul_le_mul_right (b * 2 ^ t) (Nat.succ_le_of_lt hc)
    rw [Nat.add_mul c 1, Nat.one_mul] at hc'
    refine nearestRank_eq_of_div hb (hleast.imp_right fun hgt => ?_) ?_
      (divNearestEven_eq hlower hupper hodd (hd t)) hlt
    · have hgt' := Nat.mul_le_mul_right (b * 2 ^ t) (Nat.succ_le_of_lt hgt)
      rw [Nat.add_mul binade 1, Nat.one_mul] at hgt'
      have := hd t
      omega
    · have := hd t
      omega
  · -- the least significand of an exponent: the fraction may belong to the exponent below
    obtain ⟨u, rfl⟩ : ∃ u, t = u + 1 := ⟨t - 1, by omega⟩
    obtain rfl : c = binade := by omega
    obtain ⟨hlower, hupper⟩ := h.bounds_binade
    have heven : binade % 2 = 0 := by decide
    have hwidth : b * 2 ^ (u + 1) = 2 * (b * 2 ^ u) := by
      rw [Nat.pow_succ]
      ring
    have hdouble : binade * (2 * (b * 2 ^ u)) = 2 * binade * (b * 2 ^ u) := by ring
    have hbig : b * 2 ^ u ≤ binade * (b * 2 ^ u) := Nat.le_mul_of_pos_left _ hbinade
    have hwide := Nat.mul_assoc 2 binade (b * 2 ^ u)
    have hpos := hd u
    rcases Nat.lt_or_ge (a * unitsPerOne) (2 * binade * (b * 2 ^ u)) with hlow | hhigh
    · have hrank : (u + 1) * binade + binade = u * binade + 2 * binade := by
        rw [Nat.add_mul u 1]
        omega
      rw [hrank] at hlt ⊢
      exact nearestRank_eq_of_div hb (.inr (by omega)) hlow
        (divNearestEven_eq hlower (by omega) (by omega) (hd u)) hlt
    · have hmore : 2 * binade * (2 * (b * 2 ^ u)) = 2 * (2 * binade * (b * 2 ^ u)) := by ring
      refine nearestRank_eq_of_div hb (.inr ?_) ?_
        (divNearestEven_eq ?_ ?_ (by omega) (hd (u + 1))) hlt
      · rwa [hwidth, hdouble]
      · rw [hwidth, hmore]
        omega
      · rw [hwidth, hdouble]
        omega
      · rw [hwidth, hdouble]
        omega

/-! ### Shortest decimals -/

lemma rounds_of_roundsTo {r n : Nat} (h : roundsTo r n = true) : Rounds r n denominator := by
  rw [roundsTo] at h
  split at h
  · next heven =>
    rw [Bool.and_eq_true, decide_eq_true_eq, decide_eq_true_eq] at h
    exact ⟨h.1, h.2, fun hodd => by omega⟩
  · rw [Bool.and_eq_true, decide_eq_true_eq, decide_eq_true_eq] at h
    exact ⟨h.1.le, h.2.le, fun _ => h⟩

lemma roundsTo_of_onGrid {r p n : Nat} (h : onGrid r p = some n) : roundsTo r (n * p) = true := by
  rw [onGrid] at h
  split at h
  · next hboth =>
    obtain ⟨hbelow, habove⟩ := Bool.and_eq_true_iff.mp hboth
    rw [← Option.some.inj h]
    split
    · exact hbelow
    · exact habove
  · split at h
    · next hbelow => rwa [← Option.some.inj h]
    · split at h
      · next habove => rwa [← Option.some.inj h]
      · cases h

lemma units_lt_succ (r : Nat) : units r < units (r + 1) := by
  obtain ⟨t, c, rfl, hlt, hle⟩ := exists_rank_eq r
  rw [units_eq hlt hle, units_succ hlt hle]
  exact Nat.mul_lt_mul_of_pos_right (Nat.lt_succ_self c) (Nat.two_pow_pos t)

/-- With all its places a decimal is exact enough. -/
lemma roundsTo_whole {r : Nat} (hr : 0 < r) :
    roundsTo r (units r * denominator / unitsPerOne) = true := by
  have hprecise : 2 * unitsPerOne ≤ denominator := by decide +kernel
  have hone : 0 < unitsPerOne := by decide +kernel
  have hbelow := units_lt_succ (r - 1)
  have habove := units_lt_succ r
  rw [Nat.sub_add_cancel hr] at hbelow
  rw [roundsTo]
  generalize denominator = d at hprecise ⊢
  generalize unitsPerOne = one at hprecise hone ⊢
  have hdiv := Nat.div_add_mod (units r * d) one
  have hmod := Nat.mod_lt (units r * d) hone
  generalize units r * d / one = whole at hdiv ⊢
  have hlow : (units (r - 1) + units r) * d + d ≤ 2 * (units r * d) := by
    calc (units (r - 1) + units r) * d + d
        = (units (r - 1) + 1 + units r) * d := by ring
      _ ≤ 2 * units r * d := Nat.mul_le_mul_right d (by omega)
      _ = 2 * (units r * d) := Nat.mul_assoc 2 (units r) d
  have hhigh : 2 * (units r * d) + d ≤ (units r + units (r + 1)) * d := by
    calc 2 * (units r * d) + d
        = (units r + (units r + 1)) * d := by ring
      _ ≤ (units r + units (r + 1)) * d := Nat.mul_le_mul_right d (by omega)
  have hwhole : 2 * whole * one = 2 * (one * whole) := by ring
  rw [hwhole]
  have hfits : (units (r - 1) + units r) * d < 2 * (one * whole)
      ∧ 2 * (one * whole) < (units r + units (r + 1)) * d := by omega
  split
  · exact Bool.and_eq_true_iff.mpr
      ⟨decide_eq_true hfits.1.le, decide_eq_true hfits.2.le⟩
  · exact Bool.and_eq_true_iff.mpr ⟨decide_eq_true hfits.1, decide_eq_true hfits.2⟩

/-- The shortest decimal of a double rounds to it. -/
theorem rounds_shortest {r : Nat} (hr : 0 < r) :
    Rounds r ((shortest r).1 * 10 ^ (shortest r).2) denominator := by
  rw [shortest]
  apply rounds_of_roundsTo
  cases hfound : (grids (digitCount (units r * denominator / unitsPerOne))).findSome?
      fun e => (onGrid r (Nat.pow 10 e)).map (·, e) with
  | none =>
    rw [Option.getD_none, Nat.pow_zero, Nat.mul_one]
    exact roundsTo_whole hr
  | some found =>
    obtain ⟨e, -, he⟩ := List.exists_of_findSome?_eq_some hfound
    obtain ⟨d, hd, rfl⟩ := Option.map_eq_some_iff.mp he
    exact roundsTo_of_onGrid hd

end SpectroRemote.Decimal
