import SpectroRemote.Proofs.Setpoints

/-!
# Moves in exact arithmetic

With rational numbers a move goes from its start to its target in steps of one size
(`start_cons_setpoints`). So it ends at the target, turns nowhere, and never goes past the target
(`setpoints_evenly_spaced`). With doubles this holds up to rounding.
-/

namespace SpectroRemote

instance : MoveArithmetic ℚ where
  ofCount n := n
  negOne := -1
  magnitude q := |q|
  less a b := decide (a < b)

namespace MagnetMove

variable (m : MagnetMove ℚ)

/-- The way from one setpoint to the next one, with its sign. -/
def stride : ℚ := (m.target - m.start) / m.stepCount

/-- The field after some steps. -/
def fieldAfter (i : ℕ) : ℚ := m.start + i * m.stride

lemma direction_mul_step : m.direction * m.step = m.stride := by
  have hstep : m.step = |m.target - m.start| / m.stepCount := rfl
  rw [direction, hstep, stride]
  by_cases h : m.start < m.target
  · have hless : MoveArithmetic.less m.start m.target = true := decide_eq_true h
    have hone : (MoveArithmetic.ofCount 1 : ℚ) = 1 := Nat.cast_one
    rw [if_pos hless, hone, one_mul, abs_of_pos (sub_pos.mpr h)]
  · have hless : MoveArithmetic.less m.start m.target = false := decide_eq_false h
    have hneg : (MoveArithmetic.negOne : ℚ) = -1 := rfl
    rw [hless, if_neg Bool.false_ne_true, hneg, abs_of_nonpos (sub_nonpos.mpr (not_lt.mp h))]
    ring

lemma fieldAfter_zero : m.fieldAfter 0 = m.start := by
  rw [fieldAfter, Nat.cast_zero, zero_mul, add_zero]

lemma fieldAfter_succ_sub (i : ℕ) : m.fieldAfter (i + 1) - m.fieldAfter i = m.stride := by
  rw [fieldAfter, fieldAfter, Nat.cast_succ]
  ring

variable {m}

lemma fieldAfter_stepCount (h : 0 < m.stepCount) : m.fieldAfter m.stepCount = m.target := by
  have hcount : (m.stepCount : ℚ) ≠ 0 := Nat.cast_ne_zero.mpr h.ne'
  rw [fieldAfter, stride, mul_div_cancel₀ _ hcount]
  ring

/-! ### Fields on the way -/

/-- The setpoints are the fields after one step, after two, and so on. -/
lemma setpoints_eq (h : 0 < m.stepCount) :
    m.setpoints = (List.range m.stepCount).map fun i => m.fieldAfter (i + 1) := by
  rw [setpoints]
  split
  · apply List.map_congr_left
    intro i _
    have hcount : (MoveArithmetic.ofCount (i + 1) : ℚ) = (i + 1 : ℕ) := rfl
    rw [fieldAfter, ← direction_mul_step, hcount]
    ring
  · next hdivided =>
    rw [isDivided, decide_eq_true_eq] at hdivided
    have hone : m.stepCount = 1 := by omega
    have htarget := fieldAfter_stepCount h
    rw [hone] at htarget ⊢
    rw [List.range_one, List.map_singleton, Nat.zero_add, htarget]

lemma start_cons_setpoints (h : 0 < m.stepCount) :
    m.start :: m.setpoints = (List.range (m.stepCount + 1)).map m.fieldAfter := by
  rw [List.range_succ_eq_map, List.map_cons, fieldAfter_zero, List.map_map, setpoints_eq h]
  rfl

/-! ### Distances and directions -/

/-- Two fields after one another are one stride apart. -/
lemma isChain_setpoints (h : 0 < m.stepCount) :
    (m.start :: m.setpoints).IsChain fun a b => b - a = m.stride := by
  rw [start_cons_setpoints h, List.isChain_map, List.isChain_range]
  intro i _
  exact m.fieldAfter_succ_sub i

/-- What holds of a field and of any later one holds of start and setpoints in their order. -/
lemma pairwise_setpoints (h : 0 < m.stepCount) {r : ℚ → ℚ → Prop}
    (hr : ∀ i j, i < j → r (m.fieldAfter i) (m.fieldAfter j)) :
    (m.start :: m.setpoints).Pairwise r := by
  rw [start_cons_setpoints h, List.pairwise_map]
  exact List.pairwise_lt_range.imp (hr _ _)

lemma getLast?_setpoints (h : 0 < m.stepCount) : m.setpoints.getLast? = some m.target := by
  obtain ⟨n, hn⟩ := Nat.exists_eq_succ_of_ne_zero h.ne'
  have htarget := fieldAfter_stepCount h
  rw [hn] at htarget
  rw [setpoints_eq h, hn, List.range_succ, List.map_append, List.map_singleton,
    List.getLast?_concat, htarget]

/-- In a list in which each element stands in a relation to all later ones, so does each to the last
one. -/
lemma eq_or_rel_of_getLast? {r : ℚ → ℚ → Prop} {l : List ℚ} {last v : ℚ} (h : l.Pairwise r)
    (hlast : l.getLast? = some last) (hv : v ∈ l) : v = last ∨ r v last := by
  obtain ⟨before, rfl⟩ := List.getLast?_eq_some_iff.mp hlast
  rcases List.mem_append.mp hv with hv | hv
  · exact .inr ((List.pairwise_append.mp h).2.2 v hv last (.head _))
  · exact .inl (List.mem_singleton.mp hv)

lemma stride_pos (h : 0 < m.stepCount) (hup : m.start < m.target) : 0 < m.stride :=
  div_pos (sub_pos.mpr hup) (Nat.cast_pos.mpr h)

lemma stride_neg (h : 0 < m.stepCount) (hdown : m.target < m.start) : m.stride < 0 :=
  div_neg_of_neg_of_pos (sub_neg.mpr hdown) (Nat.cast_pos.mpr h)

/-- An upward move goes up all the time, and not above its target. -/
lemma setpoints_ascend (h : 0 < m.stepCount) (hup : m.start < m.target) :
    (m.start :: m.setpoints).Pairwise (· < ·) ∧ ∀ v ∈ m.setpoints, m.start < v ∧ v ≤ m.target := by
  have hstride := stride_pos h hup
  have hpairwise : (m.start :: m.setpoints).Pairwise (· < ·) := by
    apply pairwise_setpoints h
    intro i j hij
    have hlt : (i : ℚ) < j := Nat.cast_lt.mpr hij
    exact add_lt_add_right (mul_lt_mul_of_pos_right hlt hstride) m.start
  obtain ⟨hstart, hrest⟩ := List.pairwise_cons.mp hpairwise
  refine ⟨hpairwise, fun v hv => ⟨hstart v hv, ?_⟩⟩
  rcases eq_or_rel_of_getLast? hrest (getLast?_setpoints h) hv with hlast | hlast
  · exact hlast.le
  · exact hlast.le

/-- A downward move goes down all the time, and not below its target. -/
lemma setpoints_descend (h : 0 < m.stepCount) (hdown : m.target < m.start) :
    (m.start :: m.setpoints).Pairwise (· > ·) ∧ ∀ v ∈ m.setpoints, m.target ≤ v ∧ v < m.start := by
  have hstride := stride_neg h hdown
  have hpairwise : (m.start :: m.setpoints).Pairwise (· > ·) := by
    apply pairwise_setpoints h
    intro i j hij
    have hlt : (i : ℚ) < j := Nat.cast_lt.mpr hij
    exact add_lt_add_right (mul_lt_mul_of_neg_right hlt hstride) m.start
  obtain ⟨hstart, hrest⟩ := List.pairwise_cons.mp hpairwise
  refine ⟨hpairwise, fun v hv => ⟨?_, hstart v hv⟩⟩
  rcases eq_or_rel_of_getLast? hrest (getLast?_setpoints h) hv with hlast | hlast
  · exact hlast.ge
  · exact hlast.le

/-! ### Planned moves -/

lemma stepCount_plan_of_lt {start target threshold : ℚ} (steps : ℕ)
    (hfar : threshold < |target - start|) :
    (plan start target threshold steps).stepCount = max steps 1 := if_pos (decide_eq_true hfar)

lemma setpoints_plan_of_le {start target threshold : ℚ} (steps : ℕ)
    (hnear : |target - start| ≤ threshold) :
    (plan start target threshold steps).setpoints = [target] := by
  have hcount : (plan start target threshold steps).stepCount = 1 :=
    if_neg (by simpa [MoveArithmetic.less, MoveArithmetic.magnitude] using hnear)
  rw [setpoints, isDivided, hcount]
  rfl

/-- A planned move ends exactly at its target. It goes towards the target all the time, leaves the
start with its first setpoint and never passes the target. All its distances, from the start on, are
the same: a move that is longer than the threshold is divided into the planned number of steps, and
any other one is made at once and is no longer than the threshold. -/
theorem setpoints_evenly_spaced (start target threshold : ℚ) (steps : ℕ) :
    let fields := (plan start target threshold steps).setpoints
    fields.getLast? = some target
      ∧ (start < target →
          (start :: fields).Pairwise (· < ·) ∧ ∀ v ∈ fields, start < v ∧ v ≤ target)
      ∧ (target < start →
          (start :: fields).Pairwise (· > ·) ∧ ∀ v ∈ fields, target ≤ v ∧ v < start)
      ∧ ∃ distance, (start :: fields).IsChain (fun a b => |b - a| = distance)
          ∧ (threshold < |target - start| →
              fields.length = max steps 1 ∧ distance = |target - start| / (max steps 1 : ℕ))
          ∧ (|target - start| ≤ threshold → fields = [target] ∧ distance ≤ threshold) := by
  intro fields
  have hcount := (stepCount_plan start target threshold steps).1
  refine ⟨getLast?_setpoints hcount, setpoints_ascend hcount, setpoints_descend hcount,
    |(plan start target threshold steps).stride|, ?_, ?_, ?_⟩
  · exact (isChain_setpoints hcount).imp fun a b hab => congrArg abs hab
  · intro hfar
    have hsteps := stepCount_plan_of_lt steps hfar
    constructor
    · rw [← hsteps]
      change (plan start target threshold steps).setpoints.length = _
      rw [setpoints_eq hcount, List.length_map, List.length_range]
    · rw [stride, abs_div, Nat.abs_cast, hsteps]
      rfl
  · intro hnear
    have hfields : fields = [target] := setpoints_plan_of_le steps hnear
    refine ⟨hfields, ?_⟩
    -- the only distance is that from the start to the target
    have hchain : (start :: fields).IsChain fun a b => b - a = _ := isChain_setpoints hcount
    rw [hfields, List.isChain_pair] at hchain
    rwa [← hchain]

example :
    (plan (8 : ℚ) 2 (1 / 4) 3).setpoints = [6, 4, 2] ∧ (plan (2 : ℚ) 8 6 3).setpoints = [8] := by
  decide +kernel

end MagnetMove

end SpectroRemote
