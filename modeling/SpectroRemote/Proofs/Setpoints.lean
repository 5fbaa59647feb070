import SpectroRemote.Magnet
import SpectroRemote.Proofs.Double.Magnitude

/-!
# Setpoints that are finite

The distance of two finite fields can be too great for a double, and then so are the steps between
them. For a start and a target that are not too great all setpoints of a move are finite.
-/

namespace SpectroRemote

open Double

namespace MagnetMove

lemma stepCount_plan {α : Type} [MoveArithmetic α] (start target threshold : α) (steps : Nat) :
    0 < (plan start target threshold steps).stepCount
      ∧ (plan start target threshold steps).stepCount ≤ max steps 1 := by
  rw [plan]
  cases MoveArithmetic.less threshold (MoveArithmetic.magnitude (target - start)) with
  | true => exact ⟨Nat.lt_of_lt_of_le Nat.one_pos (Nat.le_max_right steps 1), le_rfl⟩
  | false => exact ⟨Nat.one_pos, Nat.le_max_right steps 1⟩

variable {m : MagnetMove Float}

lemma below_direction : Below 1 m.direction := by
  rw [direction]
  split
  · exact below_count (n := 1) (by decide) (by decide)
  · have hone : (MoveArithmetic.negOne : Float).toModel.unpack
        = .finite .negative (2 ^ 52) (-52) (by decide) := rfl
    rw [Below, hone]
    exact ⟨⟨by decide, by decide, by decide⟩, by decide⟩

section Moderate

variable (hstart : IsModerate m.start) (htarget : IsModerate m.target) (hcount : 0 < m.stepCount)
  (hlimit : m.stepCount < 2 ^ 32)
include hstart htarget hcount hlimit

/-- A step is the smaller, the more of them there are. -/
lemma below_step : Below (1000 - m.stepCount.log2) m.step := by
  have hlog : m.stepCount.log2 < 32 := (Nat.log2_lt hcount.ne').mpr hlimit
  have hdistance : Below 999 (m.target - m.start) :=
    Below.sub (by decide) (by decide) htarget.below hstart.below
  have h := (hdistance.abs (by decide)).div (by omega) (by omega)
    (attains_count hcount (hlimit.trans (by decide)))
  have hexponent : 999 - ((m.stepCount.log2 : Int) + 1) + 2 = 1000 - m.stepCount.log2 := by omega
  rwa [hexponent] at h

/-- Setpoints are not much farther away than start and target. -/
lemma isFinite_setpoint {i : Nat} (hi : i < m.stepCount) :
    (m.start + m.direction * MoveArithmetic.ofCount (i + 1) * m.step).isFinite = true := by
  have hlog : m.stepCount.log2 < 32 := (Nat.log2_lt hcount.ne').mpr hlimit
  have hle : (i + 1).log2 ≤ m.stepCount.log2 :=
    (Nat.le_log2 hcount.ne').mpr ((Nat.log2_self_le (Nat.succ_ne_zero i)).trans hi)
  have hnumber : Below ((i + 1).log2 + 1) (MoveArithmetic.ofCount (i + 1) : Float) :=
    below_count (Nat.succ_pos i) (by omega)
  have hsigned := Below.mul (by omega) (by omega) (below_direction (m := m)) hnumber
  have hway : Below 1005 (m.direction * MoveArithmetic.ofCount (i + 1) * m.step) :=
    (Below.mul (by omega) (by omega) hsigned (below_step hstart htarget hcount hlimit)).mono
      (by omega)
  exact isFinite_of_below (Below.add (by decide) (by decide) (hstart.below.mono (by decide)) hway)

lemma isFinite_of_mem_setpoints {v : Float} (hv : v ∈ m.setpoints) : v.isFinite = true := by
  rw [setpoints] at hv
  split at hv
  · obtain ⟨i, hi, rfl⟩ := List.mem_map.mp hv
    exact isFinite_setpoint hstart htarget hcount hlimit (List.mem_range.mp hi)
  · rw [List.mem_singleton.mp hv]
    exact isFinite_of_below htarget.below

end Moderate

end MagnetMove

section Planned

variable {start target threshold : Float} {steps : Nat} (hstart : IsModerate start)
  (htarget : IsModerate target) (hsteps : steps < 2 ^ 32)
include hstart htarget hsteps

/-- All setpoints of a move between fields that are not too great are finite. -/
theorem MagnetMove.isFinite_of_mem_setpoints_plan {v : Float}
    (hv : v ∈ (MagnetMove.plan start target threshold steps).setpoints) : v.isFinite = true := by
  obtain ⟨hcount, hle⟩ := MagnetMove.stepCount_plan start target threshold steps
  have hlimit : (MagnetMove.plan start target threshold steps).stepCount < 2 ^ 32 :=
    hle.trans_lt (max_lt hsteps (by decide))
  have hplanned : (MagnetMove.plan start target threshold steps).start = start
      ∧ (MagnetMove.plan start target threshold steps).target = target := ⟨rfl, rfl⟩
  generalize MagnetMove.plan start target threshold steps = m at hv hcount hlimit hplanned
  rw [← hplanned.1] at hstart
  rw [← hplanned.2] at htarget
  exact MagnetMove.isFinite_of_mem_setpoints hstart htarget hcount hlimit hv

end Planned

end SpectroRemote
