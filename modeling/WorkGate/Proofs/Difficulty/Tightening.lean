import WorkGate.Proofs.Difficulty.Range

/-!
# The drop of a tightening

A full correction lowers the ceiling by the full drop.  A tightening applies its share of the full
drop, at least one, and never lowers the ceiling below one.  Put in this way the forced minimum of
one step is part of the formula, and no statement about tightenings has to split cases on it.

The full drop grows with the rate.  It grows with the ceiling too, but never faster than the ceiling
itself.
-/

namespace WorkGate.Difficulty

namespace Law

variable {law : Law} {ceiling lower upper : HashValue} {rate slow fast : Nat}

/-- The drop of the ceiling that a full correction makes. -/
def fullDrop (law : Law) (ceiling : HashValue) (rate : Nat) : Nat :=
  ceiling.toNat - law.target ceiling rate

/-- The part of the full drop that one evaluation applies. -/
def share (law : Law) (ceiling : HashValue) (rate : Nat) : Nat :=
  law.fullDrop ceiling rate / law.evaluationsPerMinute.toNat

theorem target_le : law.target ceiling rate ≤ ceiling.toNat :=
  Nat.min_le_right _ _

/-- A tightening drops by its share of the full drop, at least by one, and stops at one. -/
theorem toNat_tightened_eq :
    (law.tightened ceiling rate).toNat =
      max 1 (ceiling.toNat - max 1 (law.share ceiling rate)) := by
  have step_eq :
      law.tighteningStep ceiling rate =
        if law.share ceiling rate = 0 ∧ 1 < ceiling.toNat then 1
        else law.share ceiling rate :=
    rfl
  rw [toNat_tightened, step_eq]
  split
  · omega
  · omega

/-- A tightening lowers every ceiling above one. -/
theorem tightened_lt (above : 1 < ceiling.toNat) :
    (law.tightened ceiling rate).toNat < ceiling.toNat := by
  rw [toNat_tightened_eq]
  omega

/-- A tightening leaves a ceiling of one where it is. -/
theorem tightened_of_eq_one (least : ceiling.toNat = 1) :
    (law.tightened ceiling rate).toNat = 1 := by
  rw [toNat_tightened_eq]
  omega

/-! ## How the drop depends on the ceiling and the rate -/

theorem target_mono (ordered : lower.toNat ≤ upper.toNat) :
    law.target lower rate ≤ law.target upper rate := by
  have quotient :
      lower.toNat * ratioScale / law.overshoot rate ≤
        upper.toNat * ratioScale / law.overshoot rate :=
    Nat.div_le_div_right (Nat.mul_le_mul_right ratioScale ordered)
  simp only [target]
  omega

theorem overshoot_mono (faster : slow ≤ fast) : law.overshoot slow ≤ law.overshoot fast :=
  Nat.div_le_div_right (Nat.mul_le_mul_right ratioScale faster)

theorem target_anti (wanted : law.desired.toNat ≤ slow) (faster : slow ≤ fast) :
    law.target ceiling fast ≤ law.target ceiling slow := by
  have quotient :
      ceiling.toNat * ratioScale / law.overshoot fast ≤
        ceiling.toNat * ratioScale / law.overshoot slow :=
    Nat.div_le_div_left (overshoot_mono faster) (overshoot_pos wanted)
  simp only [target]
  omega

/-- A higher rate drops the ceiling further. -/
theorem share_mono (wanted : law.desired.toNat ≤ slow) (faster : slow ≤ fast) :
    law.share ceiling slow ≤ law.share ceiling fast :=
  Nat.div_le_div_right (Nat.sub_le_sub_left (target_anti wanted faster) _)

/-- The share of the drop grows at most by what the ceiling grows. -/
theorem share_le_add_sub (ordered : lower.toNat ≤ upper.toNat) :
    law.share upper rate ≤ law.share lower rate + (upper.toNat - lower.toNat) := by
  have drop :
      law.fullDrop upper rate ≤ law.fullDrop lower rate + (upper.toNat - lower.toNat) := by
    have targets : law.target lower rate ≤ law.target upper rate := target_mono ordered
    have within : law.target lower rate ≤ lower.toNat := target_le
    simp only [fullDrop]
    omega
  calc
    law.share upper rate ≤
        (law.fullDrop lower rate + (upper.toNat - lower.toNat)) /
          law.evaluationsPerMinute.toNat :=
      Nat.div_le_div_right drop
    _ ≤
        (law.fullDrop lower rate +
            (upper.toNat - lower.toNat) * law.evaluationsPerMinute.toNat) /
          law.evaluationsPerMinute.toNat :=
      Nat.div_le_div_right
        (Nat.add_le_add_left (Nat.le_mul_of_pos_right _ law.evaluations_pos) _)
    _ = law.share lower rate + (upper.toNat - lower.toNat) :=
      Nat.add_mul_div_right _ _ law.evaluations_pos

end Law

/-- An evaluation that counts too many solves tightens the ceiling. -/
theorem evaluate_of_fast
    {difficulty : Difficulty}
    {now : Int}
    (fast : difficulty.law.desired.toNat < (difficulty.recent now).length) :
    difficulty.evaluate now =
      (.tightened difficulty.ceiling
          (difficulty.law.tightened difficulty.ceiling (difficulty.recent now).length)
          (difficulty.recent now).length,
        difficulty.tighten
          (difficulty.law.tightened difficulty.ceiling (difficulty.recent now).length)
          (difficulty.recent now)) := by
  rw [evaluate_eq_revise, revise_of_fast fast]

end WorkGate.Difficulty
