import Mathlib.Algebra.Order.Floor.Semifield
import Mathlib.Data.Nat.Cast.Order.Field
import Mathlib.Data.Rat.Floor
import Mathlib.Tactic.FieldSimp
import Mathlib.Tactic.GCongr
import Mathlib.Tactic.Linarith
import Mathlib.Tactic.NormNum
import Mathlib.Tactic.Positivity
import WorkGate.Proofs.Difficulty.Recovery
import WorkGate.Proofs.Difficulty.Tightening

/-!
# How accurate a tightening is

If the rate were to come down to the wanted one at once, the ceiling would have to be divided by the
overshoot of the rate.  The ideal drop is what it loses then, as a rational number.  One evaluation
applies its share of it, computed with three divisions that round down and with a ratio of six
decimal places.

The ratio is at least one, so its rounding shifts the full drop by less than a millionth of the
ceiling.  The target is rounded down, which adds less than one to the full drop, and the share is
rounded down, which takes away less than one from the drop that is applied.  The forced minimum of
one step and the least ceiling do not spoil these bounds.
-/

namespace WorkGate.Difficulty

/-- A quotient rounded down is less than one below the exact one. -/
theorem lt_quotient_add_one (value parts : Nat) :
    (value : ℚ) / parts < ((value / parts : Nat) : ℚ) + 1 := by
  rw [← Nat.floor_div_eq_div (K := ℚ) value parts]
  exact Nat.lt_floor_add_one _

namespace Law

variable {law : Law} {ceiling : HashValue} {rate : Nat}

/-- The drop of the ceiling that would bring the rate down to the wanted one, without rounding. -/
def idealDrop (law : Law) (ceiling : HashValue) (rate : Nat) : ℚ :=
  ceiling.toNat * (rate - law.desired.toNat) / rate

/-- The ideal ceiling, divided by the overshoot of the rate. -/
def idealCeiling (law : Law) (ceiling : HashValue) (rate : Nat) : ℚ :=
  ceiling.toNat * law.desired.toNat / rate

theorem desired_cast_pos (law : Law) : (0 : ℚ) < law.desired.toNat := by
  exact_mod_cast law.desired_pos

theorem one_le_evaluations_cast (law : Law) : (1 : ℚ) ≤ law.evaluationsPerMinute.toNat := by
  exact_mod_cast law.evaluations_pos

theorem rate_cast_pos (fast : law.desired.toNat ≤ rate) : (0 : ℚ) < rate := by
  exact_mod_cast Nat.lt_of_lt_of_le law.desired_pos fast

theorem overshoot_cast_pos (fast : law.desired.toNat ≤ rate) : (0 : ℚ) < law.overshoot rate := by
  exact_mod_cast overshoot_pos fast

theorem idealDrop_eq (fast : law.desired.toNat ≤ rate) :
    law.idealDrop ceiling rate = ceiling.toNat - law.idealCeiling ceiling rate := by
  have ratePositive := rate_cast_pos fast
  rw [idealDrop, idealCeiling]
  field_simp

/-! ## The ratio -/

theorem overshoot_mul_desired_le (law : Law) (rate : Nat) :
    (law.overshoot rate : ℚ) * law.desired.toNat ≤ rate * ratioScale := by
  exact_mod_cast Nat.div_mul_le_self (rate * ratioScale) law.desired.toNat

theorem le_succ_overshoot_mul_desired (law : Law) (rate : Nat) :
    (rate * ratioScale : ℚ) ≤ (law.overshoot rate + 1) * law.desired.toNat := by
  have below : rate * ratioScale < (law.overshoot rate + 1) * law.desired.toNat := by
    rw [Nat.mul_comm (law.overshoot rate + 1)]
    exact Nat.lt_mul_div_succ _ law.desired_pos
  exact_mod_cast Nat.le_of_lt below

/-- The ratio is rounded down, so the ceiling it leads to is not below the ideal one. -/
theorem idealCeiling_le (ceiling : HashValue) (fast : law.desired.toNat ≤ rate) :
    law.idealCeiling ceiling rate ≤ ceiling.toNat * ratioScale / law.overshoot rate := by
  rw [idealCeiling, div_le_div_iff₀ (rate_cast_pos fast) (overshoot_cast_pos fast), mul_assoc,
    mul_assoc, mul_comm (law.desired.toNat : ℚ), mul_comm (ratioScale : ℚ)]
  exact mul_le_mul_of_nonneg_left (overshoot_mul_desired_le law rate) (Nat.cast_nonneg _)

/-- As the ratio is at least one, its rounding costs at most a millionth of the ceiling. -/
theorem le_idealCeiling_add (ceiling : HashValue) (fast : law.desired.toNat ≤ rate) :
    (ceiling.toNat * ratioScale / law.overshoot rate : ℚ) ≤
      law.idealCeiling ceiling rate + ceiling.toNat / ratioScale := by
  have ratePositive := rate_cast_pos fast
  have ratioPositive := overshoot_cast_pos fast
  have scalePositive : (0 : ℚ) < ratioScale := by norm_num [ratioScale]
  have scaled := le_succ_overshoot_mul_desired law rate
  have product : (law.desired.toNat * ratioScale : ℚ) ≤ rate * law.overshoot rate := by
    exact_mod_cast Nat.mul_le_mul fast (ratioScale_le_overshoot fast)
  have millionth :
      (law.desired.toNat / (rate * law.overshoot rate) : ℚ) ≤ 1 / ratioScale := by
    rwa [div_le_div_iff₀ (mul_pos ratePositive ratioPositive) scalePositive, one_mul]
  calc
    (ceiling.toNat * ratioScale / law.overshoot rate : ℚ) =
        ceiling.toNat * ((rate * ratioScale) / (rate * law.overshoot rate)) := by
      field_simp
    _ ≤ ceiling.toNat *
          (((law.overshoot rate + 1) * law.desired.toNat) / (rate * law.overshoot rate)) := by
      gcongr
    _ = law.idealCeiling ceiling rate +
          ceiling.toNat * (law.desired.toNat / (rate * law.overshoot rate)) := by
      rw [idealCeiling]
      field_simp
    _ ≤ law.idealCeiling ceiling rate + ceiling.toNat * (1 / ratioScale) :=
      add_le_add_right (mul_le_mul_of_nonneg_left millionth (Nat.cast_nonneg _)) _
    _ = law.idealCeiling ceiling rate + ceiling.toNat / ratioScale := by
      rw [mul_one_div]

/-! ## The full drop and the drop that is applied -/

theorem cast_fullDrop (fast : law.desired.toNat ≤ rate) :
    (law.fullDrop ceiling rate : ℚ) =
      ceiling.toNat - ((ceiling.toNat * ratioScale / law.overshoot rate : Nat) : ℚ) := by
  have target_eq :
      law.target ceiling rate = ceiling.toNat * ratioScale / law.overshoot rate :=
    Nat.min_eq_left (quotient_le fast)
  rw [fullDrop, target_eq, Nat.cast_sub (quotient_le fast)]

/-- The full drop misses less than a millionth of the ceiling. -/
theorem idealDrop_sub_le_fullDrop (ceiling : HashValue) (fast : law.desired.toNat ≤ rate) :
    law.idealDrop ceiling rate - ceiling.toNat / ratioScale ≤ law.fullDrop ceiling rate := by
  have rounded :
      ((ceiling.toNat * ratioScale / law.overshoot rate : Nat) : ℚ) ≤
        ((ceiling.toNat * ratioScale : Nat) : ℚ) / law.overshoot rate :=
    Nat.cast_div_le
  have near := le_idealCeiling_add ceiling fast
  rw [Nat.cast_mul] at rounded
  rw [idealDrop_eq fast, cast_fullDrop fast]
  linarith

/-- The full drop exceeds the ideal one by less than one. -/
theorem fullDrop_lt_idealDrop_add_one (fast : law.desired.toNat ≤ rate) :
    (law.fullDrop ceiling rate : ℚ) < law.idealDrop ceiling rate + 1 := by
  have rounded := lt_quotient_add_one (ceiling.toNat * ratioScale) (law.overshoot rate)
  have near := idealCeiling_le ceiling fast
  rw [Nat.cast_mul] at rounded
  rw [idealDrop_eq fast, cast_fullDrop fast]
  linarith

theorem idealDrop_lt (positive : 1 ≤ ceiling.toNat) (fast : law.desired.toNat ≤ rate) :
    law.idealDrop ceiling rate < ceiling.toNat := by
  have ceilingPositive : (0 : ℚ) < ceiling.toNat := by exact_mod_cast positive
  have ideal : 0 < law.idealCeiling ceiling rate :=
    div_pos (mul_pos ceilingPositive (desired_cast_pos law)) (rate_cast_pos fast)
  rw [idealDrop_eq fast]
  linarith

/-- What a tightening drops. -/
theorem cast_sub_tightened (positive : 1 ≤ ceiling.toNat) :
    (ceiling.toNat : ℚ) - (law.tightened ceiling rate).toNat =
      min (max 1 (law.share ceiling rate) : ℚ) (ceiling.toNat - 1) := by
  have dropped :
      ceiling.toNat - (law.tightened ceiling rate).toNat =
        min (max 1 (law.share ceiling rate)) (ceiling.toNat - 1) := by
    rw [toNat_tightened_eq]
    omega
  rw [← Nat.cast_sub (tightened_le positive), dropped]
  push_cast [positive]
  rfl

/-- The drop misses less than one of the exact share of what the full drop is at least. -/
theorem lt_sub_tightened (positive : 1 ≤ ceiling.toNat) (fast : law.desired.toNat ≤ rate) :
    (law.idealDrop ceiling rate - ceiling.toNat / ratioScale) / law.evaluationsPerMinute.toNat - 1 <
      ceiling.toNat - (law.tightened ceiling rate).toNat := by
  have evaluations := one_le_evaluations_cast law
  have scalePositive : (0 : ℚ) < ratioScale := by norm_num [ratioScale]
  have least := idealDrop_sub_le_fullDrop ceiling fast
  rw [cast_sub_tightened positive]
  apply lt_min
  · calc
      (law.idealDrop ceiling rate - ceiling.toNat / ratioScale) /
            law.evaluationsPerMinute.toNat - 1 ≤
          law.fullDrop ceiling rate / law.evaluationsPerMinute.toNat - 1 := by
        gcongr
      _ < law.share ceiling rate := by
        have rounded :=
          lt_quotient_add_one (law.fullDrop ceiling rate) law.evaluationsPerMinute.toNat
        rw [share]
        linarith
      _ ≤ max 1 (law.share ceiling rate : ℚ) := le_max_right _ _
  · -- At the least ceiling no more can be dropped, but the ideal drop leaves something as well.
    have below := idealDrop_lt positive fast
    have lost : (0 : ℚ) ≤ ceiling.toNat / ratioScale := by positivity
    have shared :
        (law.idealDrop ceiling rate - ceiling.toNat / ratioScale) /
            law.evaluationsPerMinute.toNat < ceiling.toNat := by
      rw [div_lt_iff₀ (by linarith)]
      have ceilingPositive : (0 : ℚ) ≤ ceiling.toNat := Nat.cast_nonneg _
      nlinarith
    linarith

/-- The drop exceeds the exact share only by rounding, unless it is the forced step of one. -/
theorem sub_tightened_le (positive : 1 ≤ ceiling.toNat) (fast : law.desired.toNat ≤ rate) :
    (ceiling.toNat : ℚ) - (law.tightened ceiling rate).toNat ≤
      max 1 ((law.idealDrop ceiling rate + 1) / law.evaluationsPerMinute.toNat) := by
  have evaluations := one_le_evaluations_cast law
  rw [cast_sub_tightened positive]
  apply le_trans (min_le_left _ _)
  apply max_le_max (le_refl _)
  calc
    (law.share ceiling rate : ℚ) ≤
        law.fullDrop ceiling rate / law.evaluationsPerMinute.toNat :=
      Nat.cast_div_le
    _ ≤ (law.idealDrop ceiling rate + 1) / law.evaluationsPerMinute.toNat := by
      gcongr
      exact le_of_lt (fullDrop_lt_idealDrop_add_one fast)

end Law

/--
Whatever happened before, an evaluation that counts too many solves drops the ceiling by its share
of the ideal drop.  It misses less than the share of a millionth of the ceiling and one, and it
exceeds the ideal by rounding at most, or by the forced step of one.
-/
theorem drop_of_tightening_is_accurate
    (law : Law)
    (operations : List Operation)
    (now : Int)
    (fast : law.desired.toNat < (((start law).run operations).recent now).length) :
    let difficulty := (start law).run operations
    let ceiling : ℚ := difficulty.ceiling.toNat
    let desired : ℚ := law.desired.toNat
    let rate : ℚ := (difficulty.recent now).length
    let evaluations : ℚ := law.evaluationsPerMinute.toNat
    let ideal : ℚ := ceiling * (rate - desired) / rate
    let drop : ℚ := ceiling - (difficulty.evaluate now).2.ceiling.toNat
    (ideal - ceiling / 999999) / evaluations - 1 < drop ∧
      drop ≤ max 1 ((ideal + 1) / evaluations) := by
  intro difficulty ceiling desired rate evaluations ideal drop
  have sameLaw : difficulty.law = law := law_run operations
  have positive : 1 ≤ difficulty.ceiling.toNat :=
    ((InRange.start law).run operations).one_le_ceiling
  have wanted := Nat.le_of_lt fast
  have tightened_eq :
      (difficulty.evaluate now).2.ceiling =
        law.tightened difficulty.ceiling (difficulty.recent now).length := by
    have overloaded : difficulty.law.desired.toNat < (difficulty.recent now).length := by
      rw [sameLaw]
      exact fast
    rw [evaluate_of_fast overloaded, ceiling_tighten, sameLaw]
  have drop_eq :
      drop =
        difficulty.ceiling.toNat -
          (law.tightened difficulty.ceiling (difficulty.recent now).length).toNat := by
    rw [← tightened_eq]
  rw [drop_eq]
  refine ⟨?_, Law.sub_tightened_le positive wanted⟩
  calc
    (ideal - ceiling / 999999) / evaluations - 1 ≤
        (ideal - ceiling / ratioScale) / evaluations - 1 := by
      have ceilingPositive : 0 ≤ ceiling := Nat.cast_nonneg _
      have evaluationsPositive : 0 ≤ evaluations := Nat.cast_nonneg _
      gcongr
      norm_num [ratioScale]
    _ < _ := Law.lt_sub_tightened positive wanted

/-- A law under which a seventh of the correction is applied at each evaluation. -/
def sevenfoldLaw : Law :=
  { halvingLaw with
    evaluationsPerMinute := 7
    evaluations_pos := by decide }

/-- Three times the wanted solves ask for a third of the ceiling; a seventh of this is dropped. -/
theorem drop_of_threefold_rate :
    let before := (start sevenfoldLaw).run [.record 0 3]
    let drop : ℚ := before.ceiling.toNat - (before.evaluate 0).2.ceiling.toNat
    94 < drop ∧ drop < 96 := by
  intro before drop
  obtain ⟨lower, upper⟩ : _ < drop ∧ drop ≤ _ :=
    drop_of_tightening_is_accurate sevenfoldLaw [.record 0 3] 0 (by decide)
  have counted : (((start sevenfoldLaw).run [.record 0 3]).recent 0).length = 3 := by decide
  have first : ((start sevenfoldLaw).run [.record 0 3]).ceiling.toNat = 1000 := rfl
  have wanted : sevenfoldLaw.desired.toNat = 1 := rfl
  have evaluations : sevenfoldLaw.evaluationsPerMinute.toNat = 7 := rfl
  rw [counted, first, wanted, evaluations] at lower upper
  -- What is computed is the bounds alone, so the drop becomes a variable.
  clear_value drop
  norm_num at lower upper
  exact ⟨by linarith, by linarith⟩

end WorkGate.Difficulty
