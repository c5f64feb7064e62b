import WorkGate.Policy

/-!
# What validation ensures

A policy is validated if its highest ceiling, its rate, its durations and the period of its sweep
are all positive.  The counts derived from it are at least one in any case.
-/

namespace WorkGate.Policy

variable {policy : Policy}

/-- A lifetime whose quarter is positive is itself positive. -/
theorem validate_eq_ok_iff :
    policy.validate = .ok () ↔
      0 < policy.initialCeiling.toNat ∧ 0 < policy.desiredRate.toNat ∧
        0 < policy.evaluationInterval.nanos ∧ 0 < policy.solveWindow.nanos ∧
          0 < policy.recoveryPeriod.nanos ∧ 0 < policy.sweepInterval.nanos := by
  have rate : policy.desiredRate = 0 ↔ policy.desiredRate.toNat = 0 :=
    UInt64.toNat_inj.symm
  have quarter : policy.sweepInterval.nanos = policy.challengeLifetime.nanos / 4 := rfl
  simp only [validate, Duration.IsZero, rate, quarter]
  grind

/-- The number of evaluations in a minute always fits into a word. -/
theorem toNat_evaluationsPerMinute (policy : Policy) :
    policy.evaluationsPerMinute.toNat =
      max 1 (60000 / max 1 policy.evaluationInterval.millis) := by
  have bounded : 60000 / max 1 policy.evaluationInterval.millis ≤ 60000 := Nat.div_le_self _ _
  rw [evaluationsPerMinute, low64_eq_self (by omega), UInt64.toNat_ofNat', Nat.mod_eq_of_lt]
  omega

/-- Of the number of ticks in a recovery period the low 64 bits are kept. -/
theorem toNat_recoveryTicks (policy : Policy) :
    policy.recoveryTicks.toNat =
      max 1 (low64 (policy.recoveryPeriod.nanos / max 1 policy.evaluationInterval.nanos)) := by
  have small := low64_lt (policy.recoveryPeriod.nanos / max 1 policy.evaluationInterval.nanos)
  rw [recoveryTicks, UInt64.toNat_ofNat', Nat.mod_eq_of_lt]
  omega

theorem evaluationsPerMinute_pos (policy : Policy) : 0 < policy.evaluationsPerMinute.toNat := by
  rw [toNat_evaluationsPerMinute]
  exact Nat.le_max_left _ _

theorem recoveryTicks_pos (policy : Policy) : 0 < policy.recoveryTicks.toNat := by
  rw [toNat_recoveryTicks]
  exact Nat.le_max_left _ _

end WorkGate.Policy
