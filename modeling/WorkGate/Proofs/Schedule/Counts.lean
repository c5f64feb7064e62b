import WorkGate.Proofs.Difficulty.Law
import WorkGate.Proofs.Gatekeeper.Operations
import WorkGate.Proofs.Schedule.Attendance

/-!
# The counts that stand for the interval

The law of a policy knows the interval between evaluations only by two counts: the evaluations in a
minute and the ticks in a recovery period.  The background task keeps to the interval itself, so in
any time it performs as many evaluations as whole intervals fit into it.

The ticks are divided in nanoseconds and are exact as long as the quotient fits into a word; they
never last longer than the recovery period.  The evaluations are divided in whole milliseconds of
the interval.  An interval with a fraction of a millisecond is taken for a shorter one, and more
evaluations are counted than there are, unless the fraction is too small to matter.
-/

namespace WorkGate

namespace Policy

variable {policy : Policy}

/-- With whole milliseconds the evaluations in a minute are counted exactly. -/
theorem evaluationsPerMinute_of_dvd
    (positive : 0 < policy.evaluationInterval.nanos)
    (whole : 1000000 ∣ policy.evaluationInterval.nanos) :
    policy.evaluationsPerMinute.toNat =
      max 1 (60000000000 / policy.evaluationInterval.nanos) := by
  obtain ⟨millis, nanos_eq⟩ := whole
  have millis_eq : policy.evaluationInterval.millis = millis := by
    rw [Duration.millis, nanos_eq, Nat.mul_div_cancel_left millis (by decide)]
  have millisPositive : 1 ≤ millis := by
    rw [nanos_eq] at positive
    exact Nat.pos_of_mul_pos_left positive
  have minute : 60000000000 = 1000000 * 60000 := by decide
  rw [toNat_evaluationsPerMinute, millis_eq, nanos_eq, Nat.max_eq_right millisPositive, minute,
    Nat.mul_div_mul_left _ _ (by decide)]

/-- The evaluations are divided by an interval that is rounded down, so there are never too few. -/
theorem exact_le_evaluationsPerMinute (long : 1000000 ≤ policy.evaluationInterval.nanos) :
    max 1 (60000000000 / policy.evaluationInterval.nanos) ≤
      policy.evaluationsPerMinute.toNat := by
  have rounded : 1000000 * policy.evaluationInterval.millis ≤ policy.evaluationInterval.nanos :=
    Nat.mul_div_le _ _
  have millisPositive : 1 ≤ policy.evaluationInterval.millis :=
    (Nat.one_le_div_iff (by decide)).mpr long
  have fewer :
      60000000000 / policy.evaluationInterval.nanos ≤
        60000 / policy.evaluationInterval.millis :=
    calc
      60000000000 / policy.evaluationInterval.nanos ≤
          1000000 * 60000 / (1000000 * policy.evaluationInterval.millis) :=
        Nat.div_le_div_left rounded (Nat.mul_pos (by decide) millisPositive)
      _ = 60000 / policy.evaluationInterval.millis := Nat.mul_div_mul_left _ _ (by decide)
  rw [toNat_evaluationsPerMinute, Nat.max_eq_right millisPositive]
  exact Nat.max_le.mpr ⟨Nat.le_max_left _ _, Nat.le_trans fewer (Nat.le_max_right _ _)⟩

/-- The count is exact if it is one at all, or if so many evaluations fit into a minute. -/
theorem evaluationsPerMinute_eq_iff (long : 1000000 ≤ policy.evaluationInterval.nanos) :
    policy.evaluationsPerMinute.toNat =
        max 1 (60000000000 / policy.evaluationInterval.nanos) ↔
      policy.evaluationsPerMinute.toNat = 1 ∨
        policy.evaluationsPerMinute.toNat * policy.evaluationInterval.nanos ≤ 60000000000 := by
  have positive : 0 < policy.evaluationInterval.nanos := Nat.lt_of_lt_of_le (by decide) long
  have atMost := exact_le_evaluationsPerMinute long
  -- At least the exact count is counted, so only the other inequality is in question.
  constructor
  · intro counted
    rcases Nat.eq_zero_or_pos (60000000000 / policy.evaluationInterval.nanos) with none | some
    · left
      rw [counted, none]
      rfl
    · right
      rw [counted, Nat.max_eq_right some]
      exact Nat.div_mul_le_self _ _
  · rintro (one | fits)
    · rw [one] at atMost ⊢
      exact Nat.le_antisymm (Nat.le_max_left _ _) atMost
    · refine Nat.le_antisymm ?_ atMost
      exact Nat.le_trans ((Nat.le_div_iff_mul_le positive).mpr fits) (Nat.le_max_right _ _)

/-- All intervals of less than a millisecond are taken for a millisecond. -/
theorem evaluationsPerMinute_of_lt (short : policy.evaluationInterval.nanos < 1000000) :
    policy.evaluationsPerMinute.toNat = 60000 := by
  have none : policy.evaluationInterval.millis = 0 := Nat.div_eq_of_lt short
  rw [toNat_evaluationsPerMinute, none]
  rfl

theorem toNat_recoveryTicks_of_pos (positive : 0 < policy.evaluationInterval.nanos) :
    policy.recoveryTicks.toNat =
      max 1 (low64 (policy.recoveryPeriod.nanos / policy.evaluationInterval.nanos)) := by
  rw [toNat_recoveryTicks, Nat.max_eq_right positive]

/-- The ticks are counted exactly as long as their number fits into a word. -/
theorem recoveryTicks_eq_iff (positive : 0 < policy.evaluationInterval.nanos) :
    policy.recoveryTicks.toNat =
        max 1 (policy.recoveryPeriod.nanos / policy.evaluationInterval.nanos) ↔
      policy.recoveryPeriod.nanos / policy.evaluationInterval.nanos < 0x10000000000000000 := by
  constructor
  · intro counted
    have small := policy.recoveryTicks.toNat_lt
    rw [counted] at small
    exact Nat.lt_of_le_of_lt (Nat.le_max_right _ _) small
  · intro fits
    rw [toNat_recoveryTicks_of_pos positive, low64_eq_self fits]

/-- The ticks never last longer than a recovery period of at least one interval. -/
theorem recoveryTicks_mul_le
    (positive : 0 < policy.evaluationInterval.nanos)
    (long : policy.evaluationInterval.nanos ≤ policy.recoveryPeriod.nanos) :
    policy.recoveryTicks.toNat * policy.evaluationInterval.nanos ≤ policy.recoveryPeriod.nanos := by
  have one : 1 ≤ policy.recoveryPeriod.nanos / policy.evaluationInterval.nanos :=
    (Nat.one_le_div_iff positive).mpr long
  have fewer :
      policy.recoveryTicks.toNat ≤
        policy.recoveryPeriod.nanos / policy.evaluationInterval.nanos := by
    rw [toNat_recoveryTicks_of_pos positive]
    exact Nat.max_le.mpr ⟨one, Nat.mod_le _ _⟩
  exact (Nat.le_div_iff_mul_le positive).mp fewer

end Policy

namespace Gatekeeper

variable {policy : Policy} {keeper : Gatekeeper}

/-- The law of a new gatekeeper counts evaluations and ticks as the policy does. -/
theorem counts_of_create (created : create policy = .ok keeper) :
    keeper.difficulty.law.evaluationsPerMinute = policy.evaluationsPerMinute ∧
      keeper.difficulty.law.recoveryTicks = policy.recoveryTicks := by
  obtain ⟨law, lawful, rfl⟩ := exists_law_of_create created
  obtain ⟨-, -, evaluations, ticks, -⟩ := Difficulty.Law.create_eq_ok_iff.mp lawful
  exact ⟨evaluations, ticks⟩

/-- From its start on, the agenda of a new gatekeeper evaluates once for every whole interval. -/
theorem count_evaluations
    (valid : policy.validate = .ok ())
    (created : create policy = .ok keeper)
    {timer : Timer}
    {started : Nat}
    (fires : timer.Fires policy.evaluationInterval started)
    (millis : Nat) :
    (((keeper.start timer started).2.tasks.advance (started + millis)).1.map
        Agenda.Run.job).count .evaluation =
      millis * nanosPerMilli / policy.evaluationInterval.nanos := by
  obtain ⟨law, -, rfl⟩ := exists_law_of_create created
  have owed : (background timer policy started).owed (started + millis) .evaluation = _ :=
    owed_background valid fires (started + millis)
  rw [Nat.add_sub_cancel_left] at owed
  exact ((Agenda.serves_advance _ _).1 _).trans owed

end Gatekeeper

/--
For a validated policy: the evaluations in a minute are counted exactly if the interval has whole
milliseconds, and otherwise exactly if so many of them fit into a minute; the recovery ticks are
counted exactly if their number fits into a word, and they never last longer than the recovery
period.  A gatekeeper works with these counts, while the runs of its agenda evaluate it once for
every whole interval from its start on, where the timer fires at the multiples of the interval.
-/
theorem Gatekeeper.counts_follow_the_interval
    {policy : Policy}
    (valid : policy.validate = .ok ()) :
    let interval := policy.evaluationInterval.nanos
    let recovery := policy.recoveryPeriod.nanos
    let evaluations := policy.evaluationsPerMinute.toNat
    let ticks := policy.recoveryTicks.toNat
    (1000000 ∣ interval → evaluations = max 1 (60000000000 / interval)) ∧
    (1000000 ≤ interval →
      max 1 (60000000000 / interval) ≤ evaluations ∧
        (evaluations = max 1 (60000000000 / interval) ↔
          evaluations = 1 ∨ evaluations * interval ≤ 60000000000)) ∧
    (interval < 1000000 → evaluations = 60000) ∧
    (ticks = max 1 (recovery / interval) ↔ recovery / interval < 0x10000000000000000) ∧
    (interval ≤ recovery → ticks * interval ≤ recovery) ∧
    ∀ keeper, create policy = .ok keeper →
      keeper.difficulty.law.evaluationsPerMinute.toNat = evaluations ∧
      keeper.difficulty.law.recoveryTicks.toNat = ticks ∧
      ∀ (timer : Timer) (started millis : Nat) (reading : Nat → Int),
        let running := (keeper.start timer started).2
        let attended := running.attend reading (started + millis)
        let runs := (running.tasks.advance (started + millis)).1
        attended.1.filterMap Event.chore? = runs.map Agenda.Run.job ∧
        attended.2 = { runs.foldl (carryOut reading) running with tasks := attended.2.tasks } ∧
        (timer.Fires policy.evaluationInterval started →
          (runs.map Agenda.Run.job).count .evaluation = millis * nanosPerMilli / interval) := by
  intro interval recovery evaluations ticks
  obtain ⟨-, -, positive, -⟩ := Policy.validate_eq_ok_iff.mp valid
  refine ⟨Policy.evaluationsPerMinute_of_dvd positive, fun long => ?_,
    Policy.evaluationsPerMinute_of_lt, Policy.recoveryTicks_eq_iff positive,
    Policy.recoveryTicks_mul_le positive, fun keeper created => ?_⟩
  · exact ⟨Policy.exact_le_evaluationsPerMinute long, Policy.evaluationsPerMinute_eq_iff long⟩
  · obtain ⟨sameEvaluations, sameTicks⟩ := counts_of_create created
    refine ⟨congrArg UInt64.toNat sameEvaluations, congrArg UInt64.toNat sameTicks, ?_⟩
    intro timer started millis reading running attended runs
    refine ⟨chores_attend reading _ running, ?_, fun fires => ?_⟩
    · exact (attend_eq reading _ running).trans (by rw [tasks_attend])
    · exact count_evaluations valid created fires millis

/-- A policy that is evaluated every two and a half seconds and recovers in ten. -/
def briskPolicy : Policy where
  evaluationInterval := .ofMillis 2500
  recoveryPeriod := .ofSeconds 10

/-- Twenty-four evaluations are counted in a minute, and so many are run in one. -/
theorem Gatekeeper.briskPolicy_counts :
    briskPolicy.evaluationsPerMinute.toNat = 24 ∧ briskPolicy.recoveryTicks.toNat = 4 ∧
      ∃ keeper,
        create briskPolicy = .ok keeper ∧
          (((keeper.start .exact 7).2.tasks.advance (7 + 60000)).1.map
              Agenda.Run.job).count .evaluation =
            24 := by
  have valid : briskPolicy.validate = .ok () := rfl
  obtain ⟨keeper, created⟩ : ∃ keeper, create briskPolicy = .ok keeper := ⟨_, rfl⟩
  obtain ⟨evaluations, -, -, ticks, -, keeps⟩ := counts_follow_the_interval valid
  obtain ⟨-, -, runs⟩ := keeps keeper created
  obtain ⟨-, -, counted⟩ := runs .exact 7 60000 fun _ => 0
  refine ⟨?_, ?_, keeper, created, ?_⟩
  · exact (evaluations (by decide +kernel)).trans (by decide +kernel)
  · exact (ticks.mpr (by decide +kernel)).trans (by decide +kernel)
  · exact (counted (Timer.fires_exact _ 7)).trans (by decide +kernel)

/-- A policy that is evaluated every one and a half milliseconds. -/
def fractionPolicy : Policy where
  evaluationInterval := .ofParts 0 ⟨1500000, by decide⟩

/-- A policy that is evaluated every other nanosecond and recovers in `2 ^ 64` ticks. -/
def restlessPolicy : Policy where
  evaluationInterval := .ofParts 0 ⟨2, by decide⟩
  recoveryPeriod := .ofParts 36893488147 ⟨419103232, by decide⟩

/--
Forty thousand evaluations fit into a minute, but sixty thousand are counted; and of one tick more
than a word can hold, a single one is counted.
-/
theorem Gatekeeper.counts_miss_the_interval :
    (fractionPolicy.validate = .ok () ∧
        60000000000 / fractionPolicy.evaluationInterval.nanos = 40000 ∧
          fractionPolicy.evaluationsPerMinute.toNat = 60000) ∧
      restlessPolicy.validate = .ok () ∧
        restlessPolicy.recoveryPeriod.nanos / restlessPolicy.evaluationInterval.nanos =
            0x10000000000000000 ∧
          restlessPolicy.recoveryTicks.toNat = 1 := by
  refine ⟨⟨rfl, ?_, ?_⟩, rfl, ?_, ?_⟩
  · decide +kernel
  · decide +kernel
  · decide +kernel
  · decide +kernel

end WorkGate
