import WorkGate.Difficulty

/-!
# The parameters that make a law

The laws are exactly what `Difficulty.Law.create` returns: every law is returned for its own
parameters, and a law that is returned has the parameters it was asked for.
-/

namespace WorkGate.Difficulty.Law

theorem create_eq_ok_iff
    {initial : HashValue}
    {desired evaluationsPerMinute recoveryTicks : UInt64}
    {window : Int}
    {law : Law} :
    create initial desired evaluationsPerMinute recoveryTicks window = .ok law ↔
      law.initial = initial ∧ law.desired = desired ∧
        law.evaluationsPerMinute = evaluationsPerMinute ∧
          law.recoveryTicks = recoveryTicks ∧ law.window = window := by
  constructor
  · intro created
    simp only [create] at created
    split at created
    · split at created
      · split at created
        · cases created
          exact ⟨rfl, rfl, rfl, rfl, rfl⟩
        · cases created
      · cases created
    · cases created
  · rintro ⟨rfl, rfl, rfl, rfl, rfl⟩
    simp [create, law.initial_pos, law.desired_pos, law.evaluations_pos, law.ticks_pos,
      law.window_pos]

/-- The law of a policy starts at the highest ceiling of the policy. -/
theorem initial_ofPolicy
    {policy : Policy}
    {law : Law}
    (lawful : ofPolicy policy = .ok law) :
    law.initial = policy.initialCeiling :=
  (create_eq_ok_iff.mp lawful).1

/-- The law of a policy wants the rate of the policy. -/
theorem desired_ofPolicy
    {policy : Policy}
    {law : Law}
    (lawful : ofPolicy policy = .ok law) :
    law.desired = policy.desiredRate :=
  (create_eq_ok_iff.mp lawful).2.1

/-- The law of a policy counts solves over the window of the policy. -/
theorem window_ofPolicy
    {policy : Policy}
    {law : Law}
    (lawful : ofPolicy policy = .ok law) :
    law.window = policy.windowMillis :=
  (create_eq_ok_iff.mp lawful).2.2.2.2

end WorkGate.Difficulty.Law
