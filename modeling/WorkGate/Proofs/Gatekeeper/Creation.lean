import WorkGate.Proofs.Gatekeeper.Verdict
import WorkGate.Proofs.Policy

/-!
# What becomes of a validated policy

Validation looks at durations as they are, while the window of the difficulty is a signed 64-bit
count of milliseconds.  The window of a validated policy may round down to no millisecond at all, or
lose its high bits and be left without a positive count; then there is no gatekeeper for the policy.
Nothing else can go wrong: evaluations and recovery ticks are counted as one at least, whatever the
durations.

The lifetime of a challenge is turned into milliseconds in the same way.  As long as it fits into a
signed word, a challenge is valid until it is older than its lifetime in exact time, whatever else
is done to the gatekeeper meanwhile.  A lifetime that does not fit may leave no time at all.
-/

namespace WorkGate

/-- A word is positive if its highest bit is zero and another one is not. -/
theorem low64Signed_pos_iff {value : Nat} :
    0 < low64Signed value ↔ 0 < low64 value ∧ low64 value < 0x8000000000000000 := by
  simp only [low64Signed, Int.bmod, low64]
  split <;> omega

namespace Policy

variable {policy : Policy}

/-- Of a validated policy the law can only find fault with the window. -/
theorem ofPolicy_of_validate (valid : policy.validate = .ok ()) :
    (0 < policy.windowMillis → ∃ law, Difficulty.Law.ofPolicy policy = .ok law) ∧
      (¬ 0 < policy.windowMillis →
        Difficulty.Law.ofPolicy policy = .error .nonpositiveTiming) := by
  obtain ⟨ceiling, rate, -⟩ := validate_eq_ok_iff.mp valid
  have evaluations := policy.evaluationsPerMinute_pos
  have ticks := policy.recoveryTicks_pos
  constructor
  · intro window
    simp [Difficulty.Law.ofPolicy, Difficulty.Law.create, ceiling, rate, evaluations, ticks,
      window]
  · intro window
    simp [Difficulty.Law.ofPolicy, Difficulty.Law.create, ceiling, rate, window]

/-- An age in milliseconds is within a lifetime that fits if it is so in exact time. -/
theorem le_lifetimeMillis_iff
    (fits : policy.challengeLifetime.millis < 0x8000000000000000)
    {age : Int} :
    age ≤ policy.lifetimeMillis ↔ age * nanosPerMilli ≤ policy.challengeLifetime.nanos := by
  have same : policy.lifetimeMillis = policy.challengeLifetime.millis :=
    low64Signed_eq_self (by omega) (by omega)
  rw [same]
  simp only [Duration.millis, nanosPerMilli]
  omega

end Policy

namespace Gatekeeper

/-- For a validated policy a gatekeeper is refused only if the window has no positive count. -/
theorem create_of_validate
    {policy : Policy}
    (valid : policy.validate = .ok ()) :
    (0 < policy.windowMillis → ∃ keeper, create policy = .ok keeper) ∧
      (¬ 0 < policy.windowMillis →
        create policy = .error PolicyFault.nonpositiveTiming.toWorkError) := by
  obtain ⟨lawful, unlawful⟩ := Policy.ofPolicy_of_validate valid
  constructor
  · intro window
    obtain ⟨law, found⟩ := lawful window
    simp [create, valid, Difficulty.ofPolicy, found, Except.map]
  · intro window
    simp [create, valid, Difficulty.ofPolicy, unlawful window, Except.map]

/-! ## A challenge that stands -/

/--
A challenge was issued at this time and has been neither issued again nor redeemed since, and no
sweep since has been ahead of the present clock reading.
-/
def StandsSince (nonce : String) (issuedAt now : Int) : List Entry → Prop :=
  Since
    (fun entry =>
      ¬ entry.Issues nonce ∧ ¬ entry.Redeems nonce ∧ (entry.Sweeps → entry.now ≤ now))
    (fun entry => entry.Issues nonce ∧ entry.now = issuedAt)

/-- A challenge that stands is valid as long as it is within its lifetime, and never again. -/
theorem Ledger.validate_of_standsSince
    {first : HashValue}
    {lifetime issuedAt now : Int}
    {nonce : String}
    {history : List Entry}
    {keeper : Gatekeeper}
    (ledger : Ledger first lifetime history keeper)
    (stands : StandsSince nonce issuedAt now history) :
    keeper.challenges.validate nonce now =
      if now - issuedAt ≤ lifetime then .ok { nonce, issuedAt } else .error .staleChallenge := by
  split
  · next young =>
      have opened : OpenSince lifetime nonce issuedAt history := by
        apply stands.imp
        rintro entry ⟨notIssued, notRedeemed, sweptByNow⟩
        refine ⟨notIssued, notRedeemed, fun ⟨sweeps, late⟩ => ?_⟩
        have swept := sweptByNow sweeps
        omega
      exact OpenChallenges.validate_eq_ok ((ledger.issued_iff nonce issuedAt).mpr opened)
        (by rwa [ledger.lifetime_eq])
  · next old =>
      apply OpenChallenges.validate_of_not_isFresh
      rintro ⟨openedAt, found, young⟩
      rw [ledger.lifetime_eq] at young
      -- A sweep may have dropped it; if it is open still, then since the same issue.
      have same : openedAt = issuedAt :=
        value_unique_of_since
          (((ledger.issued_iff nonce openedAt).mp found).imp fun _ kept => kept.1)
          (stands.imp fun _ kept => kept.1)
      exact old (same ▸ young)

namespace Session

variable {Source : Type} [RandomSource Source]

/--
For a validated policy a gatekeeper is created exactly if the window keeps a positive count of
milliseconds, and a challenge it issues is valid for the lifetime of the policy in exact time.
-/
theorem validated_policy_is_served
    {policy : Policy}
    (valid : policy.validate = .ok ()) :
    let window := low64 policy.solveWindow.millis
    ((0 < window ∧ window < 0x8000000000000000 → ∃ keeper, create policy = .ok keeper) ∧
        (¬ (0 < window ∧ window < 0x8000000000000000) →
          create policy = .error PolicyFault.nonpositiveTiming.toWorkError)) ∧
      (policy.challengeLifetime.millis < 0x8000000000000000 →
        ∀ keeper, create policy = .ok keeper →
          ∀ (reading : Int) (source : Source) (actions : List Action) (nonce : String)
            (issuedAt now : Int),
            let session := Session.run { keeper, reading, source } actions
            StandsSince nonce issuedAt now session.history →
              session.keeper.challenges.validate nonce now =
                if (now - issuedAt) * nanosPerMilli ≤ policy.challengeLifetime.nanos then
                  .ok { nonce, issuedAt }
                else .error .staleChallenge) := by
  constructor
  · rw [← low64Signed_pos_iff]
    exact create_of_validate valid
  · intro fits keeper created reading source actions nonce issuedAt now session stands
    have ledger := ledger_run_of_create created reading source actions
    rw [ledger.validate_of_standsSince stands]
    simp only [Policy.le_lifetimeMillis_iff fits]

/-- The open policy is served: a challenge is valid for 300 seconds, past a sweep at their end. -/
theorem open_policy_is_served :
    let challenges :=
      (Session.run { keeper := openKeeper, reading := 0, source := zeros }
        [.issue, .setClock 300000, .sweep]).keeper.challenges
    openPolicy.validate = .ok () ∧
      challenges.validate zeroSubmission.challengeNonce 300000 =
          .ok { nonce := zeroSubmission.challengeNonce, issuedAt := 0 } ∧
        challenges.validate zeroSubmission.challengeNonce 300001 = .error .staleChallenge := by
  intro challenges
  have valid : openPolicy.validate = .ok () := by rfl
  have fits : openPolicy.challengeLifetime.millis < 0x8000000000000000 := by decide +kernel
  have served :=
    (validated_policy_is_served valid).2 fits openKeeper create_openPolicy 0 zeros
      [.issue, .setClock 300000, .sweep] zeroSubmission.challengeNonce 0
  have stands (now : Int) (swept : 300000 ≤ now) :
      StandsSince zeroSubmission.challengeNonce 0 now
        (Session.run { keeper := openKeeper, reading := 0, source := zeros }
          [.issue, .setClock 300000, .sweep]).history := by
    have issues : (Nonce.generate zeros).1 = zeroSubmission.challengeNonce := by decide +kernel
    refine ⟨[], _, _, rfl, ⟨issues, rfl⟩, ?_⟩
    intro next member
    rw [List.mem_singleton.mp member]
    exact ⟨id, id, fun _ => swept⟩
  refine ⟨valid, ?_, ?_⟩
  · rw [served 300000 (stands 300000 (by decide)), if_pos (by decide +kernel)]
  · rw [served 300001 (stands 300001 (by decide)), if_neg (by decide +kernel)]

/-! ## Validated policies that are not served -/

/-- A policy that counts solves over a nanosecond. -/
def briefPolicy : Policy where
  solveWindow := .ofParts 0 ⟨1, by decide⟩
  initialCeiling := .leadingZeros 0

/-- A policy whose challenges are to live longer than a signed word of milliseconds can say. -/
def lastingPolicy : Policy where
  challengeLifetime := .ofSeconds 9223372036854776
  initialCeiling := .leadingZeros 0

/--
A window of a nanosecond is validated, but there is no gatekeeper for it; and a lifetime of some 292
million years is validated, but every challenge is stale when it is issued.
-/
theorem validated_policy_may_not_be_served :
    (briefPolicy.validate = .ok () ∧
        create briefPolicy = .error PolicyFault.nonpositiveTiming.toWorkError) ∧
      (lastingPolicy.validate = .ok () ∧
        ∃ keeper,
          create lastingPolicy = .ok keeper ∧
            (keeper.issue 0 zeros).2.1.challenges.validate (keeper.issue 0 zeros).1.challengeNonce
                0 =
              .error .staleChallenge) := by
  refine ⟨⟨rfl, rfl⟩, rfl, _, rfl, ?_⟩
  decide +kernel

end Session

end Gatekeeper

end WorkGate
