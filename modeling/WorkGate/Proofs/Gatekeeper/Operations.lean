import WorkGate.Gatekeeper
import WorkGate.Proofs.Table

/-!
# What each operation of the gatekeeper does

The gatekeeper remembers open challenges and spent response nonces in two tables.  This module
states what a sweep leaves in them, and brings the verification of a submission into a form in
which its four checks stand one after the other.  With these lemmas no later proof unfolds the
operations.
-/

namespace WorkGate

namespace OpenChallenges

variable {challenges : OpenChallenges} {nonce : String} {issuedAt now : Int}

/-- A sweep leaves the challenges within their lifetime. -/
theorem get?_sweep_eq_some_iff :
    (challenges.sweep now).2.issued.get? nonce = some issuedAt ↔
      challenges.issued.get? nonce = some issuedAt ∧ now - issuedAt ≤ challenges.lifetime := by
  simp [sweep, Table.get?_filter_eq_some_iff, Challenge.Expired]

/-- A challenge can be redeemed if it is open and within its lifetime. -/
def IsFresh (nonce : String) (now : Int) (challenges : OpenChallenges) : Prop :=
  ∃ issuedAt,
    challenges.issued.get? nonce = some issuedAt ∧ now - issuedAt ≤ challenges.lifetime

instance : Decidable (challenges.IsFresh nonce now) :=
  decidable_of_iff
    ((challenges.issued.get? nonce).any fun issuedAt => now - issuedAt ≤ challenges.lifetime)
    (by simp [IsFresh, Option.any_eq_true])

theorem validate_eq_ok
    (found : challenges.issued.get? nonce = some issuedAt)
    (young : now - issuedAt ≤ challenges.lifetime) :
    challenges.validate nonce now = .ok { nonce, issuedAt } := by
  have alive : ¬ challenges.lifetime < now - issuedAt := Int.not_lt.mpr young
  simp [validate, find?, found, Challenge.Expired, alive]

theorem validate_of_not_isFresh (stale : ¬ challenges.IsFresh nonce now) :
    challenges.validate nonce now = .error .staleChallenge := by
  cases found : challenges.issued.get? nonce with
  | none => simp [validate, find?, found]
  | some issuedAt =>
      have expired : challenges.lifetime < now - issuedAt :=
        Int.not_le.mp fun young => stale ⟨issuedAt, found, young⟩
      simp [validate, find?, found, Challenge.Expired, expired]

end OpenChallenges

namespace SpentNonces

variable {nonces : SpentNonces} {key : String} {spentAt now : Int}

/-- A sweep leaves the nonces within the retention time. -/
theorem get?_sweep_eq_some_iff :
    (nonces.sweep now).2.spent.get? key = some spentAt ↔
      nonces.spent.get? key = some spentAt ∧ now - spentAt ≤ nonces.retention := by
  simp [sweep, Table.get?_filter_eq_some_iff]

end SpentNonces

theorem Nonce.wellFormed_replicate {char : Char} (digit : Hex.IsDigit char) :
    WellFormed (String.ofList (List.replicate width char)) := by
  simp [WellFormed, digit]

namespace Submission

/--
The digest of both nonces and the bound data, read as a number with the most significant byte
first, is at most the ceiling.
-/
def Meets (ceiling : HashValue) (submission : Submission) : Prop :=
  Bytes.toNat
      (Sha256.hash
        (utf8 submission.challengeNonce ++ utf8 submission.responseNonce ++
          submission.bound.getD [])).toBytes ≤
    ceiling.toNat

instance (ceiling : HashValue) (submission : Submission) :
    Decidable (submission.Meets ceiling) :=
  inferInstanceAs (Decidable (_ ≤ _))

theorem meets_leadingZeros_zero (submission : Submission) :
    submission.Meets (.leadingZeros 0) := by
  let digest := Work.digest submission.challengeNonce submission.responseNonce submission.bound
  exact Nat.le_of_lt_succ (Work.score digest).toNat_lt

theorem work_eq (ceiling : HashValue) (submission : Submission) :
    submission.work ceiling =
      if submission.Meets ceiling then .ok () else .error .insufficientWork := by
  by_cases meets : submission.Meets ceiling
  · rw [if_pos meets]
    exact if_pos meets
  · rw [if_neg meets]
    exact if_neg meets

end Submission

namespace Gatekeeper

/-- A new gatekeeper follows the law of its policy and remembers nothing. -/
theorem exists_law_of_create
    {policy : Policy}
    {keeper : Gatekeeper}
    (created : create policy = .ok keeper) :
    ∃ law,
      Difficulty.Law.ofPolicy policy = .ok law ∧
        keeper =
          { policy
            difficulty := .start law
            challenges := { lifetime := policy.lifetimeMillis }
            spent := { retention := policy.lifetimeMillis }
            tasks := [] } := by
  simp only [create, Difficulty.ofPolicy] at created
  cases valid : policy.validate with
  | error fault => simp [valid] at created
  | ok _ =>
      cases lawful : Difficulty.Law.ofPolicy policy with
      | error fault => simp [valid, lawful, Except.map] at created
      | ok law =>
          simp only [valid, lawful, Except.map, Except.ok.injEq] at created
          exact ⟨law, rfl, created.symm⟩

/-- The gatekeeper after it has accepted a submission. -/
def accept (submission : Submission) (now : Int) (keeper : Gatekeeper) : Gatekeeper :=
  { keeper with
    challenges :=
      { keeper.challenges with
        issued := keeper.challenges.issued.erase submission.challengeNonce }
    spent := keeper.spent.insert submission.responseNonce now }

/-- The four checks of a submission, one after the other. -/
theorem verify_eq (submission : Submission) (now : Int) (keeper : Gatekeeper) :
    keeper.verify submission now =
      if ¬ Nonce.WellFormed submission.responseNonce then .error .malformedResponse
      else if keeper.spent.isSpent submission.responseNonce then .error .reusedResponse
      else if ¬ keeper.challenges.IsFresh submission.challengeNonce now then
        .error .staleChallenge
      else if ¬ submission.Meets keeper.ceiling then .error .insufficientWork
      else .ok (keeper.accept submission now) := by
  simp only [verify, SpentNonces.spendWith, SpentNonces.inspect, OpenChallenges.redeem]
  by_cases formed : Nonce.WellFormed submission.responseNonce
  · by_cases reused : keeper.spent.isSpent submission.responseNonce
    · simp [formed, reused]
    · by_cases fresh : keeper.challenges.IsFresh submission.challengeNonce now
      · obtain ⟨issuedAt, found, young⟩ := id fresh
        have valid := OpenChallenges.validate_eq_ok found young
        by_cases meets : submission.Meets keeper.ceiling
        · simp [formed, reused, fresh, meets, valid, Submission.work_eq, accept]
        · simp [formed, reused, fresh, meets, valid, Submission.work_eq]
      · have invalid := OpenChallenges.validate_of_not_isFresh fresh
        simp [formed, reused, fresh, invalid]
  · simp [formed]

/-- A submission passes if it passes every check, and then it is accepted. -/
theorem verify_eq_ok_iff
    {submission : Submission}
    {now : Int}
    {keeper accepted : Gatekeeper} :
    keeper.verify submission now = .ok accepted ↔
      Nonce.WellFormed submission.responseNonce ∧
        keeper.spent.isSpent submission.responseNonce = false ∧
          keeper.challenges.IsFresh submission.challengeNonce now ∧
            submission.Meets keeper.ceiling ∧ keeper.accept submission now = accepted := by
  rw [verify_eq]
  grind

/-- An evaluation reports the ceiling that it leaves in force. -/
theorem ceiling_evaluate (now : Int) (keeper : Gatekeeper) :
    (keeper.evaluate now).2.ceiling = (keeper.evaluate now).1.current := by
  simp only [evaluate, ceiling, Difficulty.evaluate]
  split
  · rfl
  · split <;> rfl

end Gatekeeper

end WorkGate
