import WorkGate.Proofs.Gatekeeper.Ledger

/-!
# The verdict on a submission, read off the history

A submission passes exactly if its response nonce is well formed, every earlier use of the response
nonce has been forgotten by a sweep, its challenge can be redeemed according to the history, and its
digest is within the ceiling of the last revision.  The first of these that fails is the refusal.

Sweeps are mentioned for the response nonce only.  A sweep also drops challenges, but while the
clock does not go back it drops none that could still be redeemed.
-/

namespace WorkGate.Gatekeeper

/-- Every use of the response nonce, in any spelling, was found out of date by a later sweep. -/
def Forgotten (lifetime : Int) (responseNonce : String) (history : List Entry) : Prop :=
  ∀ earlier entry later,
    history = earlier ++ entry :: later →
      entry.Spends (Nonce.fold responseNonce) →
        ∃ sweep ∈ later, sweep.Outdates lifetime entry.now

/-- The challenge was last issued within the lifetime and not redeemed since. -/
def Redeemable
    (lifetime now : Int)
    (challengeNonce : String)
    (history : List Entry) :
    Prop :=
  ∃ earlier entry later,
    history = earlier ++ entry :: later ∧
      entry.Issues challengeNonce ∧ now - entry.now ≤ lifetime ∧
        ∀ next ∈ later, ¬ next.Issues challengeNonce ∧ ¬ next.Redeems challengeNonce

namespace Ledger

variable {first : HashValue} {lifetime now : Int} {history : List Entry} {keeper : Gatekeeper}

theorem isSpent_eq_false_iff
    (ledger : Ledger first lifetime history keeper)
    (responseNonce : String) :
    keeper.spent.isSpent responseNonce = false ↔ Forgotten lifetime responseNonce history := by
  have absent_iff :
      keeper.spent.isSpent responseNonce = false ↔
        ∀ spentAt, ¬ SpentSince lifetime (Nonce.fold responseNonce) spentAt history := by
    simp only [SpentNonces.isSpent, Table.contains_eq_false_iff, ne_eq, ledger.spent_iff]
  rw [absent_iff]
  constructor
  · intro absent earlier entry later split spends
    by_contra kept
    have since : SpentSince lifetime (Nonce.fold responseNonce) entry.now history :=
      ⟨earlier, entry, later, split, ⟨spends, rfl⟩, fun next member outdates =>
        kept ⟨next, member, outdates⟩⟩
    exact absent entry.now since
  · rintro forgotten spentAt ⟨earlier, entry, later, split, ⟨spends, rfl⟩, kept⟩
    obtain ⟨sweep, member, outdates⟩ := forgotten earlier entry later split spends
    exact kept sweep member outdates

/-- While the clock does not go back, no sweep has dropped a challenge within its lifetime. -/
theorem isFresh_iff
    (ledger : Ledger first lifetime history keeper)
    (onTime : ∀ entry ∈ history, entry.now ≤ now)
    (challengeNonce : String) :
    keeper.challenges.IsFresh challengeNonce now ↔
      Redeemable lifetime now challengeNonce history := by
  simp only [OpenChallenges.IsFresh, ledger.issued_iff, ledger.lifetime_eq]
  constructor
  · rintro ⟨issuedAt, ⟨earlier, entry, later, split, ⟨issues, rfl⟩, kept⟩, young⟩
    exact ⟨earlier, entry, later, split, issues, young, fun next member =>
      ⟨(kept next member).1, (kept next member).2.1⟩⟩
  · rintro ⟨earlier, entry, later, split, issues, young, kept⟩
    refine ⟨entry.now, ⟨earlier, entry, later, split, ⟨issues, rfl⟩, ?_⟩, young⟩
    intro next member
    refine ⟨(kept next member).1, (kept next member).2, ?_⟩
    rintro ⟨-, late⟩
    have nextOnTime : next.now ≤ now := onTime next (by simp [split, member])
    omega

end Ledger

namespace Session

/-- The verdict on a submission is that of the first of four conditions on the history. -/
theorem verdict_iff
    {Source : Type} [RandomSource Source]
    {policy : Policy}
    {keeper : Gatekeeper}
    (created : create policy = .ok keeper)
    (reading : Int)
    (source : Source)
    (actions : List Action)
    (onTime : (Session.run { keeper, reading, source } actions).OnTime)
    (submission : Submission) :
    let session := Session.run { keeper, reading, source } actions
    let verdict := session.keeper.verify submission session.reading
    let formed := Nonce.WellFormed submission.responseNonce
    let forgotten := Forgotten policy.lifetimeMillis submission.responseNonce session.history
    let redeemable :=
      Redeemable policy.lifetimeMillis session.reading submission.challengeNonce session.history
    let meets := submission.Meets (ceilingAfter policy.initialCeiling session.history)
    ((∃ accepted, verdict = .ok accepted) ↔ formed ∧ forgotten ∧ redeemable ∧ meets) ∧
      (verdict = .error .malformedResponse ↔ ¬ formed) ∧
        (verdict = .error .reusedResponse ↔ formed ∧ ¬ forgotten) ∧
          (verdict = .error .staleChallenge ↔ formed ∧ forgotten ∧ ¬ redeemable) ∧
            (verdict = .error .insufficientWork ↔
              formed ∧ forgotten ∧ redeemable ∧ ¬ meets) := by
  intro session verdict formed forgotten redeemable meets
  have ledger := ledger_run_of_create created reading source actions
  have unspent : session.keeper.spent.isSpent submission.responseNonce = false ↔ forgotten :=
    ledger.isSpent_eq_false_iff submission.responseNonce
  have fresh :
      session.keeper.challenges.IsFresh submission.challengeNonce session.reading ↔ redeemable :=
    ledger.isFresh_iff onTime submission.challengeNonce
  have within : submission.Meets session.keeper.ceiling ↔ meets := by
    rw [ledger.ceiling_eq]
  have decided : verdict = _ := verify_eq submission session.reading session.keeper
  rw [decided, ← unspent, ← fresh, ← within]
  by_cases isFormed : Nonce.WellFormed submission.responseNonce
  · cases isSpent : session.keeper.spent.isSpent submission.responseNonce with
    | true => simp [formed, isFormed]
    | false =>
        by_cases isFresh :
            session.keeper.challenges.IsFresh submission.challengeNonce session.reading
        · by_cases isMet : submission.Meets session.keeper.ceiling
          · simp [formed, isFormed, isFresh, isMet]
          · simp [formed, isFormed, isFresh, isMet]
        · simp [formed, isFormed, isFresh]
  · simp [formed, isFormed]

/-- A policy whose first ceiling is met by every digest. -/
def openPolicy : Policy where
  initialCeiling := .leadingZeros 0

def openKeeper : Gatekeeper :=
  (create openPolicy).toOption.get (by rfl)

theorem create_openPolicy : create openPolicy = .ok openKeeper := by
  rfl

def zeros : Entropy where
  queue := List.replicate 32 0

def zeroSubmission : Submission where
  challengeNonce := String.ofList (List.replicate 64 '0')
  responseNonce := String.ofList (List.replicate 64 'a')
  bound := none

theorem wellFormed_zeroSubmission : Nonce.WellFormed zeroSubmission.responseNonce :=
  Nonce.wellFormed_replicate (by decide)

/-- At the end of its lifetime a challenge is still redeemed, also if a sweep has just passed. -/
theorem exists_accepted_at_lifetime :
    ∃ accepted,
      (Session.run { keeper := openKeeper, reading := 0, source := zeros }
          [.issue, .setClock 300000, .sweep]).keeper.verify zeroSubmission 300000 =
        .ok accepted := by
  let actions : List Action := [.issue, .setClock 300000, .sweep]
  let session := Session.run { keeper := openKeeper, reading := 0, source := zeros } actions
  have onTime : session.OnTime := by
    simp [session, actions, run, step, OnTime, note]
  have unspent : ∀ entry ∈ session.history, ∀ key, ¬ entry.Spends key := by
    simp [session, actions, run, step, note, Entry.Spends]
  have forgotten :
      Forgotten openPolicy.lifetimeMillis zeroSubmission.responseNonce session.history := by
    intro earlier entry later split spends
    exact absurd spends (unspent entry (by simp [split]) _)
  have redeemable :
      Redeemable openPolicy.lifetimeMillis session.reading zeroSubmission.challengeNonce
        session.history := by
    have issues : (Nonce.generate zeros).1 = zeroSubmission.challengeNonce := by decide +kernel
    have young : (300000 : Int) - 0 ≤ openPolicy.lifetimeMillis := by decide +kernel
    refine ⟨[], _, _, rfl, issues, young, ?_⟩
    intro next member
    rw [List.mem_singleton.mp member]
    exact ⟨id, id⟩
  have meets := zeroSubmission.meets_leadingZeros_zero
  exact (verdict_iff create_openPolicy 0 zeros actions onTime zeroSubmission).1.mpr
    ⟨wellFormed_zeroSubmission, forgotten, redeemable, meets⟩

end Session

end WorkGate.Gatekeeper
