import WorkGate.Proofs.Lifecycle.Challenges

/-!
# Sweeping is invisible

A sweep drops the challenges that have expired, and an expired challenge can neither be validated
nor redeemed.  So sweeps may be left out and put in anywhere without a client being told anything
else, as long as the clock does not go back: what a sweep has dropped could never have been used
again.

Two collections agree from a moment on if they hold the same challenges among those that have not
expired by then.  Clients are told the same by both, and a sweep of one of them keeps them in
agreement.  The replies to clients are therefore those of the same calls without any sweep.
-/

namespace WorkGate.OpenChallenges

namespace Call

/-- The clock reading a call is made at. -/
def now : Call → Int
  | issue now => now
  | validate _ now => now
  | redeem _ now _ => now
  | sweep now => now

def isSweep : Call → Bool
  | sweep _ => true
  | _ => false

end Call

/-- The clock does not go back from one call to another. -/
def InOrder (calls : List Call) : Prop :=
  calls.Pairwise fun earlier later => earlier.now ≤ later.now

/-- The calls that clients bring about. -/
def withoutSweeps (calls : List Call) : List Call :=
  calls.filter fun call => !call.isSweep

/-- A redemption comes to ask its test about a challenge: if the test refuses it, that decides. -/
def Consults
    (nonce : String)
    (now : Int)
    (challenge : Challenge)
    (challenges : OpenChallenges) :
    Prop :=
  ∀ refusal,
    challenges.redeem nonce now
        (fun asked => if asked = challenge then .error refusal else .ok ()) =
      .error refusal

/-! ## What one sweep keeps -/

variable {challenges left right : OpenChallenges} {nonce : String} {issuedAt moment now : Int}

/-- What is found after a sweep is what was valid before it. -/
theorem find?_sweep_eq_some_iff {challenge : Challenge} :
    (challenges.sweep now).2.find? nonce = some challenge ↔
      challenges.validate nonce now = .ok challenge := by
  have kept_iff :
      (challenges.sweep now).2.find? nonce = some challenge ↔
        ∃ issuedAt,
          (challenges.issued.get? nonce = some issuedAt ∧
              now - issuedAt ≤ challenges.lifetime) ∧
            ({ nonce, issuedAt } : Challenge) = challenge := by
    simp only [find?, Option.map_eq_some_iff, get?_sweep_eq_some_iff]
  rw [kept_iff]
  by_cases fresh : challenges.IsFresh nonce now
  · obtain ⟨issuedAt, found, young⟩ := fresh
    rw [validate_eq_ok found young, Except.ok.injEq]
    constructor
    · rintro ⟨other, ⟨foundOther, -⟩, rfl⟩
      rw [Option.some.inj (found.symm.trans foundOther)]
    · rintro rfl
      exact ⟨issuedAt, ⟨found, young⟩, rfl⟩
  · rw [validate_of_not_isFresh fresh]
    constructor
    · rintro ⟨issuedAt, kept, -⟩
      exact absurd ⟨issuedAt, kept⟩ fresh
    · intro impossible
      cases impossible

/-- A redemption asks its test about the challenge that is valid, and about no other. -/
theorem consults_iff {challenge : Challenge} :
    challenges.Consults nonce now challenge ↔ challenges.validate nonce now = .ok challenge := by
  cases valid : challenges.validate nonce now with
  | error refusal =>
      simp only [Consults, redeem, valid, Except.error.injEq, reduceCtorEq, iff_false, not_forall]
      -- Some refusal differs from the one that stands without a test.
      by_cases same : refusal = .staleChallenge
      · exact ⟨.reusedResponse, by simp [same]⟩
      · exact ⟨.staleChallenge, same⟩
  | ok found =>
      have decided (refusal : WorkError) :
          challenges.redeem nonce now
                (fun asked => if asked = challenge then .error refusal else .ok ()) =
              .error refusal ↔
            found = challenge := by
        by_cases same : found = challenge
        · simp [redeem, valid, same]
        · simp [redeem, valid, same]
      rw [Except.ok.injEq]
      exact ⟨fun consults => (decided .staleChallenge).mp (consults _), fun same refusal =>
        (decided refusal).mpr same⟩

/-! ## Agreement from a moment on -/

/-- Both collections hold the same challenges among those that are fresh at a moment. -/
structure AgreeFrom (moment : Int) (left right : OpenChallenges) : Prop where
  lifetime_eq : left.lifetime = right.lifetime
  fresh_iff (nonce : String) (issuedAt : Int) :
    moment - issuedAt ≤ left.lifetime →
      (left.issued.get? nonce = some issuedAt ↔ right.issued.get? nonce = some issuedAt)

namespace AgreeFrom

theorem refl (moment : Int) (challenges : OpenChallenges) :
    AgreeFrom moment challenges challenges :=
  ⟨rfl, fun _ _ _ => Iff.rfl⟩

theorem later (agree : AgreeFrom moment left right) (passed : moment ≤ now) :
    AgreeFrom now left right where
  lifetime_eq := agree.lifetime_eq
  fresh_iff nonce issuedAt young := agree.fresh_iff nonce issuedAt (by omega)

/-- A sweep of one side drops nothing that the other could still use. -/
theorem sweep_left (agree : AgreeFrom moment left right) :
    AgreeFrom moment (left.sweep moment).2 right where
  lifetime_eq := agree.lifetime_eq
  fresh_iff nonce issuedAt young := by
    have youngLeft : moment - issuedAt ≤ left.lifetime := young
    rw [get?_sweep_eq_some_iff, and_iff_left youngLeft]
    exact agree.fresh_iff nonce issuedAt youngLeft

theorem insert (agree : AgreeFrom moment left right) (challenge : Challenge) :
    AgreeFrom moment (left.insert challenge) (right.insert challenge) where
  lifetime_eq := agree.lifetime_eq
  fresh_iff nonce issuedAt young := by
    simp only [OpenChallenges.insert, Table.get?_insert_eq_some_iff]
    rw [agree.fresh_iff nonce issuedAt young]

theorem erase (agree : AgreeFrom moment left right) (nonce : String) :
    AgreeFrom moment
      { left with issued := left.issued.erase nonce }
      { right with issued := right.issued.erase nonce } where
  lifetime_eq := agree.lifetime_eq
  fresh_iff other issuedAt young := by
    simp only [Table.get?_erase_eq_some_iff]
    rw [agree.fresh_iff other issuedAt young]

theorem isFresh_iff (agree : AgreeFrom moment left right) (nonce : String) :
    left.IsFresh nonce moment ↔ right.IsFresh nonce moment := by
  simp only [IsFresh, ← agree.lifetime_eq]
  constructor
  · rintro ⟨issuedAt, found, young⟩
    exact ⟨issuedAt, (agree.fresh_iff nonce issuedAt young).mp found, young⟩
  · rintro ⟨issuedAt, found, young⟩
    exact ⟨issuedAt, (agree.fresh_iff nonce issuedAt young).mpr found, young⟩

theorem validate_eq (agree : AgreeFrom moment left right) (nonce : String) :
    left.validate nonce moment = right.validate nonce moment := by
  by_cases fresh : left.IsFresh nonce moment
  · obtain ⟨issuedAt, found, young⟩ := fresh
    have foundRight := (agree.fresh_iff nonce issuedAt young).mp found
    rw [validate_eq_ok found young, validate_eq_ok foundRight (agree.lifetime_eq ▸ young)]
  · have staleRight : ¬ right.IsFresh nonce moment := mt (agree.isFresh_iff nonce).mpr fresh
    rw [validate_of_not_isFresh fresh, validate_of_not_isFresh staleRight]

end AgreeFrom

/-! ## Runs -/

section

variable {Source : Type} [RandomSource Source]
variable {entry : Entry Source} {history : List (Entry Source)}

/-- A client's call gets the same reply from both sides and keeps them in agreement. -/
theorem AgreeFrom.answer
    {left right : Stocked Source}
    {call : Call}
    (agree : AgreeFrom call.now left.1 right.1)
    (sameSource : left.2 = right.2)
    (byClient : call.isSweep = false) :
    (OpenChallenges.answer left call).1 = (OpenChallenges.answer right call).1 ∧
      AgreeFrom call.now (OpenChallenges.answer left call).2.1
          (OpenChallenges.answer right call).2.1 ∧
        (OpenChallenges.answer left call).2.2 = (OpenChallenges.answer right call).2.2 := by
  cases call with
  | issue now =>
      simp only [OpenChallenges.answer, issue, sameSource, true_and, and_true]
      exact agree.insert _
  | validate nonce now =>
      have same : left.1.validate nonce now = right.1.validate nonce now := agree.validate_eq nonce
      simp only [OpenChallenges.answer, same, true_and]
      exact ⟨agree, sameSource⟩
  | redeem nonce now test =>
      have same : left.1.validate nonce now = right.1.validate nonce now := agree.validate_eq nonce
      simp only [OpenChallenges.answer, redeem, same]
      cases right.1.validate nonce now with
      | error refusal => exact ⟨rfl, agree, sameSource⟩
      | ok challenge =>
          cases tested : test challenge with
          | error refusal =>
              simp only [tested, true_and]
              exact ⟨agree, sameSource⟩
          | ok _ =>
              simp only [tested, true_and]
              exact ⟨agree.erase nonce, sameSource⟩
  | sweep now => cases byClient

/-- What the clients were told, the earliest reply first. -/
def repliesToClients (history : List (Entry Source)) : List Reply :=
  (history.filter fun entry => !entry.call.isSweep).map Trace.Entry.reply

omit [RandomSource Source] in
theorem repliesToClients_cons_of_client (byClient : entry.call.isSweep = false) :
    repliesToClients (entry :: history) = entry.reply :: repliesToClients history := by
  simp [repliesToClients, byClient]

omit [RandomSource Source] in
theorem repliesToClients_cons_of_sweep (sweeps : entry.call.isSweep = true) :
    repliesToClients (entry :: history) = repliesToClients history := by
  simp [repliesToClients, sweeps]

/-- Leaving out every sweep changes no reply to a client, also on a collection that only agrees. -/
theorem AgreeFrom.repliesToClients_withoutSweeps
    {left right : Stocked Source}
    (agree : AgreeFrom moment left.1 right.1)
    (sameSource : left.2 = right.2)
    {calls : List Call}
    (inOrder : InOrder calls)
    (notBefore : ∀ call ∈ calls, moment ≤ call.now) :
    repliesToClients (Trace.history OpenChallenges.answer left calls) =
      repliesToClients (Trace.history OpenChallenges.answer right (withoutSweeps calls)) := by
  induction calls generalizing moment left right with
  | nil => rfl
  | cons call rest induction =>
      obtain ⟨restNotBefore, restInOrder⟩ := List.pairwise_cons.mp inOrder
      have agreeNow := agree.later (notBefore call List.mem_cons_self)
      cases byClient : call.isSweep with
      | false =>
          obtain ⟨sameReply, agreeAfter, sameSourceAfter⟩ :=
            agreeNow.answer sameSource byClient
          have kept : withoutSweeps (call :: rest) = call :: withoutSweeps rest := by
            simp [withoutSweeps, byClient]
          rw [kept, Trace.history, Trace.history, repliesToClients_cons_of_client byClient,
            repliesToClients_cons_of_client byClient,
            induction agreeAfter sameSourceAfter restInOrder restNotBefore]
          exact congrArg (· :: _) sameReply
      | true =>
          have leftOut : withoutSweeps (call :: rest) = withoutSweeps rest := by
            simp [withoutSweeps, byClient]
          rw [leftOut, Trace.history, repliesToClients_cons_of_sweep byClient]
          cases call with
          | sweep now => exact induction agreeNow.sweep_left sameSource restInOrder restNotBefore
          | issue now => cases byClient
          | validate nonce now => cases byClient
          | redeem nonce now test => cases byClient

theorem repliesToClients_withoutSweeps
    (stocked : Stocked Source)
    {calls : List Call}
    (inOrder : InOrder calls) :
    repliesToClients (Trace.history answer stocked calls) =
      repliesToClients (Trace.history answer stocked (withoutSweeps calls)) := by
  cases calls with
  | nil => rfl
  | cons call rest =>
      apply (AgreeFrom.refl call.now stocked.1).repliesToClients_withoutSweeps rfl inOrder
      rw [List.forall_mem_cons]
      exact ⟨Int.le_refl _, (List.pairwise_cons.mp inOrder).1⟩

/--
Calls that differ in their sweeps alone get the same replies, from any collection.  What a sweep
keeps is what is valid at that moment, and what a redemption would ask its test about.
-/
theorem sweeping_is_invisible
    (stocked : Stocked Source)
    {calls others : List Call}
    (inOrder : InOrder calls)
    (othersInOrder : InOrder others)
    (sameCalls : withoutSweeps calls = withoutSweeps others) :
    repliesToClients (Trace.history answer stocked calls) =
        repliesToClients (Trace.history answer stocked others) ∧
      ∀ (challenges : OpenChallenges) (now : Int) (nonce : String) (challenge : Challenge),
        ((challenges.sweep now).2.find? nonce = some challenge ↔
            challenges.validate nonce now = .ok challenge) ∧
          ((challenges.sweep now).2.find? nonce = some challenge ↔
            challenges.Consults nonce now challenge) := by
  constructor
  · rw [repliesToClients_withoutSweeps stocked inOrder,
      repliesToClients_withoutSweeps stocked othersInOrder, sameCalls]
  · intro challenges now nonce challenge
    exact ⟨find?_sweep_eq_some_iff, find?_sweep_eq_some_iff.trans consults_iff.symm⟩

/-! ## A sweep on the last millisecond of a lifetime -/

/-- A source whose first two nonces are all zeros and all ones. -/
def sweepingSource : Entropy where
  queue := List.replicate 32 0x00 ++ List.replicate 32 0x11

def lastMomentChallenge : Challenge where
  nonce := String.ofList (List.replicate 64 '0')
  issuedAt := 0

/-- A challenge is redeemed as its lifetime ends; another one is asked for too late. -/
def unsweptCalls : List Call :=
  [.issue 0, .redeem lastMomentChallenge.nonce 300000 fun _ => .ok (), .issue 300000,
    .validate (String.ofList (List.replicate 64 '1')) 600001]

def sweptCalls : List Call :=
  [.issue 0, .sweep 300000, .redeem lastMomentChallenge.nonce 300000 fun _ => .ok (),
    .sweep 300000, .issue 300000, .sweep 600001,
    .validate (String.ofList (List.replicate 64 '1')) 600001]

theorem sweep_on_last_moment_is_invisible :
    InOrder sweptCalls ∧ InOrder unsweptCalls ∧
      withoutSweeps sweptCalls = withoutSweeps unsweptCalls ∧
        (repliesToClients
            (Trace.history answer ({ lifetime := 300000 }, sweepingSource) sweptCalls))[1]? =
          some (.redeemed (.ok lastMomentChallenge)) := by
  have sweptInOrder : InOrder sweptCalls := by simp [InOrder, sweptCalls, Call.now]
  have unsweptInOrder : InOrder unsweptCalls := by simp [InOrder, unsweptCalls, Call.now]
  have sameCalls : withoutSweeps sweptCalls = withoutSweeps unsweptCalls := rfl
  refine ⟨sweptInOrder, unsweptInOrder, sameCalls, ?_⟩
  rw [(sweeping_is_invisible ({ lifetime := 300000 }, sweepingSource) sweptInOrder unsweptInOrder
    sameCalls).1]
  rfl

end

end WorkGate.OpenChallenges
