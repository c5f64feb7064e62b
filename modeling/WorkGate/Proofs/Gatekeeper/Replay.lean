import WorkGate.Proofs.Gatekeeper.Verdict

/-!
# Forgetting a response nonce reopens nothing

A sweep forgets a response nonce once it is older than the lifetime of a challenge, and the same
sweep drops every challenge that is as old.  A response nonce that passes a second time therefore
answers a challenge issued after it had passed the first time, or at a later clock reading.

Nothing is assumed about the clock.  It may jump back and forth between any two operations.
-/

namespace WorkGate.Gatekeeper

/-- No nonce is issued twice. -/
def DistinctIssues (history : List Entry) : Prop :=
  ∀ nonce, history.Pairwise fun earlier later => earlier.Issues nonce → ¬ later.Issues nonce

theorem Entry.Outdates.of_le
    {entry : Entry}
    {lifetime earlier later : Int}
    (ordered : earlier ≤ later)
    (outdates : entry.Outdates lifetime later) :
    entry.Outdates lifetime earlier := by
  obtain ⟨sweeps, late⟩ := outdates
  exact ⟨sweeps, by omega⟩

namespace Session

variable {Source : Type} [RandomSource Source]

/-- Only a verification that passes leaves the entry of an accepted submission. -/
theorem verify_eq_ok_of_step
    {session : Session Source}
    {action : Action}
    {entry : Entry}
    {submission : Submission}
    (left : (session.step action).history = session.history ++ [entry])
    (verified : entry.deed = .verified submission (.ok ())) :
    ∃ accepted, session.keeper.verify submission session.reading = .ok accepted := by
  have sameDeed {deed : Deed} (noted : session.note deed = session.history ++ [entry]) :
      deed = .verified submission (.ok ()) := by
    rw [← verified, ← List.singleton_inj.mp (List.append_cancel_left noted)]
  cases action with
  | verify tried =>
      obtain ⟨rfl, passed⟩ := Deed.verified.inj (sameDeed left)
      cases verdict : session.keeper.verify tried session.reading with
      | ok accepted => exact ⟨accepted, rfl⟩
      | error refusal =>
          rw [verdict] at passed
          cases passed
  | setClock reading => simp [step] at left
  | issue => cases sameDeed left
  | sweep => cases sameDeed left
  | evaluate => cases sameDeed left
  | recordSolves count => cases sameDeed left

variable {policy : Policy} {keeper : Gatekeeper} {reading : Int} {source : Source}
variable {actions : List Action}

/-- Whatever the clock showed, an accepted submission was fresh and open when it was accepted. -/
theorem forgotten_and_open_of_accepted
    (created : create policy = .ok keeper)
    {earlier later : List Entry}
    {entry : Entry}
    {submission : Submission}
    (split :
      (Session.run { keeper, reading, source } actions).history = earlier ++ entry :: later)
    (verified : entry.deed = .verified submission (.ok ())) :
    Forgotten policy.lifetimeMillis submission.responseNonce earlier ∧
      ∃ issuedAt, OpenSince policy.lifetimeMillis submission.challengeNonce issuedAt earlier := by
  obtain ⟨before, action, -, -, found, -, left⟩ := exists_action_of_history_run rfl split
  have ledger := ledger_run_of_create created reading source before
  rw [← found] at left
  rw [found] at ledger
  obtain ⟨accepted, passed⟩ := verify_eq_ok_of_step left verified
  obtain ⟨-, unspent, ⟨issuedAt, issued, -⟩, -, -⟩ := verify_eq_ok_iff.mp passed
  exact ⟨(ledger.isSpent_eq_false_iff _).mp unspent, issuedAt, (ledger.issued_iff _ _).mp issued⟩

/-- A response nonce that is accepted again does not redeem a challenge of before. -/
theorem not_redeems_of_spends_again
    (created : create policy = .ok keeper)
    {before between after : List Entry}
    {first second issue : Entry}
    {key nonce : String}
    (split :
      (Session.run { keeper, reading, source } actions).history =
        before ++ first :: between ++ second :: after)
    (distinct : DistinctIssues (Session.run { keeper, reading, source } actions).history)
    (spends : first.Spends key)
    (spendsAgain : second.Spends key)
    (member : issue ∈ before)
    (issues : issue.Issues nonce)
    (ordered : issue.now ≤ first.now) :
    ¬ second.Redeems nonce := by
  intro redeems
  obtain ⟨submission, verified, sameKey⟩ := Entry.spends_iff.mp spendsAgain
  obtain ⟨same, verifiedSame, sameNonce⟩ := Entry.redeems_iff.mp redeems
  obtain ⟨rfl, -⟩ := Deed.verified.inj (verified.symm.trans verifiedSame)
  obtain ⟨forgotten, issuedAt, opened, reissue, kept, history, ⟨reissues, rfl⟩, untouched⟩ :=
    forgotten_and_open_of_accepted created split verified
  -- The sweep that forgot the response nonce would have dropped the challenge as well.
  rw [← sameKey] at spends
  obtain ⟨sweep, swept, outdates⟩ := forgotten before first between rfl spends
  obtain ⟨former, latter, rfl⟩ := List.append_of_mem member
  have unique := distinct nonce
  rw [split] at unique
  have uniqueBefore := (List.pairwise_append.mp unique).1
  rw [sameNonce] at reissues
  simp only [List.append_assoc, List.cons_append] at history uniqueBefore
  obtain ⟨-, rfl, rfl⟩ := split_unique uniqueBefore issues reissues history
  have dropped : sweep.Outdates policy.lifetimeMillis issue.now := outdates.of_le ordered
  have sweptLater : sweep ∈ latter ++ first :: between := by simp [swept]
  exact (untouched sweep sweptLater).2.2 dropped

def zerosAndOnes : Entropy where
  queue := List.replicate 32 0 ++ List.replicate 32 1

def laterSubmission : Submission where
  challengeNonce := Hex.encode (List.replicate 32 1)
  responseNonce := String.ofList (List.replicate 64 'A')
  bound := none

def opened : Session Entropy where
  keeper := openKeeper
  reading := 0
  source := zerosAndOnes

def asked : Session Entropy :=
  opened.step .issue

def answered : Session Entropy :=
  { asked with
    keeper := asked.keeper.accept zeroSubmission asked.reading
    history := asked.note (.verified zeroSubmission (.ok ())) }

def askedAgain : Session Entropy :=
  ((answered.step (.setClock 300001)).step .sweep).step .issue

theorem step_asked : asked.step (.verify zeroSubmission) = answered := by
  have meets := zeroSubmission.meets_leadingZeros_zero
  exact step_verify_of_eq_ok <| verify_eq_ok_iff.mpr
    ⟨wellFormed_zeroSubmission, by decide +kernel, by decide +kernel, meets, rfl⟩

theorem history_step_askedAgain :
    (askedAgain.step (.verify laterSubmission)).history =
      askedAgain.note (.verified laterSubmission (.ok ())) := by
  have meets := laterSubmission.meets_leadingZeros_zero
  have formed : Nonce.WellFormed laterSubmission.responseNonce :=
    Nonce.wellFormed_replicate (by decide)
  have passed :
      askedAgain.keeper.verify laterSubmission askedAgain.reading =
        .ok (askedAgain.keeper.accept laterSubmission askedAgain.reading) :=
    verify_eq_ok_iff.mpr
      ⟨formed, by decide +kernel, by decide +kernel, meets, rfl⟩
  rw [step_verify_of_eq_ok passed]

/-- The response nonce of `zeroSubmission` passes again, in upper case, for another challenge. -/
theorem spends_again_for_later_challenge :
    ∃ before first between second,
      (opened.run
          [.issue, .verify zeroSubmission, .setClock 300001, .sweep, .issue,
            .verify laterSubmission]).history =
        before ++ first :: between ++ second :: [] ∧
      first.Spends (Nonce.fold zeroSubmission.responseNonce) ∧
        second.Spends (Nonce.fold zeroSubmission.responseNonce) ∧
          ¬ second.Redeems zeroSubmission.challengeNonce := by
  let actions : List Action :=
    [.issue, .verify zeroSubmission, .setClock 300001, .sweep, .issue, .verify laterSubmission]
  have reached :
      (opened.run actions).history = askedAgain.note (.verified laterSubmission (.ok ())) := by
    rw [← history_step_askedAgain, askedAgain, ← step_asked, asked]
    simp only [actions, run_cons, run_nil]
  have listed : askedAgain.note (.verified laterSubmission (.ok ())) = [_, _, _, _, _] := rfl
  have split : (opened.run actions).history = [_] ++ _ :: [_, _] ++ _ :: [] :=
    reached.trans listed
  have distinct : DistinctIssues (opened.run actions).history := by
    have differ :
        (Nonce.generate zerosAndOnes).1 ≠
          (Nonce.generate (Nonce.generate zerosAndOnes).2).1 := by
      decide +kernel
    rw [reached.trans listed]
    intro nonce
    simp only [List.pairwise_cons, List.mem_cons, List.not_mem_nil, forall_eq_or_imp]
    refine ⟨⟨fun _ => id, fun _ => id, ?_, fun _ => id, by simp⟩, by simp [Entry.Issues]⟩
    rintro rfl same
    exact differ same.symm
  have sameSpelling :
      Nonce.fold laterSubmission.responseNonce = Nonce.fold zeroSubmission.responseNonce := by
    decide +kernel
  have issues : (Nonce.generate zerosAndOnes).1 = zeroSubmission.challengeNonce := by
    decide +kernel
  have ordered : (0 : Int) ≤ 0 := Int.le_refl 0
  refine ⟨_, _, _, _, split, rfl, sameSpelling, ?_⟩
  exact not_redeems_of_spends_again create_openPolicy split distinct rfl sameSpelling
    (List.mem_singleton_self _) issues ordered

end Session

end WorkGate.Gatekeeper
