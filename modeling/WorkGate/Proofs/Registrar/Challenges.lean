import WorkGate.Proofs.Registrar.Session

/-!
# Open challenges in a session

Whatever is done to a registrar, its open challenges are kept, or one is opened at this reading, or
one is closed because work on it was accepted, or the expired ones are swept.  This is
`ChallengeMove`, proved once for every action.  So a challenge that was issued stays open through
any traffic, as long as no work on it is accepted and its lifetime has not passed.
-/

namespace WorkGate.Registrar

namespace Entry

/-- The request whose work was accepted, whether or not its tenant was stored. -/
def accepted? (entry : Entry) : Option RegistrationRequest :=
  match entry.deed with
  | .registered request outcome => (admitted request.data outcome).map fun _ => request
  | .answered request response =>
      request.posted?.filter fun _ => response.status = 200 ∨ response.status = 500
  | _ => none

/-- An outcome that admits is answered with one of two statuses. -/
theorem outcomeStatus_of_admitted
    {data : RegistrationData}
    {outcome : Except RegistrationError Unit}
    (admits : (admitted data outcome).isSome) :
    Http.outcomeStatus outcome = 200 ∨ Http.outcomeStatus outcome = 500 := by
  cases outcome with
  | ok => exact Or.inl rfl
  | error refusal =>
      cases refusal with
      | store fault => exact Or.inr rfl
      | work cause => cases admits
      | outdatedTerms => cases admits
      | invalidRequest detail => cases admits
      | internal detail => cases admits

/-- Work on this challenge was accepted. -/
def Redeems (nonce : String) (entry : Entry) : Prop :=
  ∃ request, entry.accepted? = some request ∧ request.proof.challengeNonce = nonce

end Entry

/-- What can become of the open challenges while an entry is made. -/
inductive ChallengeMove (entry : Entry) (before : OpenChallenges) : OpenChallenges → Prop where
  | kept : ChallengeMove entry before before
  | opened (nonce : String) :
      ChallengeMove entry before (before.insert { nonce, issuedAt := entry.now })
  | redeemed {nonce : String} (redeems : entry.Redeems nonce) :
      ChallengeMove entry before { before with issued := before.issued.erase nonce }
  | swept : ChallengeMove entry before (before.sweep entry.now).2

/-- The challenge has been open since this reading, or was opened later. -/
def HeldSince (nonce : String) (since : Int) (challenges : OpenChallenges) : Prop :=
  ∃ issuedAt, challenges.issued.get? nonce = some issuedAt ∧ since ≤ issuedAt

namespace ChallengeMove

variable {entry : Entry} {before after : OpenChallenges} {nonce : String} {since : Int}

/-- A registration that is accepted closes its challenge, and any other closes none. -/
theorem of_registration
    {request : RegistrationRequest}
    {outcome : Except RegistrationError Unit}
    {registrar next : Registrar}
    (registration : Registration request entry.now registrar outcome next)
    (told : (admitted request.data outcome).isSome → entry.accepted? = some request) :
    ChallengeMove entry registrar.gatekeeper.challenges next.gatekeeper.challenges := by
  cases registration with
  | refused inadmissible client => exact .kept
  | unstored admissible fails => exact .redeemed ⟨request, told rfl, rfl⟩
  | enrolled admissible works => exact .redeemed ⟨request, told rfl, rfl⟩

theorem lifetime_eq (move : ChallengeMove entry before after) :
    after.lifetime = before.lifetime := by
  cases move with
  | kept => rfl
  | opened nonce => rfl
  | redeemed redeems => rfl
  | swept => rfl

/-- Within its lifetime a challenge stays open until work on it is accepted. -/
theorem heldSince
    (move : ChallengeMove entry before after)
    (held : HeldSince nonce since before)
    (later : since ≤ entry.now)
    (young : entry.now - since ≤ before.lifetime)
    (unredeemed : ¬ entry.Redeems nonce) :
    HeldSince nonce since after := by
  obtain ⟨issuedAt, found, notBefore⟩ := held
  cases move with
  | kept => exact ⟨issuedAt, found, notBefore⟩
  | opened other =>
      by_cases same : nonce = other
      · exact ⟨entry.now, Table.get?_insert_eq_some_iff.mpr (Or.inl ⟨same, rfl⟩), later⟩
      · exact ⟨issuedAt, Table.get?_insert_eq_some_iff.mpr (Or.inr ⟨same, found⟩), notBefore⟩
  | @redeemed other redeems =>
      have differs : nonce ≠ other := by
        rintro rfl
        exact unredeemed redeems
      exact ⟨issuedAt, Table.get?_erase_eq_some_iff.mpr ⟨differs, found⟩, notBefore⟩
  | swept =>
      have fresh : entry.now - issuedAt ≤ before.lifetime := by omega
      exact ⟨issuedAt, OpenChallenges.get?_sweep_eq_some_iff.mpr ⟨found, fresh⟩, notBefore⟩

end ChallengeMove

/-- Challenges live as long as the policy says. -/
theorem lifetime_of_create
    {policy : Policy}
    {terms : Option Terms}
    {store : TenantStore}
    {registrar : Registrar}
    (created : create policy terms store = .ok registrar) :
    registrar.gatekeeper.challenges.lifetime = policy.lifetimeMillis := by
  obtain ⟨gatekeeper, made, rfl⟩ := exists_gatekeeper_of_create created
  obtain ⟨law, -, new⟩ := Gatekeeper.exists_law_of_create made
  rw [new]

namespace Session

variable {Source : Type} [RandomSource Source] {session : Session Source}

theorem challengeMove_exchange (request : Http.Request) :
    ChallengeMove (session.entry (.exchange request)) session.registrar.gatekeeper.challenges
      (session.step (.exchange request)).registrar.gatekeeper.challenges := by
  simp only [entry, step, perform]
  cases posted : request.posted? with
  | some content =>
      obtain ⟨registered, -, status⟩ :=
        Http.answer_of_posted session.reading session.registrar session.source posted
      rw [registered]
      apply ChallengeMove.of_registration registration_register
      intro admits
      have told := Entry.outcomeStatus_of_admitted admits
      rw [← status] at told
      simp [Entry.accepted?, posted, told]
  | none =>
      by_cases asks : request.AsksChallenge
      · rw [(Http.answer_of_asksChallenge _ _ _ asks).1]
        exact .opened _
      · rw [(Http.answer_of_idle _ _ _ posted asks).1]
        exact .kept

theorem challengeMove_step (action : Action) :
    ChallengeMove (session.entry action) session.registrar.gatekeeper.challenges
      (session.step action).registrar.gatekeeper.challenges := by
  cases action with
  | exchange request => exact challengeMove_exchange request
  | issue => exact .opened _
  | register request =>
      apply ChallengeMove.of_registration registration_register
      intro admits
      obtain ⟨told, admits⟩ := Option.isSome_iff_exists.mp admits
      exact Option.map_eq_some_iff.mpr ⟨told, admits, rfl⟩
  | updateTerms terms => exact .kept
  | sweep => exact .swept
  | evaluate => exact .kept
  | setClock reading => exact .kept
  | outage reads writes => exact .kept

theorem lifetime_run (actions : List Action) :
    (session.run actions).registrar.gatekeeper.challenges.lifetime =
      session.registrar.gatekeeper.challenges.lifetime := by
  induction actions using List.reverseRecOn with
  | nil => rfl
  | append_singleton actions action induction =>
      rw [run_concat, (challengeMove_step action).lifetime_eq, induction]

/-- A challenge stays open through a run within its lifetime in which no work on it is accepted. -/
theorem heldSince_run
    {nonce : String}
    {since : Int}
    (held : HeldSince nonce since session.registrar.gatekeeper.challenges)
    {actions : List Action}
    (readings :
      ∀ entry ∈ session.history actions,
        since ≤ entry.now ∧
          entry.now - since ≤ session.registrar.gatekeeper.challenges.lifetime)
    (unredeemed : ∀ entry ∈ session.history actions, ¬ entry.Redeems nonce) :
    HeldSince nonce since (session.run actions).registrar.gatekeeper.challenges := by
  induction actions using List.reverseRecOn with
  | nil => exact held
  | append_singleton actions action induction =>
      rw [history_concat] at readings unredeemed
      have heldBefore :=
        induction (fun entry member => readings entry (List.mem_append_left _ member))
          fun entry member => unredeemed entry (List.mem_append_left _ member)
      have last : (session.run actions).entry action ∈
          session.history actions ++ [(session.run actions).entry action] := by simp
      obtain ⟨later, young⟩ := readings _ last
      rw [run_concat]
      apply (challengeMove_step action).heldSince heldBefore later _ (unredeemed _ last)
      rw [lifetime_run]
      exact young

end Session

end WorkGate.Registrar
