import WorkGate.Proofs.Registrar.Refusal
import WorkGate.Proofs.Registrar.Session
import WorkGate.Proofs.TenantStore

/-!
# Registrars that cannot be told apart

Registrars are alike if their tables hold the same entries, their solves are the same up to order,
and everything else is equal.  Nothing that can be asked of a registrar depends on the order of
entries or solves: alike registrars answer every action in the same way and stay alike, so whole
histories agree.
-/

namespace WorkGate

/-! ## The difficulty -/

/-- The same law, ceiling and pending increment, and the same solves in some order. -/
structure Difficulty.Alike (left right : Difficulty) : Prop where
  law_eq : left.law = right.law
  ceiling_eq : left.ceiling = right.ceiling
  pending_eq : left.pending = right.pending
  solves_perm : left.solves.Perm right.solves

namespace Difficulty.Alike

variable {left middle right : Difficulty}

theorem refl (difficulty : Difficulty) : difficulty.Alike difficulty :=
  ⟨rfl, rfl, rfl, List.Perm.refl _⟩

theorem trans (first : left.Alike middle) (second : middle.Alike right) : left.Alike right where
  law_eq := first.law_eq.trans second.law_eq
  ceiling_eq := first.ceiling_eq.trans second.ceiling_eq
  pending_eq := first.pending_eq.trans second.pending_eq
  solves_perm := first.solves_perm.trans second.solves_perm

theorem record (alike : left.Alike right) (time : Int) (count : Nat) :
    (left.record time count).Alike (right.record time count) where
  law_eq := alike.law_eq
  ceiling_eq := alike.ceiling_eq
  pending_eq := alike.pending_eq
  solves_perm := alike.solves_perm.append_left _

theorem recent_perm (alike : left.Alike right) (now : Int) :
    (left.recent now).Perm (right.recent now) := by
  simp only [recent, alike.law_eq]
  exact alike.solves_perm.filter _

theorem tighten
    (alike : left.Alike right)
    {leftSolves rightSolves : List Int}
    (perm : leftSolves.Perm rightSolves)
    (current : HashValue) :
    (left.tighten current leftSolves).Alike (right.tighten current rightSolves) :=
  ⟨alike.law_eq, rfl, rfl, perm⟩

theorem loosen
    (alike : left.Alike right)
    {leftSolves rightSolves : List Int}
    (perm : leftSolves.Perm rightSolves)
    (current increment : HashValue) :
    (left.loosen current increment leftSolves).Alike
      (right.loosen current increment rightSolves) :=
  ⟨alike.law_eq, rfl, rfl, perm⟩

theorem retain
    (alike : left.Alike right)
    {leftSolves rightSolves : List Int}
    (perm : leftSolves.Perm rightSolves) :
    (left.retain leftSolves).Alike (right.retain rightSolves) :=
  ⟨alike.law_eq, alike.ceiling_eq, alike.pending_eq, perm⟩

/-- What an evaluation does depends on the number of solves it counts, and not on their order. -/
theorem revise
    (alike : left.Alike right)
    {leftSolves rightSolves : List Int}
    (perm : leftSolves.Perm rightSolves)
    (rate : Nat) :
    (left.revise rate leftSolves).1 = (right.revise rate rightSolves).1 ∧
      (left.revise rate leftSolves).2.Alike (right.revise rate rightSolves).2 := by
  have increment_eq : left.nextIncrement = right.nextIncrement := by
    simp only [nextIncrement, alike.law_eq, alike.ceiling_eq, alike.pending_eq]
  rcases Nat.lt_or_ge left.law.desired.toNat rate with fast | slow
  · rw [revise_of_fast fast, revise_of_fast (alike.law_eq ▸ fast), alike.law_eq, alike.ceiling_eq]
    exact ⟨rfl, alike.tighten perm _⟩
  · rcases Nat.lt_or_ge left.ceiling.toNat left.law.initial.toNat with below | top
    · rw [revise_of_below slow below,
        revise_of_below (alike.law_eq ▸ slow) (alike.law_eq ▸ alike.ceiling_eq ▸ below),
        alike.law_eq, alike.ceiling_eq, increment_eq]
      exact ⟨rfl, alike.loosen perm _ _⟩
    · rw [revise_of_top slow top,
        revise_of_top (alike.law_eq ▸ slow) (alike.law_eq ▸ alike.ceiling_eq ▸ top),
        alike.ceiling_eq]
      exact ⟨rfl, alike.retain perm⟩

theorem evaluate (alike : left.Alike right) (now : Int) :
    (left.evaluate now).1 = (right.evaluate now).1 ∧
      (left.evaluate now).2.Alike (right.evaluate now).2 := by
  have perm := alike.recent_perm now
  rw [evaluate_eq_revise, evaluate_eq_revise, perm.length_eq]
  exact alike.revise perm _

end Difficulty.Alike

/-! ## Challenges and response nonces -/

structure OpenChallenges.Alike (left right : OpenChallenges) : Prop where
  lifetime_eq : left.lifetime = right.lifetime
  issued : left.issued.Alike right.issued

namespace OpenChallenges.Alike

variable {left middle right : OpenChallenges}

theorem refl (challenges : OpenChallenges) : challenges.Alike challenges :=
  ⟨rfl, Table.Alike.refl _⟩

theorem trans (first : left.Alike middle) (second : middle.Alike right) : left.Alike right where
  lifetime_eq := first.lifetime_eq.trans second.lifetime_eq
  issued := first.issued.trans second.issued

theorem insert (alike : left.Alike right) (challenge : Challenge) :
    (left.insert challenge).Alike (right.insert challenge) where
  lifetime_eq := alike.lifetime_eq
  issued := alike.issued.insert _ _

theorem erase (alike : left.Alike right) (nonce : String) :
    OpenChallenges.Alike { left with issued := left.issued.erase nonce }
      { right with issued := right.issued.erase nonce } where
  lifetime_eq := alike.lifetime_eq
  issued := alike.issued.erase nonce

theorem sweep (alike : left.Alike right) (now : Int) :
    (left.sweep now).1 = (right.sweep now).1 ∧ (left.sweep now).2.Alike (right.sweep now).2 := by
  simp only [OpenChallenges.sweep, alike.lifetime_eq]
  have kept := alike.issued.filter fun nonce issuedAt =>
    ¬ ({ nonce, issuedAt } : Challenge).Expired right.lifetime now
  exact ⟨by rw [alike.issued.size_eq, kept.size_eq], rfl, kept⟩

end OpenChallenges.Alike

structure SpentNonces.Alike (left right : SpentNonces) : Prop where
  retention_eq : left.retention = right.retention
  spent : left.spent.Alike right.spent

namespace SpentNonces.Alike

variable {left middle right : SpentNonces}

theorem refl (nonces : SpentNonces) : nonces.Alike nonces :=
  ⟨rfl, Table.Alike.refl _⟩

theorem trans (first : left.Alike middle) (second : middle.Alike right) : left.Alike right where
  retention_eq := first.retention_eq.trans second.retention_eq
  spent := first.spent.trans second.spent

theorem insert (alike : left.Alike right) (nonce : String) (now : Int) :
    (left.insert nonce now).Alike (right.insert nonce now) where
  retention_eq := alike.retention_eq
  spent := alike.spent.insert _ _

theorem sweep (alike : left.Alike right) (now : Int) :
    (left.sweep now).1 = (right.sweep now).1 ∧ (left.sweep now).2.Alike (right.sweep now).2 := by
  simp only [SpentNonces.sweep, alike.retention_eq]
  have kept := alike.spent.filter fun _ spentAt => now - spentAt ≤ right.retention
  exact ⟨by rw [alike.spent.size_eq, kept.size_eq], rfl, kept⟩

end SpentNonces.Alike

/-! ## The gatekeeper -/

structure Gatekeeper.Alike (left right : Gatekeeper) : Prop where
  policy_eq : left.policy = right.policy
  difficulty : left.difficulty.Alike right.difficulty
  challenges : left.challenges.Alike right.challenges
  spent : left.spent.Alike right.spent
  tasks_eq : left.tasks = right.tasks

namespace Gatekeeper.Alike

variable {left middle right : Gatekeeper}

theorem refl (keeper : Gatekeeper) : keeper.Alike keeper :=
  ⟨rfl, .refl _, .refl _, .refl _, rfl⟩

theorem trans (first : left.Alike middle) (second : middle.Alike right) : left.Alike right where
  policy_eq := first.policy_eq.trans second.policy_eq
  difficulty := first.difficulty.trans second.difficulty
  challenges := first.challenges.trans second.challenges
  spent := first.spent.trans second.spent
  tasks_eq := first.tasks_eq.trans second.tasks_eq

theorem issue
    {Source : Type} [RandomSource Source]
    (alike : left.Alike right)
    (now : Int)
    (source : Source) :
    (left.issue now source).1 = (right.issue now source).1 ∧
      (left.issue now source).2.1.Alike (right.issue now source).2.1 ∧
        (left.issue now source).2.2 = (right.issue now source).2.2 := by
  refine ⟨?_, { alike with challenges := alike.challenges.insert _ }, rfl⟩
  simp only [Gatekeeper.issue, ceiling, alike.difficulty.ceiling_eq]
  rfl

theorem sweep (alike : left.Alike right) (now : Int) :
    (left.sweep now).1 = (right.sweep now).1 ∧ (left.sweep now).2.Alike (right.sweep now).2 := by
  obtain ⟨challengesDropped, challenges⟩ := alike.challenges.sweep now
  obtain ⟨noncesDropped, spent⟩ := alike.spent.sweep now
  refine ⟨?_, { alike with challenges, spent }⟩
  simp only [Gatekeeper.sweep, challengesDropped, noncesDropped]

theorem evaluate (alike : left.Alike right) (now : Int) :
    (left.evaluate now).1 = (right.evaluate now).1 ∧
      (left.evaluate now).2.Alike (right.evaluate now).2 := by
  obtain ⟨adjustment_eq, difficulty⟩ := alike.difficulty.evaluate now
  exact ⟨adjustment_eq, { alike with difficulty }⟩

end Gatekeeper.Alike

/-! ## The store -/

structure TenantStore.Alike (left right : TenantStore) : Prop where
  tenants : left.tenants.Alike right.tenants
  readFault_eq : left.readFault = right.readFault
  writeFault_eq : left.writeFault = right.writeFault

namespace TenantStore.Alike

variable {left middle right : TenantStore}

theorem refl (store : TenantStore) : store.Alike store :=
  ⟨Table.Alike.refl _, rfl, rfl⟩

theorem trans (first : left.Alike middle) (second : middle.Alike right) : left.Alike right where
  tenants := first.tenants.trans second.tenants
  readFault_eq := first.readFault_eq.trans second.readFault_eq
  writeFault_eq := first.writeFault_eq.trans second.writeFault_eq

theorem enroll (alike : left.Alike right) (data : RegistrationData) (now : Int) :
    TenantStore.Alike { left with tenants := left.tenants.enroll data now }
      { right with tenants := right.tenants.enroll data now } where
  tenants := TenantTable.alike_upsert alike.tenants _ _ _
  readFault_eq := alike.readFault_eq
  writeFault_eq := alike.writeFault_eq

theorem withOutage (alike : left.Alike right) (reads writes : Option StoreFault) :
    (left.withOutage reads writes).Alike (right.withOutage reads writes) where
  tenants := alike.tenants
  readFault_eq := rfl
  writeFault_eq := rfl

theorem get?_eq (alike : left.Alike right) (did : String) : left.get? did = right.get? did := by
  simp only [TenantStore.get?, alike.readFault_eq, alike.tenants.get?_eq]

end TenantStore.Alike

/-! ## The registrar -/

namespace Registrar

structure Alike (left right : Registrar) : Prop where
  gatekeeper : left.gatekeeper.Alike right.gatekeeper
  terms_eq : left.terms = right.terms
  store : left.store.Alike right.store

namespace Alike

variable {left middle right : Registrar} {request : RegistrationRequest} {now : Int}

theorem refl (registrar : Registrar) : registrar.Alike registrar :=
  ⟨.refl _, rfl, .refl _⟩

theorem trans (first : left.Alike middle) (second : middle.Alike right) : left.Alike right where
  gatekeeper := first.gatekeeper.trans second.gatekeeper
  terms_eq := first.terms_eq.trans second.terms_eq
  store := first.store.trans second.store

theorem agreesOn (alike : left.Alike right) (request : RegistrationRequest) :
    AgreesOn request left right where
  terms_eq := alike.terms_eq
  spent_eq := alike.gatekeeper.spent.spent.get?_eq _
  lifetime_eq := alike.gatekeeper.challenges.lifetime_eq
  issued_eq := alike.gatekeeper.challenges.issued.get?_eq _
  ceiling_eq := alike.gatekeeper.difficulty.ceiling_eq

theorem accept (alike : left.Alike right) (request : RegistrationRequest) (now : Int) :
    (left.accept request now).Alike (right.accept request now) where
  gatekeeper :=
    { alike.gatekeeper with
      challenges := alike.gatekeeper.challenges.erase _
      spent := alike.gatekeeper.spent.insert _ _
      difficulty := alike.gatekeeper.difficulty.record now 1 }
  terms_eq := alike.terms_eq
  store := alike.store

theorem enroll (alike : left.Alike right) (data : RegistrationData) (now : Int) :
    (left.enroll data now).Alike (right.enroll data now) where
  gatekeeper := alike.gatekeeper
  terms_eq := alike.terms_eq
  store := alike.store.enroll data now

theorem settle (alike : left.Alike right) (request : RegistrationRequest) (now : Int) :
    (left.settle request now).1 = (right.settle request now).1 ∧
      (left.settle request now).2.Alike (right.settle request now).2 := by
  simp only [Registrar.settle, alike.store.writeFault_eq]
  have accepted := alike.accept request now
  cases right.store.writeFault with
  | some fault => exact ⟨rfl, accepted⟩
  | none => exact ⟨rfl, accepted.enroll _ _⟩

theorem register (alike : left.Alike right) (request : RegistrationRequest) (now : Int) :
    (left.register request now).1 = (right.register request now).1 ∧
      (left.register request now).2.Alike (right.register request now).2 := by
  rw [register_eq, register_eq, (alike.agreesOn request).refusal?_eq now]
  cases right.refusal? request now with
  | some refusal => exact ⟨rfl, alike⟩
  | none => exact alike.settle request now

theorem status_eq (alike : left.Alike right) (did : String) :
    left.status did = right.status did := by
  simp only [status, standing, termsHash?, alike.store.get?_eq, alike.terms_eq]

end Alike

end Registrar

/-! ## Exchanges -/

/-- The same answer and the same report, and registrars that cannot be told apart. -/
structure Http.Exchange.Alike {Source : Type} (left right : Http.Exchange Source) : Prop where
  response_eq : left.response = right.response
  events_eq : left.events = right.events
  registrar : left.registrar.Alike right.registrar
  source_eq : left.source = right.source

section Exchange

variable {Source : Type} {left right : Registrar}

theorem Http.Exchange.Alike.withoutBody
    {left right : Http.Exchange Source}
    (alike : left.Alike right) :
    left.withoutBody.Alike right.withoutBody :=
  { alike with response_eq := congrArg Http.Response.withoutBody alike.response_eq }

theorem Registrar.Alike.decline
    (alike : left.Alike right)
    (response : Http.Response)
    (source : Source) :
    (Http.decline response left source).Alike (Http.decline response right source) :=
  ⟨rfl, rfl, alike, rfl⟩

theorem Registrar.Alike.reading
    (alike : left.Alike right)
    (request : Http.Request)
    (source : Source)
    {leftGet rightGet : Unit → Http.Exchange Source}
    (get : (leftGet ()).Alike (rightGet ())) :
    (Http.reading request left source leftGet).Alike
      (Http.reading request right source rightGet) := by
  simp only [Http.reading]
  split
  · exact get
  · split
    · exact get.withoutBody
    · exact alike.decline _ source

theorem Registrar.Alike.postRegistration
    (alike : left.Alike right)
    (request : Http.Request)
    (now : Int)
    (source : Source) :
    (Http.postRegistration request now left source).Alike
      (Http.postRegistration request now right source) := by
  simp only [Http.postRegistration]
  cases request.registration with
  | error fault => exact ⟨rfl, rfl, alike, rfl⟩
  | ok content =>
      simp only
      obtain ⟨outcome_eq, after⟩ := alike.register content now
      generalize left.register content now = leftResult at outcome_eq after
      generalize right.register content now = rightResult at outcome_eq after
      obtain ⟨outcome, leftAfter⟩ := leftResult
      obtain ⟨_, rightAfter⟩ := rightResult
      obtain rfl := outcome_eq
      cases outcome with
      | error refusal => exact ⟨rfl, rfl, after, rfl⟩
      | ok => exact ⟨rfl, rfl, after, rfl⟩

variable [RandomSource Source]

theorem Registrar.Alike.readChallenge
    (alike : left.Alike right)
    (now : Int)
    (source : Source) :
    (Http.readChallenge now left source).Alike (Http.readChallenge now right source) := by
  obtain ⟨ticket_eq, gatekeeper, source_eq⟩ := alike.gatekeeper.issue now source
  refine ⟨?_, ?_, { alike with gatekeeper }, source_eq⟩
  · exact congrArg (fun ticket => Http.Response.json 200 (Http.ticketJson ticket)) ticket_eq
  · exact congrArg (fun ticket => [Ticket.event ticket]) ticket_eq

/-- Registrars that cannot be told apart answer every request in the same way. -/
theorem Registrar.Alike.answer
    (alike : left.Alike right)
    (request : Http.Request)
    (now : Int)
    (source : Source) :
    (Http.answer request now left source).Alike (Http.answer request now right source) := by
  simp only [Http.answer]
  cases Http.Resource.ofPath? request.path with
  | none => exact alike.decline _ source
  | some resource =>
      cases resource with
      | challenge => exact alike.reading request source (alike.readChallenge now source)
      | terms =>
          apply alike.reading request source
          refine ⟨?_, rfl, alike, rfl⟩
          simp only [Http.readTerms, alike.terms_eq]
      | registration =>
          simp only
          split
          · exact alike.postRegistration request now source
          · exact alike.decline _ source

end Exchange

/-! ## Sessions -/

namespace Registrar.Session

variable {Source : Type}

/-- The same clock reading and random source, and registrars that cannot be told apart. -/
structure Alike (left right : Session Source) : Prop where
  registrar : left.registrar.Alike right.registrar
  reading_eq : left.reading = right.reading
  source_eq : left.source = right.source

namespace Alike

variable {left middle right : Session Source}

theorem refl (session : Session Source) : session.Alike session :=
  ⟨.refl _, rfl, rfl⟩

theorem trans (first : left.Alike middle) (second : middle.Alike right) : left.Alike right where
  registrar := first.registrar.trans second.registrar
  reading_eq := first.reading_eq.trans second.reading_eq
  source_eq := first.source_eq.trans second.source_eq

variable [RandomSource Source]

/-- Every action is answered in the same way and leaves the sessions alike. -/
theorem perform (alike : left.Alike right) (action : Action) :
    (left.perform action).1 = (right.perform action).1 ∧
      (left.perform action).2.Alike (right.perform action).2 := by
  obtain ⟨registrar, reading, source⟩ := left
  obtain ⟨other, _, _⟩ := right
  obtain ⟨registrars, rfl, rfl⟩ := alike
  cases action with
  | exchange request =>
      obtain ⟨response_eq, -, after, source_eq⟩ := registrars.answer request reading source
      exact ⟨congrArg (Deed.answered request) response_eq, after, rfl, source_eq⟩
  | issue =>
      obtain ⟨ticket_eq, gatekeeper, source_eq⟩ := registrars.gatekeeper.issue reading source
      exact ⟨congrArg Deed.issued ticket_eq, { registrars with gatekeeper }, rfl, source_eq⟩
  | register request =>
      obtain ⟨outcome_eq, after⟩ := registrars.register request reading
      exact ⟨congrArg (Deed.registered request) outcome_eq, after, rfl, rfl⟩
  | updateTerms terms => exact ⟨rfl, { registrars with terms_eq := rfl }, rfl, rfl⟩
  | sweep =>
      obtain ⟨swept_eq, gatekeeper⟩ := registrars.gatekeeper.sweep reading
      exact ⟨congrArg Deed.swept swept_eq, { registrars with gatekeeper }, rfl, rfl⟩
  | evaluate =>
      obtain ⟨adjustment_eq, gatekeeper⟩ := registrars.gatekeeper.evaluate reading
      exact ⟨congrArg Deed.evaluated adjustment_eq, { registrars with gatekeeper }, rfl, rfl⟩
  | setClock reading => exact ⟨rfl, registrars, rfl, rfl⟩
  | outage reads writes =>
      exact ⟨rfl, { registrars with store := registrars.store.withOutage reads writes }, rfl, rfl⟩

theorem entry_eq (alike : left.Alike right) (action : Action) :
    left.entry action = right.entry action := by
  simp only [entry, alike.reading_eq, (alike.perform action).1]

theorem step (alike : left.Alike right) (action : Action) :
    (left.step action).Alike (right.step action) :=
  (alike.perform action).2

theorem run (alike : left.Alike right) (actions : List Action) :
    (left.run actions).Alike (right.run actions) := by
  induction actions generalizing left right with
  | nil => exact alike
  | cons action rest induction => exact induction (alike.step action)

/-- Alike sessions leave the same history, whatever is done to them. -/
theorem history_eq (alike : left.Alike right) (actions : List Action) :
    left.history actions = right.history actions := by
  induction actions generalizing left right with
  | nil => rfl
  | cons action rest induction =>
      rw [history_cons, history_cons, alike.entry_eq, induction (alike.step action)]

end Alike

end Registrar.Session

end WorkGate
