import WorkGate.Proofs.Registrar.Operations
import WorkGate.Proofs.TenantStore

/-!
# Why a request is refused, and what it does otherwise

A registration is a decision and an effect.  The decision is the first check that fails, if one
does; it looks at the terms, the response nonce, the challenge and the ceiling, and at nothing else
that the registrar knows.  A refused request has no effect, and any other settles: its work is
spent, its solve is counted, and its tenant is enrolled if the store works.
-/

namespace WorkGate

/-- The check that a submission fails first. -/
def Gatekeeper.refusal?
    (submission : Submission)
    (now : Int)
    (keeper : Gatekeeper) :
    Option WorkError :=
  if ¬ Nonce.WellFormed submission.responseNonce then some .malformedResponse
  else if keeper.spent.isSpent submission.responseNonce then some .reusedResponse
  else if ¬ keeper.challenges.IsFresh submission.challengeNonce now then some .staleChallenge
  else if ¬ submission.Meets keeper.ceiling then some .insufficientWork
  else none

theorem Gatekeeper.verify_eq_refusal?
    (submission : Submission)
    (now : Int)
    (keeper : Gatekeeper) :
    keeper.verify submission now =
      match keeper.refusal? submission now with
      | some refusal => .error refusal
      | none => .ok (keeper.accept submission now) := by
  rw [verify_eq, refusal?]
  grind

namespace Registrar

/-- The check that a request fails first. -/
def refusal?
    (request : RegistrationRequest)
    (now : Int)
    (registrar : Registrar) :
    Option RegistrationError :=
  match registrar.checkData request.data with
  | .error refusal => some refusal
  | .ok () => (registrar.gatekeeper.refusal? request.submission now).map .work

/-- What a request does that is not refused. -/
def settle
    (request : RegistrationRequest)
    (now : Int)
    (registrar : Registrar) :
    Except RegistrationError Unit × Registrar :=
  match registrar.store.writeFault with
  | some fault => (.error (.store fault), registrar.accept request now)
  | none => (.ok (), (registrar.accept request now).enroll request.data now)

theorem settle_of_writeFault_eq_none
    {request : RegistrationRequest}
    {now : Int}
    {registrar : Registrar}
    (works : registrar.store.writeFault = none) :
    registrar.settle request now =
      (.ok (), (registrar.accept request now).enroll request.data now) := by
  simp only [settle]
  split
  · next failing =>
      rw [works] at failing
      cases failing
  · rfl

theorem settle_of_writeFault_eq_some
    {request : RegistrationRequest}
    {now : Int}
    {registrar : Registrar}
    {fault : StoreFault}
    (fails : registrar.store.writeFault = some fault) :
    registrar.settle request now = (.error (.store fault), registrar.accept request now) := by
  simp only [settle, fails]

/-- A registration is refused by the first check that fails, and settles if there is none. -/
theorem register_eq
    (request : RegistrationRequest)
    (now : Int)
    (registrar : Registrar) :
    registrar.register request now =
      match registrar.refusal? request now with
      | some refusal => (.error refusal, registrar)
      | none => registrar.settle request now := by
  simp only [register, admission, refusal?, Gatekeeper.verify_eq_refusal?]
  cases registrar.checkData request.data with
  | error refusal => rfl
  | ok =>
      cases registrar.gatekeeper.refusal? request.submission now with
      | some refusal => rfl
      | none =>
          rw [Option.map_none]
          cases works : registrar.store.writeFault with
          | some fault =>
              rw [settle_of_writeFault_eq_some works]
              simp only [TenantStore.upsert, works]
              rfl
          | none =>
              rw [settle_of_writeFault_eq_none works]
              simp only [TenantStore.upsert_of_writeFault_eq_none works]
              rfl

/-! ## What the decision depends on -/

/-- The registrars look the same to a request. -/
structure AgreesOn (request : RegistrationRequest) (left right : Registrar) : Prop where
  terms_eq : left.terms = right.terms
  spent_eq :
    left.gatekeeper.spent.spent.get? (Nonce.fold request.proof.responseNonce) =
      right.gatekeeper.spent.spent.get? (Nonce.fold request.proof.responseNonce)
  lifetime_eq :
    left.gatekeeper.challenges.lifetime = right.gatekeeper.challenges.lifetime
  issued_eq :
    left.gatekeeper.challenges.issued.get? request.proof.challengeNonce =
      right.gatekeeper.challenges.issued.get? request.proof.challengeNonce
  ceiling_eq : left.gatekeeper.ceiling = right.gatekeeper.ceiling

/-- A request is decided in the same way by registrars that look the same to it. -/
theorem AgreesOn.refusal?_eq
    {request : RegistrationRequest}
    {left right : Registrar}
    (agrees : AgreesOn request left right)
    (now : Int) :
    left.refusal? request now = right.refusal? request now := by
  have checked : left.checkData request.data = right.checkData request.data := by
    simp only [checkData, termsHash?, agrees.terms_eq]
  have spent :
      left.gatekeeper.spent.isSpent request.submission.responseNonce =
        right.gatekeeper.spent.isSpent request.submission.responseNonce := by
    simp only [SpentNonces.isSpent, Table.contains, RegistrationRequest.submission,
      agrees.spent_eq]
  have fresh :
      left.gatekeeper.challenges.IsFresh request.submission.challengeNonce now ↔
        right.gatekeeper.challenges.IsFresh request.submission.challengeNonce now := by
    simp only [OpenChallenges.IsFresh, RegistrationRequest.submission, agrees.issued_eq,
      agrees.lifetime_eq]
  simp only [refusal?, Gatekeeper.refusal?, checked, spent, fresh, agrees.ceiling_eq]

end Registrar

end WorkGate
