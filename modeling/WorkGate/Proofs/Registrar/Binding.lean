import WorkGate.Proofs.Registration
import WorkGate.Proofs.Registrar.Session

/-!
# Work is bound to the request it was done for

The nonces and the canonical data of a request are hashed one after the other without separators.
Still the hashed bytes determine the request: every challenge that is open has a nonce of fixed
width, so has every response nonce that is not refused for its form, and the canonical data spell
out the tenant and the hash of the terms.  To move work to another request one therefore has to find
two byte strings with the same digest.
-/

namespace WorkGate

/-- Two different byte strings have the same digest. -/
def Sha256.Collide (left right : Bytes) : Prop :=
  left ≠ right ∧ hash left = hash right

namespace RegistrationRequest

/-- The bytes that are hashed to check the work of a request. -/
def preimage (request : RegistrationRequest) : Bytes :=
  Work.preimage request.submission.challengeNonce request.submission.responseNonce
    request.submission.bound

/-- Where all nonces are well formed, the hashed bytes determine the whole request. -/
theorem eq_of_preimage_eq
    {first second : RegistrationRequest}
    (firstChallenge : Nonce.WellFormed first.proof.challengeNonce)
    (secondChallenge : Nonce.WellFormed second.proof.challengeNonce)
    (firstResponse : Nonce.WellFormed first.proof.responseNonce)
    (secondResponse : Nonce.WellFormed second.proof.responseNonce)
    (same : first.preimage = second.preimage) :
    first = second := by
  simp only [preimage, Work.preimage, submission, Option.getD_some, List.append_assoc] at same
  obtain ⟨sameChallenge, sameBehind⟩ := firstChallenge.append_inj secondChallenge same
  obtain ⟨sameResponse, sameCanonical⟩ := firstResponse.append_inj secondResponse sameBehind
  have sameData := RegistrationData.canonical_injective sameCanonical
  obtain ⟨firstData, firstProof⟩ := first
  obtain ⟨secondData, secondProof⟩ := second
  rw [RegistrationRequest.mk.injEq, WorkProof.mk.injEq]
  exact ⟨sameData, sameChallenge, sameResponse⟩

end RegistrationRequest

namespace Registrar.Session

variable {Source : Type} [RandomSource Source]

/-- Every challenge that is open in a reachable state has a well-formed nonce. -/
theorem allFormed_run
    {policy : Policy}
    {terms : Option Terms}
    {store : TenantStore}
    {registrar : Registrar}
    (created : create policy terms store = .ok registrar)
    (reading : Int)
    (source : Source)
    (actions : List Action) :
    (run { registrar, reading, source } actions).registrar.gatekeeper.challenges.AllFormed := by
  apply run_induction
    (motive := fun _ registrar => registrar.gatekeeper.challenges.AllFormed)
  · obtain ⟨gatekeeper, made, rfl⟩ := exists_gatekeeper_of_create created
    obtain ⟨law, -, rfl⟩ := Gatekeeper.exists_law_of_create made
    intro nonce issuedAt found
    cases found
  · intro history entry before after formed explains
    exact explains.formed formed

/--
Of requests for open challenges with well-formed response nonces, no two have the same bytes hashed,
and two with the same digest exhibit a collision.
-/
theorem work_binds_request
    {policy : Policy}
    {terms : Option Terms}
    {store : TenantStore}
    {registrar : Registrar}
    (created : create policy terms store = .ok registrar)
    (reading : Int)
    (source : Source)
    (actions : List Action) :
    let start : Session Source := { registrar, reading, source }
    let challenges := (start.run actions).registrar.gatekeeper.challenges
    (∀ first second : RegistrationRequest,
      challenges.issued.contains first.proof.challengeNonce →
        challenges.issued.contains second.proof.challengeNonce →
          Nonce.WellFormed first.proof.responseNonce →
            Nonce.WellFormed second.proof.responseNonce →
              (first.preimage = second.preimage →
                first.proof.challengeNonce = second.proof.challengeNonce ∧
                  first.proof.responseNonce = second.proof.responseNonce ∧
                    first.data.did = second.data.did ∧
                      first.data.termsHash = second.data.termsHash) ∧
              (Sha256.hash first.preimage = Sha256.hash second.preimage →
                first = second ∨ Sha256.Collide first.preimage second.preimage)) ∧
    Function.Injective RegistrationData.canonical := by
  intro start challenges
  refine ⟨?_, RegistrationData.canonical_injective⟩
  intro first second firstOpen secondOpen firstFormed secondFormed
  have formed : challenges.AllFormed := allFormed_run created reading source actions
  obtain ⟨firstIssued, firstFound⟩ := Option.isSome_iff_exists.mp firstOpen
  obtain ⟨secondIssued, secondFound⟩ := Option.isSome_iff_exists.mp secondOpen
  have determines : first.preimage = second.preimage → first = second :=
    RegistrationRequest.eq_of_preimage_eq (formed _ _ firstFound) (formed _ _ secondFound)
      firstFormed secondFormed
  refine ⟨?_, ?_⟩
  · intro same
    rw [determines same]
    exact ⟨rfl, rfl, rfl, rfl⟩
  · intro sameDigest
    by_cases same : first.preimage = second.preimage
    · exact Or.inl (determines same)
    · exact Or.inr ⟨same, sameDigest⟩

/-- The request that `zeroRequest` becomes when its work is claimed for another tenant. -/
def claimedRequest : RegistrationRequest where
  data := { did := "did:example:one", termsHash := zeroRequest.data.termsHash }
  proof := zeroRequest.proof

theorem preimage_zeroRequest_ne : zeroRequest.preimage ≠ claimedRequest.preimage := by
  intro same
  obtain ⟨issuedAt, found, -⟩ := admissible_zeroRequest.fresh
  have isOpen :
      askedSession.registrar.gatekeeper.challenges.issued.contains
        zeroRequest.proof.challengeNonce :=
    Option.isSome_iff_exists.mpr ⟨issuedAt, found⟩
  have formed : Nonce.WellFormed zeroRequest.proof.responseNonce := admissible_zeroRequest.formed
  have binds :=
    work_binds_request create_openPolicy openSession.reading openSession.source [.issue]
  obtain ⟨-, -, sameTenant, -⟩ :=
    (binds.1 zeroRequest claimedRequest isOpen isOpen formed formed).1 same
  exact absurd sameTenant (by decide)

end Registrar.Session

end WorkGate
