import WorkGate.Http.Interface
import WorkGate.Proofs.Gatekeeper.Operations
import WorkGate.Proofs.Nonce

/-!
# What a registration and an exchange do to the registrar

A registration either is refused, and then the request is at fault and the registrar is as before,
or it is admissible, and then its proof of work is spent and its solve counted.  The tenant of an
admissible request is enrolled unless the store fails.  There is no other outcome.

An exchange over HTTP does one of three things: it registers the request that was posted, it issues
a challenge, or it leaves everything as it was.
-/

namespace WorkGate

/-- What the store knows of a tenant once its registration at this moment is written. -/
def RegistrationData.record (now : Int) (data : RegistrationData) : TenantRecord where
  did := data.did
  termsHash := some data.termsHash
  provedAt := some now

namespace TenantTable

variable {tenants : TenantTable} {data : RegistrationData} {now : Int}

/-- Every tenant is stored under its own name. -/
def Keyed (tenants : TenantTable) : Prop :=
  ∀ did record, tenants.get? did = some record → record.did = did

/-- Writes what a registration states of its tenant. -/
def enroll (data : RegistrationData) (now : Int) (tenants : TenantTable) : TenantTable :=
  tenants.upsert data.did (some data.termsHash) (some now)

theorem keyed_empty : Keyed ∅ := by
  intro did record found
  simp at found

/-- Where every tenant is stored under its own name, a registration replaces the whole record. -/
theorem Keyed.enroll_eq_insert (keyed : tenants.Keyed) :
    tenants.enroll data now = Table.insert data.did (data.record now) tenants := by
  have named : ((tenants.get? data.did).getD { did := data.did }).did = data.did := by
    cases found : tenants.get? data.did with
    | none => rfl
    | some record => exact keyed data.did record found
  simp [enroll, upsert, RegistrationData.record, TenantRecord.update, named]

theorem Keyed.get?_enroll_eq_some_iff
    (keyed : tenants.Keyed)
    {did : String}
    {record : TenantRecord} :
    (tenants.enroll data now).get? did = some record ↔
      (did = data.did ∧ data.record now = record) ∨
        (did ≠ data.did ∧ tenants.get? did = some record) := by
  rw [keyed.enroll_eq_insert, Table.get?_insert_eq_some_iff]

theorem Keyed.enroll (keyed : tenants.Keyed) : (tenants.enroll data now).Keyed := by
  intro did record found
  rcases keyed.get?_enroll_eq_some_iff.mp found with ⟨rfl, rfl⟩ | ⟨-, older⟩
  · rfl
  · exact keyed did record older

end TenantTable

namespace OpenChallenges

variable {challenges : OpenChallenges}

/-- Every challenge has a well-formed nonce. -/
def AllFormed (challenges : OpenChallenges) : Prop :=
  ∀ nonce issuedAt, challenges.issued.get? nonce = some issuedAt → Nonce.WellFormed nonce

theorem AllFormed.issue
    {Source : Type} [RandomSource Source]
    (formed : challenges.AllFormed)
    (now : Int)
    (source : Source) :
    (challenges.issue now source).2.1.AllFormed := by
  intro nonce issuedAt found
  rcases Table.get?_insert_eq_some_iff.mp found with ⟨rfl, -⟩ | ⟨-, older⟩
  · exact Nonce.wellFormed_generate source
  · exact formed nonce issuedAt older

theorem AllFormed.erase (formed : challenges.AllFormed) (closed : String) :
    AllFormed { challenges with issued := challenges.issued.erase closed } := by
  intro nonce issuedAt found
  exact formed nonce issuedAt (Table.get?_erase_eq_some_iff.mp found).2

theorem AllFormed.sweep (formed : challenges.AllFormed) (now : Int) :
    (challenges.sweep now).2.AllFormed := by
  intro nonce issuedAt found
  exact formed nonce issuedAt (get?_sweep_eq_some_iff.mp found).1

end OpenChallenges

theorem SpentNonces.isSpent_eq_false_iff {nonces : SpentNonces} {nonce : String} :
    nonces.isSpent nonce = false ↔ nonces.spent.get? (Nonce.fold nonce) = none := by
  simp [isSpent, Table.contains]

/-- Whatever makes a submission fail lies with the submission. -/
theorem Gatekeeper.isClientError_of_verify_eq_error
    {submission : Submission}
    {now : Int}
    {keeper : Gatekeeper}
    {refusal : WorkError}
    (refused : keeper.verify submission now = .error refusal) :
    refusal.isClientError := by
  rw [verify_eq] at refused
  split at refused
  · cases refused; rfl
  · split at refused
    · cases refused; rfl
    · split at refused
      · cases refused; rfl
      · split at refused
        · cases refused; rfl
        · cases refused

namespace Registrar

/-- A request that names a tenant, agrees to the terms in force, and carries work that passes. -/
structure Admissible (request : RegistrationRequest) (now : Int) (registrar : Registrar) :
    Prop where
  named : ¬ Text.IsAllBlank request.data.did
  agreed : ∀ current, registrar.termsHash? = some current → request.data.termsHash = current
  formed : Nonce.WellFormed request.proof.responseNonce
  unspent :
    registrar.gatekeeper.spent.spent.get? (Nonce.fold request.proof.responseNonce) = none
  fresh : registrar.gatekeeper.challenges.IsFresh request.proof.challengeNonce now
  meets : request.submission.Meets registrar.gatekeeper.ceiling

/-- The registrar after it has accepted the work of a request and counted its solve. -/
def accept (request : RegistrationRequest) (now : Int) (registrar : Registrar) : Registrar :=
  let keeper := registrar.gatekeeper
  { registrar with
    gatekeeper :=
      { keeper with
        challenges :=
          { keeper.challenges with
            issued := keeper.challenges.issued.erase request.proof.challengeNonce }
        spent :=
          { keeper.spent with
            spent := keeper.spent.spent.insert (Nonce.fold request.proof.responseNonce) now }
        difficulty :=
          { keeper.difficulty with
            solves := now :: keeper.difficulty.solves } } }

/-- The registrar after its store has written the tenant of a request. -/
def enroll (data : RegistrationData) (now : Int) (registrar : Registrar) : Registrar :=
  { registrar with
    store := { registrar.store with tenants := registrar.store.tenants.enroll data now } }

/-- What a registration can lead to: its outcome, and the registrar after it. -/
inductive Registration (request : RegistrationRequest) (now : Int) (registrar : Registrar) :
    Except RegistrationError Unit → Registrar → Prop where
  /-- The request is at fault and nothing has changed. -/
  | refused {refusal : RegistrationError}
      (inadmissible : ¬ registrar.Admissible request now)
      (client : refusal.status = 400) :
      Registration request now registrar (.error refusal) registrar
  /-- The work is accepted, but the store has failed. -/
  | unstored {fault : StoreFault}
      (admissible : registrar.Admissible request now)
      (fails : registrar.store.writeFault = some fault) :
      Registration request now registrar (.error (.store fault)) (registrar.accept request now)
  | enrolled
      (admissible : registrar.Admissible request now)
      (works : registrar.store.writeFault = none) :
      Registration request now registrar (.ok ())
        ((registrar.accept request now).enroll request.data now)

variable {request : RegistrationRequest} {now : Int} {registrar : Registrar}

theorem checkData_eq_ok_iff {data : RegistrationData} :
    registrar.checkData data = .ok () ↔
      ¬ Text.IsAllBlank data.did ∧
        ∀ current, registrar.termsHash? = some current → data.termsHash = current := by
  simp only [checkData]
  split
  · simp_all
  · split <;> simp_all

theorem status_of_checkData_eq_error
    {data : RegistrationData}
    {refusal : RegistrationError}
    (refused : registrar.checkData data = .error refusal) :
    refusal.status = 400 := by
  simp only [checkData] at refused
  split at refused
  · cases refused; rfl
  · split at refused
    · split at refused
      · cases refused
      · cases refused; rfl
    · cases refused

theorem admission_eq_ok_iff {keeper : Gatekeeper} :
    registrar.admission request now = .ok keeper ↔
      registrar.Admissible request now ∧ (registrar.accept request now).gatekeeper = keeper := by
  constructor
  · intro passed
    simp only [admission] at passed
    split at passed
    · cases passed
    · next checked =>
        obtain ⟨named, agreed⟩ := checkData_eq_ok_iff.mp checked
        split at passed
        · cases passed
        · next accepted verified =>
            obtain ⟨formed, unspent, fresh, meets, rfl⟩ :=
              Gatekeeper.verify_eq_ok_iff.mp verified
            cases passed
            have absent := SpentNonces.isSpent_eq_false_iff.mp unspent
            exact ⟨⟨named, agreed, formed, absent, fresh, meets⟩, rfl⟩
  · rintro ⟨⟨named, agreed, formed, unspent, fresh, meets⟩, rfl⟩
    have checked := checkData_eq_ok_iff.mpr ⟨named, agreed⟩
    have verified :
        registrar.gatekeeper.verify request.submission now =
          .ok (registrar.gatekeeper.accept request.submission now) :=
      Gatekeeper.verify_eq_ok_iff.mpr
        ⟨formed, SpentNonces.isSpent_eq_false_iff.mpr unspent, fresh, meets, rfl⟩
    simp only [admission, checked, verified]
    rfl

/-- A request is refused before the store is asked only for its own fault. -/
theorem status_of_admission_eq_error
    {refusal : RegistrationError}
    (refused : registrar.admission request now = .error refusal) :
    refusal.status = 400 := by
  simp only [admission] at refused
  split at refused
  · next checked =>
      cases refused
      exact status_of_checkData_eq_error checked
  · split at refused
    · next cause verified =>
        cases refused
        exact if_pos (Gatekeeper.isClientError_of_verify_eq_error verified)
    · cases refused

theorem registration_register :
    Registration request now registrar
      (registrar.register request now).1 (registrar.register request now).2 := by
  simp only [register]
  cases decided : registrar.admission request now with
  | error refusal =>
      have inadmissible : ¬ registrar.Admissible request now := by
        intro admissible
        have passed := admission_eq_ok_iff.mpr ⟨admissible, rfl⟩
        rw [decided] at passed
        cases passed
      exact .refused inadmissible (status_of_admission_eq_error decided)
  | ok keeper =>
      obtain ⟨admissible, rfl⟩ := admission_eq_ok_iff.mp decided
      cases written : registrar.store.writeFault with
      | some fault =>
          simp only [TenantStore.upsert, written]
          exact .unstored admissible written
      | none =>
          have stored :
              registrar.store.upsert request.data.did (some request.data.termsHash) (some now) =
                .ok ((registrar.accept request now).enroll request.data now).store := by
            simp [TenantStore.upsert, written, enroll, accept, TenantTable.enroll]
          simp only [stored]
          exact .enrolled admissible written

/-- While the store works, an admissible request is registered. -/
theorem register_of_admissible
    (admissible : registrar.Admissible request now)
    (works : registrar.store.writeFault = none) :
    registrar.register request now =
      (.ok (), (registrar.accept request now).enroll request.data now) := by
  have registration : Registration request now registrar _ _ := registration_register
  generalize registrar.register request now = result at registration ⊢
  obtain ⟨outcome, after⟩ := result
  cases registration with
  | refused inadmissible client => exact absurd admissible inadmissible
  | unstored admissible fails =>
      rw [works] at fails
      cases fails
  | enrolled admissible works => rfl

/-- A request that is not admissible is refused for its own fault. -/
theorem exists_refusal_of_not_admissible (inadmissible : ¬ registrar.Admissible request now) :
    ∃ refusal,
      registrar.register request now = (.error refusal, registrar) ∧ refusal.status = 400 := by
  have registration : Registration request now registrar _ _ := registration_register
  generalize registrar.register request now = result at registration ⊢
  obtain ⟨outcome, after⟩ := result
  cases registration with
  | refused inadmissible client => exact ⟨_, rfl, client⟩
  | unstored admissible fails => exact absurd admissible inadmissible
  | enrolled admissible works => exact absurd admissible inadmissible

end Registrar

namespace Http

open Registrar

/-- The request is a POST to the path of registrations. -/
def Request.PostsRegistration (request : Request) : Prop :=
  Resource.ofPath? request.path = some .registration ∧ request.method = "POST"

instance (request : Request) : Decidable request.PostsRegistration :=
  inferInstanceAs (Decidable (_ ∧ _))

/-- The request reads the resource from which challenges are taken. -/
def Request.AsksChallenge (request : Request) : Prop :=
  Resource.ofPath? request.path = some .challenge ∧
    (request.method = "GET" ∨ request.method = "HEAD")

/-- The registration request that was posted, if the body reads as one. -/
def Request.posted? (request : Request) : Option RegistrationRequest :=
  if request.PostsRegistration then request.registration.toOption else none

/-- The status with which the outcome of a registration is answered. -/
def outcomeStatus : Except RegistrationError Unit → Nat
  | .ok () => 200
  | .error refusal => refusal.status

theorem status_refusal (error : RegistrationError) :
    (Response.refusal error).status = error.status := by
  simp only [Response.refusal]
  split <;> rfl

variable {Source : Type} [RandomSource Source]
variable {request : Request} {content : RegistrationRequest}

theorem posted?_eq_some_iff :
    request.posted? = some content ↔
      request.PostsRegistration ∧ request.registration = .ok content := by
  by_cases posts : request.PostsRegistration
  · cases read : request.registration <;> simp [Request.posted?, posts, read, Except.toOption]
  · simp [Request.posted?, posts]

/-- A body of admissible type and length is read as JSON. -/
theorem registration_eq
    (announced : (request.contentType.map MediaType.isJson).getD false = true)
    (short : request.body.length ≤ bodyLimit) :
    request.registration =
      (RegistrationRequest.ofJson request.body).mapError BodyFault.ofJsonFault := by
  simp only [Request.registration, announced, short, if_true]
  cases RegistrationRequest.ofJson request.body <;> rfl

/-- A registration is read only from a body of admissible type and length. -/
theorem registration_eq_ok_iff :
    request.registration = .ok content ↔
      (request.contentType.map MediaType.isJson).getD false = true ∧
        request.body.length ≤ bodyLimit ∧
          RegistrationRequest.ofJson request.body = .ok content := by
  by_cases announced : (request.contentType.map MediaType.isJson).getD false = true
  · by_cases short : request.body.length ≤ bodyLimit
    · rw [registration_eq announced short]
      cases RegistrationRequest.ofJson request.body <;> simp [Except.mapError, announced, short]
    · simp [Request.registration, announced, short]
  · simp [Request.registration, announced]

variable (now : Int) (registrar : Registrar) (source : Source)

/-- The answer depends on the body of a request only through the registration that it reads as. -/
theorem answer_congr
    {other : Request}
    (samePath : other.path = request.path)
    (sameMethod : other.method = request.method)
    (sameRegistration : other.registration = request.registration) :
    answer other now registrar source = answer request now registrar source := by
  simp only [answer, reading, postRegistration, samePath, sameMethod, sameRegistration]

theorem answer_eq_postRegistration (posts : request.PostsRegistration) :
    answer request now registrar source = postRegistration request now registrar source := by
  obtain ⟨located, method⟩ := posts
  simp [answer, located, method]

/-- A posted request is registered, and the status of the answer tells with what outcome. -/
theorem answer_of_posted (posted : request.posted? = some content) :
    (answer request now registrar source).registrar = (registrar.register content now).2 ∧
      (answer request now registrar source).source = source ∧
        (answer request now registrar source).response.status =
          outcomeStatus (registrar.register content now).1 := by
  obtain ⟨posts, read⟩ := posted?_eq_some_iff.mp posted
  rw [answer_eq_postRegistration now registrar source posts]
  simp only [postRegistration, read]
  rcases registrar.register content now with ⟨refusal | ⟨⟨⟩⟩, after⟩
  · exact ⟨rfl, rfl, status_refusal refusal⟩
  · exact ⟨rfl, rfl, rfl⟩

/-- A challenge that is asked for is issued. -/
theorem answer_of_asksChallenge (asks : request.AsksChallenge) :
    (answer request now registrar source).registrar =
        { registrar with gatekeeper := (registrar.gatekeeper.issue now source).2.1 } ∧
      (answer request now registrar source).source = (registrar.gatekeeper.issue now source).2.2 ∧
        (answer request now registrar source).response.status = 200 := by
  obtain ⟨located, method | method⟩ := asks
  · simp only [answer, located, reading, method, if_true]
    exact ⟨rfl, rfl, rfl⟩
  · have notGet : ¬ ("HEAD" : String) = "GET" := by decide
    simp only [answer, located, reading, method, notGet, if_true, if_false]
    exact ⟨rfl, rfl, rfl⟩

/-- A posted body that does not read as a registration request is refused. -/
theorem answer_of_unreadable
    (posts : request.PostsRegistration)
    (unreadable : request.posted? = none) :
    (answer request now registrar source).registrar = registrar ∧
      (answer request now registrar source).source = source ∧
        (answer request now registrar source).response.status = 400 := by
  rw [answer_eq_postRegistration now registrar source posts]
  cases read : request.registration with
  | ok content =>
      rw [posted?_eq_some_iff.mpr ⟨posts, read⟩] at unreadable
      cases unreadable
  | error fault =>
      simp only [postRegistration, read]
      exact ⟨rfl, rfl, status_refusal _⟩

/-- Any other request leaves everything as it was. -/
theorem answer_of_idle
    (unreadable : request.posted? = none)
    (notAsked : ¬ request.AsksChallenge) :
    (answer request now registrar source).registrar = registrar ∧
      (answer request now registrar source).source = source := by
  by_cases posts : request.PostsRegistration
  · obtain ⟨sameRegistrar, sameSource, -⟩ :=
      answer_of_unreadable now registrar source posts unreadable
    exact ⟨sameRegistrar, sameSource⟩
  · simp only [answer]
    cases located : Resource.ofPath? request.path with
    | none => exact ⟨rfl, rfl⟩
    | some resource =>
        cases resource with
        | challenge =>
            have notGet : request.method ≠ "GET" := fun get => notAsked ⟨located, Or.inl get⟩
            have notHead : request.method ≠ "HEAD" := fun head => notAsked ⟨located, Or.inr head⟩
            simp only [reading, notGet, notHead, if_false]
            exact ⟨rfl, rfl⟩
        | terms =>
            simp only [reading]
            split
            · exact ⟨rfl, rfl⟩
            · split
              · exact ⟨rfl, rfl⟩
              · exact ⟨rfl, rfl⟩
        | registration =>
            have notPost : request.method ≠ "POST" := fun post => posts ⟨located, post⟩
            simp only [notPost, if_false]
            exact ⟨rfl, rfl⟩

end Http

end WorkGate
