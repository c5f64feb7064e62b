import WorkGate.Gatekeeper
import WorkGate.Registration
import WorkGate.TenantStore
import WorkGate.Text.Blank

/-!
# The registrar

The registrar decides whom to register.  A request must name its tenant, agree to the terms in
force, and carry a proof of work bound to its data; only then is the solve counted, and then the
tenant is written to the store.  `admission` is the decision up to the write and is refused without
any effect.  If the write fails the proof of work stays spent and the solve stays counted.

The registrar is also the gate that tells which tenants may act: those registered under the terms
in force.  Replacing the terms changes no record; it changes who passes.
-/

namespace WorkGate

/-- The gatekeeper, the terms in force and the registered tenants. -/
structure Registrar where
  gatekeeper : Gatekeeper
  /-- The terms in force, if there are any. -/
  terms : Option Terms := none
  store : TenantStore := {}

namespace RegistrationRequest

/-- The attempt that a request makes: its proof of work, bound to its canonical data. -/
def submission (request : RegistrationRequest) : Submission where
  challengeNonce := request.proof.challengeNonce
  responseNonce := request.proof.responseNonce
  bound := some request.data.canonical

end RegistrationRequest

namespace Registrar

/-- A registrar without tenants on the given store. -/
def create
    (policy : Policy)
    (terms : Option Terms)
    (store : TenantStore) :
    Except WorkError Registrar :=
  (Gatekeeper.create policy).map fun gatekeeper => { gatekeeper, terms, store }

def termsHash? (registrar : Registrar) : Option String :=
  registrar.terms.map Terms.hash

def updateTerms (terms : Terms) (registrar : Registrar) : List Event × Registrar :=
  ([.termsUpdated terms.hash], { registrar with terms := some terms })

/-- Refuses data without a tenant, then data that agree to other terms than those in force. -/
def checkData (data : RegistrationData) (registrar : Registrar) : Except RegistrationError Unit :=
  if Text.IsAllBlank data.did then .error (.invalidRequest "did must not be empty")
  else
    match registrar.termsHash? with
    | some current => if data.termsHash = current then .ok () else .error .outdatedTerms
    | none => .ok ()

/-- The gatekeeper after it has accepted a request and counted its solve. -/
def admission
    (request : RegistrationRequest)
    (now : Int)
    (registrar : Registrar) :
    Except RegistrationError Gatekeeper :=
  match registrar.checkData request.data with
  | .error refusal => .error refusal
  | .ok () =>
      match registrar.gatekeeper.verify request.submission now with
      | .error refusal => .error (.work refusal)
      | .ok gatekeeper => .ok (gatekeeper.recordSolves now 1)

/-- Registers the tenant of an acceptable request. -/
def register
    (request : RegistrationRequest)
    (now : Int)
    (registrar : Registrar) :
    Except RegistrationError Unit × Registrar :=
  match registrar.admission request now with
  | .error refusal => (.error refusal, registrar)
  | .ok gatekeeper =>
      match registrar.store.upsert request.data.did (some request.data.termsHash) (some now) with
      | .error fault => (.error fault, { registrar with gatekeeper })
      | .ok store => (.ok (), { registrar with gatekeeper, store })

/-- The events that report the outcome of a registration. -/
def registrationEvents (request : RegistrationRequest) :
    Except RegistrationError Unit → List Event
  | .ok () =>
      [.workAccepted request.proof.challengeNonce, .tenantRegistered request.data.did]
  | .error (.work refusal) => [.workRefused request.proof.challengeNonce refusal]
  | .error (.store _) => [.workAccepted request.proof.challengeNonce]
  | .error _ => []

/-- The standing of a tenant that was looked up. -/
def standing (found : Option TenantRecord) (registrar : Registrar) : TenantStatus :=
  match found with
  | none => .notRegistered
  | some record =>
      match registrar.termsHash? with
      | none => .active
      | some current => if record.termsHash = some current then .active else .outdatedTerms

/-- The standing of a tenant; a tenant that cannot be looked up counts as not registered. -/
def status (did : String) (registrar : Registrar) : TenantStatus :=
  match registrar.store.get? did with
  | .ok found => registrar.standing found
  | .error _ => .notRegistered

/-- The events that report a look-up: none, unless the store failed. -/
def statusEvents (did : String) (registrar : Registrar) : List Event :=
  match registrar.store.get? did with
  | .ok _ => []
  | .error fault => [.tenantLookupFailed did fault]

def isActive (did : String) (registrar : Registrar) : Bool :=
  (registrar.status did).isActive

def gateEvents (did : String) (registrar : Registrar) : List Event :=
  registrar.statusEvents did ++
    if registrar.isActive did then []
    else [.tenantNotActive did (registrar.status did).detail]

end Registrar

end WorkGate
