import WorkGate.Client
import WorkGate.Clock
import WorkGate.Http.Interface

/-!
# A deployment

A deployment is a registrar together with what it runs on: a clock, the time that has passed, a
timer, and a random source.  Its operations supply the present clock reading and the random source
to the operations of the registrar and its gatekeeper, and collect the events that these report.

Letting time pass performs the background chores that come due, each at the clock reading of its
own moment; a manual clock is not moved by it.
-/

namespace WorkGate

/-- A registrar with its clock, passing time, timer and random source. -/
structure Deployment where
  clock : Clock
  timer : Timer
  /-- The milliseconds that have passed. -/
  elapsed : Nat := 0
  entropy : Entropy
  registrar : Registrar

namespace Deployment

/-- What an operation answers, what it reports, and the deployment after it. -/
structure Outcome (Answer : Type) where
  answer : Answer
  events : List Event
  after : Deployment

def now (deployment : Deployment) : Int :=
  deployment.clock.now deployment.elapsed

def gatekeeper (deployment : Deployment) : Gatekeeper :=
  deployment.registrar.gatekeeper

def withGatekeeper (gatekeeper : Gatekeeper) (deployment : Deployment) : Deployment :=
  { deployment with registrar := { deployment.registrar with gatekeeper } }

def issue (deployment : Deployment) : Outcome Ticket :=
  let (ticket, gatekeeper, entropy) := deployment.gatekeeper.issue deployment.now deployment.entropy
  { answer := ticket
    events := [ticket.event]
    after := { deployment.withGatekeeper gatekeeper with entropy } }

def verify (submission : Submission) (deployment : Deployment) :
    Outcome (Except WorkError Unit) :=
  let verdict := deployment.gatekeeper.verify submission deployment.now
  { answer := verdict.map fun _ => ()
    events := [submission.event verdict]
    after :=
      match verdict with
      | .ok gatekeeper => deployment.withGatekeeper gatekeeper
      | .error _ => deployment }

def recordSolves (count : Nat) (deployment : Deployment) : Deployment :=
  deployment.withGatekeeper (deployment.gatekeeper.recordSolves deployment.now count)

def evaluate (deployment : Deployment) : Outcome Difficulty.Adjustment :=
  let (adjustment, gatekeeper) := deployment.gatekeeper.evaluate deployment.now
  { answer := adjustment
    events := [deployment.gatekeeper.adjustmentEvent adjustment]
    after := deployment.withGatekeeper gatekeeper }

def sweep (deployment : Deployment) : Outcome Gatekeeper.Swept :=
  let (swept, gatekeeper) := deployment.gatekeeper.sweep deployment.now
  { answer := swept
    events := [swept.event]
    after := deployment.withGatekeeper gatekeeper }

def start (deployment : Deployment) : Outcome Unit :=
  let (events, gatekeeper) := deployment.gatekeeper.start deployment.timer deployment.elapsed
  { answer := (), events, after := deployment.withGatekeeper gatekeeper }

def stop (deployment : Deployment) : Outcome Unit :=
  let (events, gatekeeper) := deployment.gatekeeper.stop
  { answer := (), events, after := deployment.withGatekeeper gatekeeper }

def pass (millis : Nat) (deployment : Deployment) : Outcome Unit :=
  let elapsed := deployment.elapsed + millis
  let (events, gatekeeper) :=
    deployment.gatekeeper.attend (fun passed => deployment.clock.now passed) elapsed
  { answer := (), events, after := { deployment.withGatekeeper gatekeeper with elapsed } }

def register (request : RegistrationRequest) (deployment : Deployment) :
    Outcome (Except RegistrationError Unit) :=
  let (outcome, registrar) := deployment.registrar.register request deployment.now
  { answer := outcome
    events := Registrar.registrationEvents request outcome
    after := { deployment with registrar } }

/-- Takes a ticket, solves it as an honest client does, and registers. -/
def solveAndRegister (data : RegistrationData) (deployment : Deployment) :
    Outcome (Option (WorkProof × Except RegistrationError Unit)) :=
  let issued := deployment.issue
  match Client.solve issued.answer data issued.after.entropy with
  | none => { answer := none, events := issued.events, after := issued.after }
  | some (proof, entropy) =>
      let registered := { issued.after with entropy }.register { data, proof }
      { answer := some (proof, registered.answer)
        events := issued.events ++ registered.events
        after := registered.after }

def answer (request : Http.Request) (deployment : Deployment) : Outcome Http.Response :=
  let exchange := Http.answer request deployment.now deployment.registrar deployment.entropy
  { answer := exchange.response
    events := exchange.events
    after := { deployment with registrar := exchange.registrar, entropy := exchange.source } }

def status (did : String) (deployment : Deployment) : Outcome TenantStatus where
  answer := deployment.registrar.status did
  events := deployment.registrar.statusEvents did
  after := deployment

def isActive (did : String) (deployment : Deployment) : Outcome Bool where
  answer := deployment.registrar.isActive did
  events := deployment.registrar.gateEvents did
  after := deployment

def updateTerms (terms : Terms) (deployment : Deployment) : Outcome Unit :=
  let (events, registrar) := deployment.registrar.updateTerms terms
  { answer := (), events, after := { deployment with registrar } }

end Deployment

end WorkGate
