import WorkGate.HashValue
import WorkGate.Duration
import WorkGate.RegistrationError

/-!
# Log events

What the operations report about themselves is data: one constructor for each kind of event.  The
level, the message and the named fields of an event are functions of it, so the wording is kept in
one place and the operations stay free of it.
-/

namespace WorkGate

inductive Level where
  | error
  | warn
  | info
  | debug
deriving DecidableEq

inductive FieldValue where
  | count (value : Nat)
  | text (value : String)
deriving DecidableEq

inductive Event where
  | difficultyIncreased (rate desired : Nat) (previous current : HashValue)
  | difficultyDecreased (rate : Nat) (previous current : HashValue)
  | difficultyAtInitial (rate : Nat)
  | challengeIssued (nonce : String) (ceiling : HashValue)
  | workAccepted (challengeNonce : String)
  | workRefused (challengeNonce : String) (error : WorkError)
  | expiredSwept (challenges nonces : Nat)
  | alreadyRunning
  | stoppingTask (task : String)
  | taskStarted (task : String) (period : Duration)
  | taskStopped (task : String)
  | taskEndedAbnormally (task : String)
  | tenantRegistered (did : String)
  | termsUpdated (hash : String)
  | tenantNotActive (did detail : String)
  | tenantLookupFailed (did : String) (error : RegistrationError)
  | refusalAnswered (error : RegistrationError)
deriving DecidableEq

namespace Event

def level : Event → Level
  | difficultyIncreased .. => .info
  | difficultyDecreased .. => .debug
  | difficultyAtInitial _ => .debug
  | challengeIssued .. => .debug
  | workAccepted _ => .debug
  | workRefused .. => .warn
  | expiredSwept .. => .debug
  | alreadyRunning => .debug
  | stoppingTask _ => .debug
  | taskStarted .. => .info
  | taskStopped _ => .info
  | taskEndedAbnormally _ => .warn
  | tenantRegistered _ => .info
  | termsUpdated _ => .info
  | tenantNotActive .. => .debug
  | tenantLookupFailed .. => .warn
  | refusalAnswered error => if error.code?.isSome then .warn else .error

/-- The sentence that names the event.  An internal error is named by its own text. -/
def message : Event → String
  | difficultyIncreased .. => "PoW difficulty increased"
  | difficultyDecreased .. => "PoW difficulty decreased"
  | difficultyAtInitial _ => "PoW difficulty at initial value"
  | challengeIssued .. => "Issued PoW challenge"
  | workAccepted _ => "PoW verification successful"
  | workRefused .. => "PoW verification failed"
  | expiredSwept .. => "Swept expired PoW state"
  | alreadyRunning => "PoW background tasks already running"
  | stoppingTask _ => "Stopping PoW background task"
  | taskStarted .. => "Periodic task started"
  | taskStopped _ => "Periodic task stopped"
  | taskEndedAbnormally _ => "Periodic task ended abnormally"
  | tenantRegistered _ => "Tenant registered"
  | termsUpdated _ => "Terms of service updated"
  | tenantNotActive .. => "Tenant not active"
  | tenantLookupFailed .. => "Tenant lookup failed, denying"
  | refusalAnswered error =>
      match error with
      | .store _ => "Registration database error"
      | .internal detail => detail
      | .work cause =>
          if cause.isClientError then "Registration rejected"
          else "Registration PoW misconfiguration"
      | .outdatedTerms => "Registration rejected"
      | .invalidRequest _ => "Registration rejected"

/-- The named fields of a refusal: its text, and its code if it has one. -/
def refusalFields (error : RegistrationError) : List (String × FieldValue) :=
  match error with
  | .store fault => [("error", .text fault.message)]
  | .internal _ => []
  | error =>
      ("error", .text error.message) ::
        (error.code?.toList.map fun code => ("code", .text code))

def fields : Event → List (String × FieldValue)
  | difficultyIncreased rate desired previous current =>
      [("solve_rate", .count rate), ("desired_solve_rate", .count desired),
       ("previous", .text previous.toHex), ("current", .text current.toHex)]
  | difficultyDecreased rate previous current =>
      [("solve_rate", .count rate), ("previous", .text previous.toHex),
       ("current", .text current.toHex)]
  | difficultyAtInitial rate => [("solve_rate", .count rate)]
  | challengeIssued nonce ceiling =>
      [("challenge_nonce", .text nonce),
       ("maximum_allowed_hash_value", .text ceiling.toHex)]
  | workAccepted challengeNonce => [("challenge_nonce", .text challengeNonce)]
  | workRefused challengeNonce error =>
      [("challenge_nonce", .text challengeNonce), ("error", .text error.message)]
  | expiredSwept challenges nonces =>
      [("challenges_removed", .count challenges), ("nonces_removed", .count nonces)]
  | alreadyRunning => []
  | stoppingTask task => [("task", .text task)]
  | taskStarted task period =>
      [("task", .text task), ("period_ms", .count (low64 period.millis))]
  | taskStopped task => [("task", .text task)]
  | taskEndedAbnormally task => [("task", .text task)]
  | tenantRegistered did => [("did", .text did)]
  | termsUpdated hash => [("terms_of_service_hash", .text hash)]
  | tenantNotActive did detail => [("did", .text did), ("detail", .text detail)]
  | tenantLookupFailed did error => [("did", .text did), ("error", .text error.message)]
  | refusalAnswered error => refusalFields error

end Event

end WorkGate
