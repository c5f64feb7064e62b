import WorkGate.WorkError

/-!
# Why a registration is refused

A registration can fail for its proof of work, for the terms it agrees to, for its shape, or
because the store does not answer.  Causes that the request itself can mend have a code and are
answered with status 400; all others are answered with status 500 and no detail.
-/

namespace WorkGate

/-- Why the store does not answer: in the words of the store, whatever they are. -/
structure StoreFault where
  message : String
deriving DecidableEq

/-- Why a registration is refused. -/
inductive RegistrationError where
  | work (cause : WorkError)
  | outdatedTerms
  | invalidRequest (detail : String)
  | store (fault : StoreFault)
  | internal (detail : String)
deriving DecidableEq

namespace RegistrationError

def message : RegistrationError → String
  | work cause => cause.message
  | outdatedTerms => "Terms of service hash is outdated or invalid"
  | invalidRequest detail => "Invalid registration request: " ++ detail
  | store fault => "Database error: " ++ fault.message
  | internal detail => "Internal error: " ++ detail

/-- The code of an error that the request can mend. -/
def code? : RegistrationError → Option String
  | work cause => cause.code?
  | outdatedTerms => some "OutdatedOrInvalidTermsOfServiceHash"
  | invalidRequest _ => some "InvalidRegistrationRequest"
  | store _ => none
  | internal _ => none

def status (error : RegistrationError) : Nat :=
  if error.code?.isSome then 400 else 500

end RegistrationError

instance : ToString RegistrationError :=
  ⟨RegistrationError.message⟩

end WorkGate
