/-!
# Why proof of work is refused

The first four causes lie with the submission and carry a code that clients can act on.  The last
two describe a value or a policy that an operator supplied; they have no code.
-/

namespace WorkGate

/-- Why a submission, a hash value or a policy is refused. -/
inductive WorkError where
  | staleChallenge
  | malformedResponse
  | reusedResponse
  | insufficientWork
  | invalidHashValue (text : String)
  | invalidPolicy (reason : String)
deriving DecidableEq

namespace WorkError

def message : WorkError → String
  | staleChallenge => "Challenge nonce is invalid or has expired"
  | malformedResponse => "Response nonce must be a 64 character hex string"
  | reusedResponse => "Response nonce has already been used"
  | insufficientWork => "Response nonce does not satisfy the current difficulty"
  | invalidHashValue text => "Invalid hash value: " ++ text
  | invalidPolicy reason => "Invalid PoW configuration: " ++ reason

/-- The code of an error that the submission caused. -/
def code? : WorkError → Option String
  | staleChallenge => some "InvalidOrExpiredChallenge"
  | malformedResponse => some "InvalidResponseNonceFormat"
  | reusedResponse => some "ResponseNonceReused"
  | insufficientWork => some "InsufficientSolutionNonce"
  | invalidHashValue _ => none
  | invalidPolicy _ => none

/-- Whether the submission caused the error. -/
def isClientError (error : WorkError) : Bool :=
  error.code?.isSome

end WorkError

instance : ToString WorkError :=
  ⟨WorkError.message⟩

end WorkGate
