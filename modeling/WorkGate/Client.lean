import WorkGate.Registrar

/-!
# The honest client

A client that wants to be registered takes a ticket, draws response nonces until one passes under
the ceiling of the ticket, and sends the request.  The search is bounded by a number of attempts so
large that running out of them is not to be expected.
-/

namespace WorkGate.Client

/-- The number of response nonces a client is willing to draw. -/
def patience : Nat := 0x4000000000000000

variable {Source : Type} [RandomSource Source]

/-- Finds a response nonce for registration data under a ticket. -/
def solve
    (ticket : Ticket)
    (data : RegistrationData)
    (source : Source) :
    Option (WorkProof × Source) :=
  (Work.search ticket.challengeNonce (some data.canonical) ticket.ceiling patience source).map
    fun (responseNonce, rest) => ({ challengeNonce := ticket.challengeNonce, responseNonce }, rest)

end WorkGate.Client
