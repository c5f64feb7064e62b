import WorkGate.Nonce
import WorkGate.Table
import WorkGate.WorkError

/-!
# Open challenges

A challenge is a nonce with the time at which it was issued.  It stays open until it is redeemed,
which happens at most once, or swept after more than its lifetime has passed.  An open challenge
can be redeemed only within its lifetime.

Redeeming consults a test: if the challenge is not open and fresh the test is not run, and if the
test fails nothing changes.  A refusal therefore comes without a new collection at all.
-/

namespace WorkGate

/-- A nonce issued to a client, with the time of issue. -/
structure Challenge where
  nonce : String
  issuedAt : Int
deriving DecidableEq

/-- A challenge has expired once more than its lifetime has passed. -/
def Challenge.Expired (lifetime now : Int) (challenge : Challenge) : Prop :=
  lifetime < now - challenge.issuedAt

instance (lifetime now : Int) (challenge : Challenge) :
    Decidable (challenge.Expired lifetime now) :=
  inferInstanceAs (Decidable (lifetime < now - challenge.issuedAt))

/-- The challenges that were neither redeemed nor swept. -/
structure OpenChallenges where
  /-- How long a challenge lives, in milliseconds. -/
  lifetime : Int
  issued : Table String Int := ∅
deriving DecidableEq

namespace OpenChallenges

/-- The number of open challenges, expired ones included. -/
def size (challenges : OpenChallenges) : Nat :=
  challenges.issued.size

/-- Opens a challenge; an older one with the same nonce is replaced. -/
def insert (challenge : Challenge) (challenges : OpenChallenges) : OpenChallenges :=
  { challenges with issued := challenges.issued.insert challenge.nonce challenge.issuedAt }

def issue
    {Source : Type} [RandomSource Source]
    (now : Int)
    (challenges : OpenChallenges)
    (source : Source) :
    Challenge × OpenChallenges × Source :=
  let (nonce, rest) := Nonce.generate source
  let challenge : Challenge := { nonce, issuedAt := now }
  (challenge, challenges.insert challenge, rest)

def find? (nonce : String) (challenges : OpenChallenges) : Option Challenge :=
  (challenges.issued.get? nonce).map fun issuedAt => { nonce, issuedAt }

/-- The open challenge with a nonce, unless it has expired. -/
def validate
    (nonce : String)
    (now : Int)
    (challenges : OpenChallenges) :
    Except WorkError Challenge :=
  match challenges.find? nonce with
  | some challenge =>
      if challenge.Expired challenges.lifetime now then .error .staleChallenge
      else .ok challenge
  | none => .error .staleChallenge

/-- Closes a valid challenge that passes a test. -/
def redeem
    (nonce : String)
    (now : Int)
    (test : Challenge → Except WorkError Unit)
    (challenges : OpenChallenges) :
    Except WorkError (Challenge × OpenChallenges) :=
  match challenges.validate nonce now with
  | .error refusal => .error refusal
  | .ok challenge =>
      match test challenge with
      | .error refusal => .error refusal
      | .ok () => .ok (challenge, { challenges with issued := challenges.issued.erase nonce })

/-- Drops the expired challenges and counts them. -/
def sweep (now : Int) (challenges : OpenChallenges) : Nat × OpenChallenges :=
  let kept := challenges.issued.filter fun nonce issuedAt =>
    ¬ ({ nonce, issuedAt } : Challenge).Expired challenges.lifetime now
  (challenges.issued.size - kept.size, { challenges with issued := kept })

end OpenChallenges

end WorkGate
