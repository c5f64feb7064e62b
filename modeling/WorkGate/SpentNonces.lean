import WorkGate.Nonce
import WorkGate.Table
import WorkGate.WorkError

/-!
# Spent response nonces

A response nonce can be spent once: it is remembered in upper case with the time at which it was
spent, and refused in any spelling while it is remembered.  It is remembered only after an inner
step has succeeded; a refusal comes without a new collection.  A sweep forgets the nonces that are
older than the retention time.
-/

namespace WorkGate

/-- The response nonces spent of late. -/
structure SpentNonces where
  /-- How long a nonce is remembered, in milliseconds. -/
  retention : Int
  spent : Table String Int := ∅
deriving DecidableEq

namespace SpentNonces

def size (nonces : SpentNonces) : Nat :=
  nonces.spent.size

/-- Whether a nonce is remembered in any spelling. -/
def isSpent (nonce : String) (nonces : SpentNonces) : Bool :=
  nonces.spent.contains (Nonce.fold nonce)

/-- Remembers a nonce as spent. -/
def insert (nonce : String) (now : Int) (nonces : SpentNonces) : SpentNonces :=
  { nonces with spent := nonces.spent.insert (Nonce.fold nonce) now }

/-- Refuses a malformed nonce, then a remembered one. -/
def inspect (nonce : String) (nonces : SpentNonces) : Except WorkError Unit :=
  if Nonce.WellFormed nonce then
    if nonces.isSpent nonce then .error .reusedResponse else .ok ()
  else .error .malformedResponse

/-- Inspects a nonce, runs the inner step, and remembers the nonce if the step succeeds. -/
def spendWith
    {Result : Type}
    (nonce : String)
    (now : Int)
    (inner : Unit → Except WorkError Result)
    (nonces : SpentNonces) :
    Except WorkError (Result × SpentNonces) :=
  match nonces.inspect nonce with
  | .error refusal => .error refusal
  | .ok () =>
      match inner () with
      | .error refusal => .error refusal
      | .ok result => .ok (result, nonces.insert nonce now)

def spend (nonce : String) (now : Int) (nonces : SpentNonces) : Except WorkError SpentNonces :=
  (nonces.spendWith nonce now fun () => .ok ()).map Prod.snd

/-- Forgets the nonces older than the retention time and counts them. -/
def sweep (now : Int) (nonces : SpentNonces) : Nat × SpentNonces :=
  let kept := nonces.spent.filter fun _ spentAt => now - spentAt ≤ nonces.retention
  (nonces.spent.size - kept.size, { nonces with spent := kept })

end SpentNonces

end WorkGate
