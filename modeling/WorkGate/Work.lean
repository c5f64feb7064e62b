import WorkGate.Nonce
import WorkGate.Sha256
import WorkGate.WorkError

/-!
# Proof of work

A response nonce proves work on a challenge if the SHA-256 digest of challenge nonce, response
nonce and bound data, read as a number, is at most a ceiling.  The three parts are hashed one
after the other without separators.

`Work.check` is the test of the server.  `Work.search` is the effort of the client: it draws
response nonces until one passes, within a given number of attempts.
-/

namespace WorkGate.Work

/-- The bytes that are hashed: both nonces, then the bound data if there is any. -/
def preimage
    (challengeNonce responseNonce : String)
    (bound : Option Bytes) :
    Bytes :=
  utf8 challengeNonce ++ utf8 responseNonce ++ bound.getD []

def digest
    (challengeNonce responseNonce : String)
    (bound : Option Bytes) :
    Sha256.Digest :=
  Sha256.hash (preimage challengeNonce responseNonce bound)

def score (digest : Sha256.Digest) : HashValue :=
  HashValue.ofBytes digest.toBytes (by simp)

/-- Reads a digest from its digits: 64 bytes that are decoded in pairs. -/
def score? (text : String) : Except WorkError HashValue :=
  if sized : text.utf8ByteSize = 64 then
    match decoded : Hex.decode? (utf8 text) with
    | some bytes =>
        .ok (HashValue.ofBytes bytes (Hex.length_le_of_decode? decoded (Nat.le_of_eq sized)))
    | none => .error (.invalidHashValue text)
  else .error (.invalidHashValue text)

/-- Accepts an attempt whose digest is at most the ceiling. -/
def check
    (challengeNonce responseNonce : String)
    (bound : Option Bytes)
    (ceiling : HashValue) :
    Except WorkError Unit :=
  if score (digest challengeNonce responseNonce bound) ≤ ceiling then .ok ()
  else .error .insufficientWork

variable {Source : Type} [RandomSource Source]

/--
Draws response nonces until one passes the check and returns it with the source behind it; `none`
if none of the first `attempts` draws passes.
-/
def search
    (challengeNonce : String)
    (bound : Option Bytes)
    (ceiling : HashValue) :
    (attempts : Nat) → Source → Option (String × Source)
  | 0, _ => none
  | attempts + 1, source =>
      let (responseNonce, rest) := Nonce.generate source
      match check challengeNonce responseNonce bound ceiling with
      | .ok () => some (responseNonce, rest)
      | .error _ => search challengeNonce bound ceiling attempts rest

end WorkGate.Work
