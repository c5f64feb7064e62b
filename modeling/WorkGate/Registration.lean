import WorkGate.Json.Shape
import WorkGate.Sha256

/-!
# Registration requests

A tenant asks to be registered by naming itself, agreeing to terms of service by their hash, and
proving work that is bound to both.  The data are serialised in a canonical way: compact JSON with
the fields in a fixed order.  These bytes are what the work is bound to, so a client that serialises
what it sends in the same way hashes the same bytes.
-/

namespace WorkGate

/-- The terms of service that tenants agree to. -/
structure Terms where
  text : String
deriving DecidableEq

/-- The hash by which terms are agreed to: the digest of their text in upper-case digits. -/
def Terms.hash (terms : Terms) : String :=
  (Sha256.hash (utf8 terms.text)).toHex

/-- What a registration states and what the work is bound to. -/
structure RegistrationData where
  did : String
  termsHash : String
deriving DecidableEq

structure WorkProof where
  challengeNonce : String
  responseNonce : String
deriving DecidableEq

structure RegistrationRequest where
  data : RegistrationData
  proof : WorkProof
deriving DecidableEq

/-- A field of a compact JSON object: its key, a colon, and its value. -/
def Json.member (name value : String) : String :=
  Json.quote name ++ ":" ++ value

/-- A compact JSON object of two fields. -/
def Json.objectOfTwo (first second : String) : String :=
  "\x7b" ++ first ++ "," ++ second ++ "\x7d"

namespace RegistrationData

def toJson (data : RegistrationData) : String :=
  Json.objectOfTwo (Json.member "did" (Json.quote data.did))
    (Json.member "termsOfServiceHash" (Json.quote data.termsHash))

/-- The bytes that work for these data is bound to. -/
def canonical (data : RegistrationData) : Bytes :=
  utf8 data.toJson

def shape (value : Json.Value) : Except Json.Fault RegistrationData :=
  (value.pair ⟨"did", Json.Value.text⟩ ⟨"termsOfServiceHash", Json.Value.text⟩).map
    fun (did, termsHash) => { did, termsHash }

end RegistrationData

namespace WorkProof

def toJson (proof : WorkProof) : String :=
  Json.objectOfTwo (Json.member "challengeNonce" (Json.quote proof.challengeNonce))
    (Json.member "responseNonce" (Json.quote proof.responseNonce))

def shape (value : Json.Value) : Except Json.Fault WorkProof :=
  (value.pair ⟨"challengeNonce", Json.Value.text⟩ ⟨"responseNonce", Json.Value.text⟩).map
    fun (challengeNonce, responseNonce) => { challengeNonce, responseNonce }

end WorkProof

namespace RegistrationRequest

def toJson (request : RegistrationRequest) : String :=
  Json.objectOfTwo (Json.member "registrationData" request.data.toJson)
    (Json.member "proofOfWork" request.proof.toJson)

def shape (value : Json.Value) : Except Json.Fault RegistrationRequest :=
  (value.pair ⟨"registrationData", RegistrationData.shape⟩ ⟨"proofOfWork", WorkProof.shape⟩).map
    fun (data, proof) => { data, proof }

/-- Reads a request from the bytes of a body. -/
def ofJson (body : Bytes) : Except Json.Fault RegistrationRequest :=
  Json.read shape body

end RegistrationRequest

end WorkGate
