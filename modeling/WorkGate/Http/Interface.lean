import WorkGate.Http.MediaType
import WorkGate.Http.Message
import WorkGate.Registrar

/-!
# The registration interface over HTTP

Three resources make up the interface: challenges and terms are read, registrations are posted.
Paths match exactly and the query is ignored.  A HEAD request does what the GET request does and
gets the response without its body, so it issues a challenge as well.

A posted body has to announce JSON, must not exceed two mebibytes, and must read as a registration
request; what fails first is the refusal.
-/

namespace WorkGate.Http

/-- What a path leads to. -/
inductive Resource where
  | challenge
  | terms
  | registration
deriving DecidableEq

namespace Resource

def ofPath? (path : String) : Option Resource :=
  if path = "/registration/proof-of-work" then some challenge
  else if path = "/registration/terms-of-service" then some terms
  else if path = "/registration" then some registration
  else none

end Resource

def bodyLimit : Nat := 2097152

/-- Why a body is refused before it is looked at as a registration. -/
inductive BodyFault where
  | notJson
  | tooLarge
  | malformed
  | mismatched
deriving DecidableEq

namespace BodyFault

/--
The sentence that names the fault.  To the last two of them the reader of JSON adds what it met and
where, which is not repeated here.
-/
def message : BodyFault → String
  | notJson => "Expected request with `Content-Type: application/json`"
  | tooLarge => "Failed to buffer the request body: length limit exceeded"
  | malformed => "Failed to parse the request body as JSON"
  | mismatched => "Failed to deserialize the JSON body into the target type"

def toRegistrationError (fault : BodyFault) : RegistrationError :=
  .invalidRequest fault.message

def ofJsonFault : Json.Fault → BodyFault
  | .malformed => malformed
  | .mismatched => mismatched

end BodyFault

/-- Reads a registration request from a posted body. -/
def Request.registration (request : Request) : Except BodyFault RegistrationRequest :=
  if (request.contentType.map MediaType.isJson).getD false then
    if request.body.length ≤ bodyLimit then
      match RegistrationRequest.ofJson request.body with
      | .ok content => .ok content
      | .error fault => .error (.ofJsonFault fault)
    else .error .tooLarge
  else .error .notJson

def ticketJson (ticket : Ticket) : String :=
  Json.objectOfTwo (Json.member "challengeNonce" (Json.quote ticket.challengeNonce))
    (Json.member "maximumAllowedHashValue" (Json.quote ticket.ceiling.toHex))

/-- The answer to a request, what it reported, and what is left behind it. -/
structure Exchange (Source : Type) where
  response : Response
  events : List Event
  registrar : Registrar
  source : Source

variable {Source : Type}

def readTerms (registrar : Registrar) (source : Source) : Exchange Source where
  response := (registrar.terms.map fun terms => Response.text terms.text).getD .notFound
  events := []
  registrar := registrar
  source := source

def readChallenge
    [RandomSource Source]
    (now : Int)
    (registrar : Registrar)
    (source : Source) :
    Exchange Source :=
  let (ticket, gatekeeper, rest) := registrar.gatekeeper.issue now source
  { response := .json 200 (ticketJson ticket)
    events := [ticket.event]
    registrar := { registrar with gatekeeper }
    source := rest }

def refuse
    (error : RegistrationError)
    (events : List Event)
    (registrar : Registrar)
    (source : Source) :
    Exchange Source where
  response := .refusal error
  events := events ++ [.refusalAnswered error]
  registrar := registrar
  source := source

def postRegistration
    (request : Request)
    (now : Int)
    (registrar : Registrar)
    (source : Source) :
    Exchange Source :=
  match request.registration with
  | .error fault => refuse fault.toRegistrationError [] registrar source
  | .ok content =>
      match registrar.register content now with
      | (.error refusal, after) =>
          refuse refusal (Registrar.registrationEvents content (.error refusal)) after source
      | (.ok (), after) =>
          { response := .registered
            events := Registrar.registrationEvents content (.ok ())
            registrar := after
            source }

/-- Answers a request without doing anything. -/
def decline (response : Response) (registrar : Registrar) (source : Source) : Exchange Source where
  response := response
  events := []
  registrar := registrar
  source := source

/-- The exchange as a HEAD request sees it. -/
def Exchange.withoutBody (exchange : Exchange Source) : Exchange Source :=
  { exchange with response := exchange.response.withoutBody }

/-- Answers a request that may read a resource but do nothing else. -/
def reading
    (request : Request)
    (registrar : Registrar)
    (source : Source)
    (get : Unit → Exchange Source) :
    Exchange Source :=
  if request.method = "GET" then get ()
  else if request.method = "HEAD" then (get ()).withoutBody
  else decline (.methodNotAllowed "GET,HEAD") registrar source

/-- Answers a request at a clock reading. -/
def answer
    [RandomSource Source]
    (request : Request)
    (now : Int)
    (registrar : Registrar)
    (source : Source) :
    Exchange Source :=
  match Resource.ofPath? request.path with
  | none => decline .notFound registrar source
  | some .challenge =>
      reading request registrar source fun () => readChallenge now registrar source
  | some .terms => reading request registrar source fun () => readTerms registrar source
  | some .registration =>
      if request.method = "POST" then postRegistration request now registrar source
      else decline (.methodNotAllowed "POST") registrar source

end WorkGate.Http
