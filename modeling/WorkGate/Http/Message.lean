import WorkGate.Json.Text
import WorkGate.RegistrationError
import WorkGate.Registration

/-!
# HTTP messages

A request is reduced to what the registration interface looks at, and a response to what it sets.
JSON bodies are compact texts, so a response is fixed to the byte.
-/

namespace WorkGate.Http

structure Request where
  method : String
  target : String
  contentType : Option String
  body : Bytes
deriving DecidableEq

/-- What follows the scheme of a target, if the target starts with a scheme and not with a path. -/
def afterScheme? : List Char → Option (List Char)
  | [] => none
  | '/' :: _ => none
  | ':' :: '/' :: '/' :: rest => some rest
  | _ :: rest => afterScheme? rest

/--
The path of a target: what precedes the query and the fragment.  In a target that starts with a
scheme the path begins behind the authority, and an empty one is a slash.
-/
def Request.path (request : Request) : String :=
  let resource := request.target.toList.takeWhile fun char => char ≠ '?' ∧ char ≠ '#'
  match afterScheme? resource with
  | none => String.ofList resource
  | some located =>
      let path := located.dropWhile (· ≠ '/')
      if path.isEmpty then "/" else String.ofList path

structure Response where
  status : Nat
  /-- The content type, if there is content. -/
  contentType : Option String := none
  allow : Option String := none
  body : String := ""
deriving DecidableEq

namespace Response

def json (status : Nat) (body : String) : Response where
  status := status
  contentType := some "application/json"
  body := body

def text (body : String) : Response where
  status := 200
  contentType := some "text/plain; charset=utf-8"
  body := body

/-- Nothing is there. -/
def notFound : Response where
  status := 404

/-- Something is there, for other methods. -/
def methodNotAllowed (allow : String) : Response where
  status := 405
  allow := some allow

/-- The response without its body, as a HEAD request gets it. -/
def withoutBody (response : Response) : Response :=
  { response with body := "" }

def registered : Response :=
  json 200 "\x7b\"success\":true\x7d"

/-- The answer to a refused registration: code and message, or no detail at all. -/
def refusal (error : RegistrationError) : Response :=
  match error.code? with
  | some code =>
      json error.status
        (Json.objectOfTwo (Json.member "code" (Json.quote code))
          (Json.member "message" (Json.quote error.message)))
  | none => json error.status "\x7b\"success\":false\x7d"

end Response

end WorkGate.Http
