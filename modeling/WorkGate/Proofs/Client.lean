import WorkGate.Client
import WorkGate.Proofs.HashValue
import WorkGate.Proofs.Registrar.Operations
import WorkGate.Proofs.Registration
import WorkGate.Proofs.Search

/-!
# The client works from what it reads

A client knows a ticket only from the body of a response: it reads two texts from the JSON and the
ceiling from its hexadecimal digits.  What it reads is the ticket that was issued.  The search for a
response nonce returns one that is well formed and passes under the ceiling of the ticket, and a
body that is laid out as a request reaches the server as this request.
-/

namespace WorkGate

open Json

/-! ## Reading a ticket -/

theorem Json.read_objectOfTwo_texts
    {firstName secondName : String}
    (differ : firstName ≠ secondName)
    (first second : String) :
    Json.read (Value.pair ⟨firstName, Value.text⟩ ⟨secondName, Value.text⟩)
        (utf8 (objectOfTwo (member firstName (quote first)) (member secondName (quote second)))) =
      .ok (first, second) := by
  have isText :
      IsText (.object [(firstName, .string first), (secondName, .string second)])
        (utf8 (objectOfTwo (member firstName (quote first)) (member secondName (quote second)))) :=
    ((prints_quote first).objectOfTwo (prints_quote second)).isText
  have follows :=
    Layout.follows_pair ⟨firstName, Value.text⟩ ⟨secondName, Value.text⟩ Layout.follows_text
      Layout.follows_text differ
  exact (follows.read_eq_ok_iff isText (first, second)).mpr
    (Layout.holds_object_of_two differ rfl rfl)

/-- The ticket that a client reads from a response. -/
def Http.Response.ticket? (response : Http.Response) : Option Ticket := do
  let (challengeNonce, digits) ←
    (Json.read
      (Value.pair ⟨"challengeNonce", Value.text⟩ ⟨"maximumAllowedHashValue", Value.text⟩)
      (utf8 response.body)).toOption
  let ceiling ← HashValue.ofHex? digits
  return { challengeNonce, ceiling }

/-- A client reads the ticket that was written. -/
theorem Http.ticket?_json_ticketJson (status : Nat) (ticket : Ticket) :
    (Http.Response.json status (Http.ticketJson ticket)).ticket? = some ticket := by
  have read :=
    Json.read_objectOfTwo_texts (show "challengeNonce" ≠ "maximumAllowedHashValue" by decide)
      ticket.challengeNonce ticket.ceiling.toHex
  simp [Http.Response.ticket?, Http.Response.json, Http.ticketJson, read, Except.toOption,
    HashValue.ofHex?_toHex]

/-! ## Posting a request -/

/-- A post whose body is laid out as a request is this request. -/
theorem Http.registration_eq_ok
    {post : Http.Request}
    {request : RegistrationRequest}
    {tree : Tree}
    (announced : (post.contentType.map Http.MediaType.isJson).getD false = true)
    (short : post.body.length ≤ Http.bodyLimit)
    (isText : IsText tree post.body)
    (holds : RegistrationRequest.layout.Holds tree request.content) :
    post.registration = .ok request :=
  registration_eq_ok_iff.mpr
    ⟨announced, short, (RegistrationRequest.ofJson_eq_ok_iff isText request).mpr holds⟩

/-- What an honest client posts for these data under a ticket. -/
structure Client.Prepares
    (Source : Type) [RandomSource Source]
    (ticket : Ticket)
    (request : RegistrationRequest)
    (post : Http.Request) :
    Prop where
  named : ¬ Text.IsAllBlank request.data.did
  answers : request.proof.challengeNonce = ticket.challengeNonce
  searched :
    ∃ attempts source, ∃ rest : Source,
      Work.search ticket.challengeNonce (some request.data.canonical) ticket.ceiling attempts
        source = some (request.proof.responseNonce, rest)
  located : Http.Resource.ofPath? post.path = some .registration
  method : post.method = "POST"
  announced : (post.contentType.map Http.MediaType.isJson).getD false = true
  short : post.body.length ≤ Http.bodyLimit
  /-- The body is some JSON text that says what the request says. -/
  written : ∃ tree, IsText tree post.body ∧ RegistrationRequest.layout.Holds tree request.content

section Prepares

variable {Source : Type} [RandomSource Source] {ticket : Ticket} {request : RegistrationRequest}
  {post : Http.Request}

theorem Client.Prepares.registration_eq
    (prepares : Client.Prepares Source ticket request post) :
    post.registration = .ok request := by
  obtain ⟨tree, isText, holds⟩ := prepares.written
  exact Http.registration_eq_ok prepares.announced prepares.short isText holds

theorem Client.Prepares.wellFormed
    (prepares : Client.Prepares Source ticket request post) :
    Nonce.WellFormed request.proof.responseNonce := by
  obtain ⟨attempts, source, rest, found⟩ := prepares.searched
  exact (Work.finds_iff_exists_search.mpr ⟨attempts, found⟩).wellFormed_and_check.1

/-- The work of the request passes under every ceiling that is not below that of the ticket. -/
theorem Client.Prepares.meets
    (prepares : Client.Prepares Source ticket request post)
    {ceiling : HashValue}
    (loose : ticket.ceiling ≤ ceiling) :
    request.submission.Meets ceiling := by
  obtain ⟨attempts, source, rest, found⟩ := prepares.searched
  have passes : request.submission.work ticket.ceiling = .ok () := by
    have checked := (Work.finds_iff_exists_search.mpr ⟨attempts, found⟩).wellFormed_and_check.2
    rwa [← prepares.answers] at checked
  rw [Submission.work_eq] at passes
  split at passes
  · next meets => exact Nat.le_trans meets loose
  · cases passes

end Prepares

end WorkGate
