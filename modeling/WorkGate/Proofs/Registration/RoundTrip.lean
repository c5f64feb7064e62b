import WorkGate.Proofs.Registrar.Operations
import WorkGate.Proofs.Registration

/-!
# Printing a request and reading it again

A request is printed as compact JSON and the canonical bytes of its data are a part of this text.
Both are read as what was printed, whatever characters the four texts contain.  So a body that was
read, however it was spelled, can be replaced by the printed form of what was read: the request, the
canonical bytes and the answer stay the same.  The bytes that the work of a request is bound to are
those that its client obtains by printing what it has sent.
-/

namespace WorkGate

open Json

/-! ## Posting what was printed -/

namespace Http

/-- The post with a registration request in its printed form as the body. -/
def Request.reprinted (post : Request) (request : RegistrationRequest) : Request :=
  { post with body := utf8 request.toJson }

/-- A post that was read is read again from the printed form of the request. -/
theorem registration_reprinted
    {post : Request}
    {request : RegistrationRequest}
    (read : post.registration = .ok request)
    (short : (utf8 request.toJson).length ≤ bodyLimit) :
    (post.reprinted request).registration = .ok request := by
  obtain ⟨announced, -, -⟩ := registration_eq_ok_iff.mp read
  exact registration_eq_ok_iff.mpr ⟨announced, short, request.ofJson_toJson⟩

end Http

namespace RegistrationRequest

/--
Every request is read from its printed form, and registration data are read from their canonical
bytes.  So printing what was read from a body and reading it again gives the same request with the
same canonical bytes, which are those that its work is checked with, and the printed form is
answered as the body is.  A client that sends any JSON text for a request has this request read.
-/
theorem reading_undoes_printing :
    (∀ request : RegistrationRequest, ofJson (utf8 request.toJson) = .ok request) ∧
    (∀ data : RegistrationData, Json.read RegistrationData.shape data.canonical = .ok data) ∧
    (∀ (body : Bytes) (request : RegistrationRequest),
      ofJson body = .ok request →
        ∃ again,
          ofJson (utf8 request.toJson) = .ok again ∧ again = request ∧
            again.data.canonical = request.data.canonical ∧
              ∀ ceiling,
                request.submission.work ceiling =
                  Work.check again.proof.challengeNonce again.proof.responseNonce
                    (some again.data.canonical) ceiling) ∧
    (∀ (Source : Type) [RandomSource Source] (post : Http.Request) (request : RegistrationRequest),
      post.registration = .ok request →
        (utf8 request.toJson).length ≤ Http.bodyLimit →
          ∀ (now : Int) (registrar : Registrar) (source : Source),
            Http.answer (post.reprinted request) now registrar source =
              Http.answer post now registrar source) ∧
    ∀ (tree : Tree) (body : Bytes) (sent : RegistrationRequest),
      IsText tree body → layout.Holds tree sent.content → ofJson body = .ok sent := by
  refine ⟨ofJson_toJson, RegistrationData.read_canonical, ?_, ?_, ?_⟩
  · intro body request read
    exact ⟨request, request.ofJson_toJson, rfl, rfl, fun ceiling => rfl⟩
  · intro Source _ post request read short now registrar source
    apply Http.answer_congr
    · rfl
    · rfl
    · rw [Http.registration_reprinted read short, read]
  · intro tree body sent isText holds
    exact (ofJson_eq_ok_iff isText sent).mpr holds

/-- A request whose texts need every kind of escape, and characters of one to four bytes. -/
def oddSample : RegistrationRequest where
  data := { did := "did:\"\\\x08\x0c\n\r\t\x00\x1f", termsHash := "/\x7fé漢😀" }
  proof := { challengeNonce := "", responseNonce := "\\u0041\\" }

def oddPost : Http.Request where
  method := "POST"
  target := "/registration"
  contentType := some "application/json"
  body := oddSample.wideText

/-- The sample is read from a wide text, and from its printed form, which is another text. -/
theorem oddSample_survives_printing :
    Json.quote oddSample.data.did = "\"did:\\\"\\\\\\b\\f\\n\\r\\t\\u0000\\u001f\"" ∧
      Json.quote oddSample.data.termsHash = "\"/\x7fé漢😀\"" ∧
        oddSample.wideText ≠ utf8 oddSample.toJson ∧
          ofJson oddSample.wideText = .ok oddSample ∧
            ofJson (utf8 oddSample.toJson) = .ok oddSample ∧
              Json.read RegistrationData.shape oddSample.data.canonical = .ok oddSample.data ∧
                ∀ (now : Int) (registrar : Registrar) (source : Entropy),
                  Http.answer (oddPost.reprinted oddSample) now registrar source =
                    Http.answer oddPost now registrar source := by
  obtain ⟨reads, readsData, again, answers, spelled⟩ := reading_undoes_printing
  have wide : ofJson oddSample.wideText = .ok oddSample :=
    (ofJson_eq_ok_iff_of_alike oddSample.isText_wideText oddSample.isText_toJson
      oddSample.alike_wideTree oddSample).mpr (reads oddSample)
  obtain ⟨_, readAgain, rfl, -⟩ := again _ _ wide
  have posted : oddPost.registration = .ok oddSample :=
    Http.registration_eq_ok_iff.mpr ⟨by decide +kernel, by decide +kernel, wide⟩
  exact ⟨by decide +kernel, by decide +kernel, by decide +kernel, wide, readAgain,
    readsData oddSample.data, answers Entropy oddPost oddSample posted (by decide +kernel)⟩

end RegistrationRequest

end WorkGate
