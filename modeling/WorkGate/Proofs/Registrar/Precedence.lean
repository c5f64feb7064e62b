import Mathlib.Data.List.TakeWhile
import Mathlib.Order.WellFounded
import WorkGate.Proofs.Json.Printing
import WorkGate.Proofs.Registrar.Challenges
import WorkGate.Proofs.Registrar.Refusal

/-!
# The first failing check decides

A posted registration goes through checks in a fixed order: its body must read as a request that
names a tenant, the terms it agrees to must be those in force, its response nonce must be well
formed, and unspent in any spelling, its challenge must be open and fresh, its digest must be within
the ceiling, and the store must write the tenant.  Each check is stated on its own, so a request may
fail several of them.  Whatever else is wrong with it, the answer is that of the first check that
fails, and a request is registered exactly if none does.

An answer that refuses says so with a code and a message if the request can mend the cause.  For all
other causes the answer is one and the same.
-/

namespace WorkGate

/-- Nothing is left of a text between its outer blanks exactly if it is blank throughout. -/
theorem Text.trim_eq_empty_iff {text : String} : Text.trim text = "" ↔ Text.IsAllBlank text := by
  have blank_iff :
      Text.trim text = "" ↔ ∀ char ∈ text.toList.dropWhile Text.isBlank, Text.isBlank char := by
    rw [← String.toList_inj, Text.trim, String.toList_ofList, String.toList_empty,
      List.reverse_eq_nil_iff, List.dropWhile_eq_nil_iff]
    simp only [List.mem_reverse]
  rw [blank_iff]
  constructor
  · intro blank char member
    rw [← List.takeWhile_append_dropWhile (p := Text.isBlank) (l := text.toList)] at member
    rcases List.mem_append.mp member with leading | rest
    · exact List.mem_takeWhile_imp leading
    · exact blank char rest
  · intro blank char member
    exact blank char ((List.dropWhile_sublist _).subset member)

namespace Gatekeeper

variable (submission : Submission) {now : Int} {keeper : Gatekeeper}

theorem refusal?_of_spent
    (formed : Nonce.WellFormed submission.responseNonce)
    (spent : keeper.spent.isSpent submission.responseNonce = true) :
    keeper.refusal? submission now = some .reusedResponse := by
  simp [refusal?, formed, spent]

theorem refusal?_of_stale
    (formed : Nonce.WellFormed submission.responseNonce)
    (unspent : keeper.spent.isSpent submission.responseNonce = false)
    (stale : ¬ keeper.challenges.IsFresh submission.challengeNonce now) :
    keeper.refusal? submission now = some .staleChallenge := by
  simp [refusal?, formed, unspent, stale]

theorem refusal?_of_fresh
    (formed : Nonce.WellFormed submission.responseNonce)
    (unspent : keeper.spent.isSpent submission.responseNonce = false)
    (fresh : keeper.challenges.IsFresh submission.challengeNonce now) :
    keeper.refusal? submission now =
      if submission.Meets keeper.ceiling then none else some .insufficientWork := by
  simp [refusal?, formed, unspent, fresh]

end Gatekeeper

namespace Http

namespace Response

/-- The answer discloses a code and a message, or else nothing at all. -/
def Discloses (code? : Option String) (message : String) (response : Response) : Prop :=
  match code? with
  | some code =>
      response.status = 400 ∧ response.contentType = some "application/json" ∧
        Json.IsText (.object [("code", .string code), ("message", .string message)])
          (utf8 response.body)
  | none => response = .json 500 "\x7b\"success\":false\x7d"

theorem discloses_refusal (error : RegistrationError) :
    (refusal error).Discloses error.code? error.message := by
  cases coded : error.code? with
  | none =>
      simp only [Discloses, refusal, coded, RegistrationError.status]
      rfl
  | some code =>
      simp only [Discloses, refusal, coded, RegistrationError.status]
      refine ⟨rfl, rfl, Json.Prints.isText ?_⟩
      exact (Json.prints_quote code).objectOfTwo (Json.prints_quote error.message)

theorem refusal_ne_registered (error : RegistrationError) : refusal error ≠ registered := by
  intro same
  have status := congrArg Response.status same
  rw [status_refusal, RegistrationError.status] at status
  split at status <;> cases status

end Response

/-- A post is refused for its body or for its registration, or else it is registered. -/
theorem response_of_posts
    {Source : Type} [RandomSource Source]
    {request : Request}
    (posts : request.PostsRegistration)
    (now : Int)
    (registrar : Registrar)
    (source : Source) :
    (answer request now registrar source).response =
      match request.registration with
      | .error fault => .refusal fault.toRegistrationError
      | .ok content =>
          match (registrar.register content now).1 with
          | .error refusal => .refusal refusal
          | .ok () => .registered := by
  rw [answer_eq_postRegistration now registrar source posts, postRegistration]
  cases request.registration with
  | error fault => rfl
  | ok content =>
      dsimp only
      rcases registrar.register content now with ⟨refusal | ⟨⟨⟩⟩, after⟩
      · rfl
      · rfl

end Http

namespace Registrar

/-- What is checked of a posted registration, in this order. -/
inductive Check where
  /-- The body reads as a request, and the request names a tenant. -/
  | legible
  /-- The terms agreed to are those in force. -/
  | agreed
  | formed
  /-- The response nonce is not remembered as spent, in any spelling. -/
  | unspent
  /-- The challenge is open and within its lifetime. -/
  | fresh
  | sufficient
  | stored
deriving DecidableEq

namespace Check

/-- How many checks come before this one. -/
def place : Check → Nat
  | legible => 0
  | agreed => 1
  | formed => 2
  | unspent => 3
  | fresh => 4
  | sufficient => 5
  | stored => 6

theorem place_lt_stored {check : Check} (other : check ≠ stored) :
    check.place < stored.place := by
  cases check with
  | stored => exact absurd rfl other
  | legible | agreed | formed | unspent | fresh | sufficient => decide

/-- The code by which a failure is answered. -/
def code? : Check → Option String
  | legible => some "InvalidRegistrationRequest"
  | agreed => some "OutdatedOrInvalidTermsOfServiceHash"
  | formed => some "InvalidResponseNonceFormat"
  | unspent => some "ResponseNonceReused"
  | fresh => some "InvalidOrExpiredChallenge"
  | sufficient => some "InsufficientSolutionNonce"
  | stored => none

/-- A request that was read passes the check, whatever the other checks say. -/
def Holds
    (lifetime : Int)
    (request : RegistrationRequest)
    (now : Int)
    (registrar : Registrar) :
    Check → Prop
  | legible => Text.trim request.data.did ≠ ""
  | agreed => ∀ terms, registrar.terms = some terms → request.data.termsHash = terms.hash
  | formed => Nonce.WellFormed request.proof.responseNonce
  | unspent =>
      registrar.gatekeeper.spent.spent.get? (Nonce.fold request.proof.responseNonce) = none
  | fresh =>
      ∃ issuedAt,
        registrar.gatekeeper.challenges.issued.get? request.proof.challengeNonce =
            some issuedAt ∧
          now - issuedAt ≤ lifetime
  | sufficient => request.submission.Meets registrar.gatekeeper.ceiling
  | stored => registrar.store.writeFault = none

/-- A body passes the check: it reads as a request that does. -/
def Passes
    (lifetime : Int)
    (body : Bytes)
    (now : Int)
    (registrar : Registrar)
    (check : Check) :
    Prop :=
  ∃ request,
    RegistrationRequest.ofJson body = .ok request ∧ check.Holds lifetime request now registrar

/-- The check fails, and every check before it passes. -/
structure IsFirstFailing (passes : Check → Prop) (check : Check) : Prop where
  fails : ¬ passes check
  passed : ∀ earlier, earlier.place < check.place → passes earlier

theorem forall_or_exists_isFirstFailing (passes : Check → Prop) :
    (∀ check, passes check) ∨ ∃ check, IsFirstFailing passes check := by
  by_cases failing : ∃ check, ¬ passes check
  · right
    obtain ⟨check, fails, least⟩ :=
      (measure place).wf.has_min { check | ¬ passes check } failing
    refine ⟨check, fails, fun earlier before => ?_⟩
    by_contra failsEarlier
    exact least earlier failsEarlier before
  · left
    exact not_exists_not.mp failing

end Check

variable {request : RegistrationRequest} {now : Int} {registrar : Registrar} {lifetime : Int}

theorem checkData_of_holds
    (named : Check.legible.Holds lifetime request now registrar)
    (agreed : Check.agreed.Holds lifetime request now registrar) :
    registrar.checkData request.data = .ok () := by
  refine checkData_eq_ok_iff.mpr ⟨mt Text.trim_eq_empty_iff.mpr named, ?_⟩
  intro current inForce
  obtain ⟨terms, found, rfl⟩ := Option.map_eq_some_iff.mp inForce
  exact agreed terms found

theorem fst_register_of_refusal?
    {refusal : RegistrationError}
    (refused : registrar.refusal? request now = some refusal) :
    (registrar.register request now).1 = .error refusal := by
  rw [register_eq, refused]

theorem fst_register_of_work
    {cause : WorkError}
    (checked : registrar.checkData request.data = .ok ())
    (refused : registrar.gatekeeper.refusal? request.submission now = some cause) :
    (registrar.register request now).1 = .error (.work cause) := by
  apply fst_register_of_refusal?
  simp only [refusal?, checked, refused, Option.map_some]

/-- A request that passes all checks before the last is left to the store. -/
theorem register_eq_settle_of_holds
    (lives : registrar.gatekeeper.challenges.lifetime = lifetime)
    (holds : ∀ check, check ≠ .stored → Check.Holds lifetime request now registrar check) :
    registrar.register request now = registrar.settle request now := by
  subst lives
  have checked := checkData_of_holds (holds .legible nofun) (holds .agreed nofun)
  have unspent := SpentNonces.isSpent_eq_false_iff.mpr (holds .unspent nofun)
  have passes : registrar.gatekeeper.refusal? request.submission now = none :=
    (Gatekeeper.refusal?_of_fresh request.submission (holds .formed nofun) unspent
      (holds .fresh nofun)).trans (if_pos (holds .sufficient nofun))
  have admitted : registrar.refusal? request now = none := by
    simp only [refusal?, checked, passes, Option.map_none]
  rw [register_eq, admitted]

/-- A request is refused, or fails to be stored, with the code of the first check that fails. -/
theorem exists_error_of_isFirstFailing
    (lives : registrar.gatekeeper.challenges.lifetime = lifetime)
    {check : Check}
    (first : Check.IsFirstFailing (Check.Holds lifetime request now registrar) check) :
    ∃ error,
      (registrar.register request now).1 = .error error ∧ error.code? = check.code? := by
  obtain ⟨fails, passed⟩ := first
  have checked (behind : Check.agreed.place < check.place) :
      registrar.checkData request.data = .ok () :=
    checkData_of_holds (passed .legible (Nat.lt_trans (by decide) behind)) (passed .agreed behind)
  have refused
      {cause : WorkError}
      (behind : Check.agreed.place < check.place)
      (work : registrar.gatekeeper.refusal? request.submission now = some cause) :
      (registrar.register request now).1 = .error (.work cause) :=
    fst_register_of_work (checked behind) work
  cases check with
  | legible =>
      have blank := Text.trim_eq_empty_iff.mp (not_not.mp fails)
      refine ⟨.invalidRequest "did must not be empty", fst_register_of_refusal? ?_, rfl⟩
      simp only [refusal?, checkData, if_pos blank]
  | agreed =>
      have named := mt Text.trim_eq_empty_iff.mpr (passed .legible (by decide))
      obtain ⟨terms, inForce, differs⟩ :
          ∃ terms, registrar.terms = some terms ∧ request.data.termsHash ≠ terms.hash := by
        simpa [Check.Holds] using fails
      refine ⟨.outdatedTerms, fst_register_of_refusal? ?_, rfl⟩
      simp [refusal?, checkData, named, termsHash?, inForce, differs]
  | formed => exact ⟨_, refused (by decide) (if_pos fails), rfl⟩
  | unspent =>
      have formed := passed .formed (by decide)
      have spent : registrar.gatekeeper.spent.isSpent request.submission.responseNonce = true :=
        eq_true_of_ne_false (mt SpentNonces.isSpent_eq_false_iff.mp fails)
      exact ⟨_, refused (by decide) (Gatekeeper.refusal?_of_spent _ formed spent), rfl⟩
  | fresh =>
      subst lives
      have formed := passed .formed (by decide)
      have unspent := SpentNonces.isSpent_eq_false_iff.mpr (passed .unspent (by decide))
      exact ⟨_, refused (by decide) (Gatekeeper.refusal?_of_stale _ formed unspent fails), rfl⟩
  | sufficient =>
      subst lives
      have formed := passed .formed (by decide)
      have unspent := SpentNonces.isSpent_eq_false_iff.mpr (passed .unspent (by decide))
      have fresh := passed .fresh (by decide)
      have decided := Gatekeeper.refusal?_of_fresh request.submission formed unspent fresh
      exact ⟨_, refused (by decide) (decided.trans (if_neg fails)), rfl⟩
  | stored =>
      obtain ⟨fault, failing⟩ := Option.ne_none_iff_exists'.mp fails
      have settles :=
        register_eq_settle_of_holds lives fun earlier other =>
          passed earlier (Check.place_lt_stored other)
      exact ⟨.store fault, by rw [settles, settle_of_writeFault_eq_some failing], rfl⟩

theorem fst_register_of_holds
    (lives : registrar.gatekeeper.challenges.lifetime = lifetime)
    (holds : ∀ check, Check.Holds lifetime request now registrar check) :
    (registrar.register request now).1 = .ok () := by
  rw [register_eq_settle_of_holds lives fun check _ => holds check,
    settle_of_writeFault_eq_none (holds .stored)]

/-- Once the body is read, its checks are those of the request that it reads as. -/
theorem Check.passes_eq_holds
    {body : Bytes}
    (read : RegistrationRequest.ofJson body = .ok request) :
    Check.Passes lifetime body now registrar = Check.Holds lifetime request now registrar := by
  funext check
  apply propext
  constructor
  · rintro ⟨other, readOther, holds⟩
    rw [read] at readOther
    cases readOther
    exact holds
  · intro holds
    exact ⟨request, read, holds⟩

section

variable {Source : Type} [RandomSource Source] {post : Http.Request}
  (posts : post.PostsRegistration)
  (announced : (post.contentType.map Http.MediaType.isJson).getD false = true)
  (short : post.body.length ≤ Http.bodyLimit)
  (lives : registrar.gatekeeper.challenges.lifetime = lifetime)
  (source : Source)

include posts announced short lives

/-- A post is answered with the code of the first check that fails. -/
theorem exists_refusal_of_isFirstFailing
    {check : Check}
    (first : Check.IsFirstFailing (Check.Passes lifetime post.body now registrar) check) :
    ∃ error,
      (Http.answer post now registrar source).response = .refusal error ∧
        error.code? = check.code? := by
  have registration := Http.registration_eq announced short
  cases read : RegistrationRequest.ofJson post.body with
  | error fault =>
      rw [read] at registration
      have illegible : ¬ Check.legible.Passes lifetime post.body now registrar := by
        rintro ⟨request, readAnyway, -⟩
        rw [read] at readAnyway
        cases readAnyway
      cases check with
      | legible =>
          refine ⟨(Http.BodyFault.ofJsonFault fault).toRegistrationError, ?_, rfl⟩
          rw [Http.response_of_posts posts, registration]
          rfl
      | agreed | formed | unspent | fresh | sufficient | stored =>
          exact absurd (first.passed .legible (by decide)) illegible
  | ok request =>
      rw [read] at registration
      rw [Check.passes_eq_holds read] at first
      obtain ⟨error, refused, coded⟩ := exists_error_of_isFirstFailing lives first
      refine ⟨error, ?_, coded⟩
      rw [Http.response_of_posts posts, registration]
      simp only [Except.mapError, refused]

/-- A post that passes every check is registered. -/
theorem response_of_passes
    (passes : ∀ check, Check.Passes lifetime post.body now registrar check) :
    (Http.answer post now registrar source).response = .registered := by
  obtain ⟨request, read, -⟩ := passes .legible
  have registration := Http.registration_eq announced short
  rw [read] at registration
  rw [Check.passes_eq_holds read] at passes
  rw [Http.response_of_posts posts, registration]
  simp only [Except.mapError, fst_register_of_holds lives passes]

end

namespace Session

variable {Source : Type} [RandomSource Source]

/--
The first check that fails fixes the answer to a posted registration, whatever other checks fail as
well, and the request is registered exactly if every check passes.  No refusal discloses more than a
code and a message, and none without a code discloses anything.
-/
theorem first_failing_check_decides
    {policy : Policy}
    {terms : Option Terms}
    {store : TenantStore}
    {registrar : Registrar}
    (created : create policy terms store = .ok registrar)
    (reading : Int)
    (source : Source)
    (actions : List Action)
    {post : Http.Request}
    (posts : post.PostsRegistration)
    (announced : (post.contentType.map Http.MediaType.isJson).getD false = true)
    (short : post.body.length ≤ Http.bodyLimit) :
    let session := Session.run { registrar, reading, source } actions
    let response := (Http.answer post session.reading session.registrar session.source).response
    let passes := Check.Passes policy.lifetimeMillis post.body session.reading session.registrar
    (∀ check, Check.IsFirstFailing passes check →
      ∃ error,
        response = .refusal error ∧ error.code? = check.code? ∧
          response.Discloses check.code? error.message) ∧
    ((∀ check, passes check) ∨ ∃ check, Check.IsFirstFailing passes check) ∧
    (response = .json 200 "\x7b\"success\":true\x7d" ↔ ∀ check, passes check) ∧
    ∀ error, (Http.Response.refusal error).Discloses error.code? error.message := by
  intro session response passes
  have lives : session.registrar.gatekeeper.challenges.lifetime = policy.lifetimeMillis :=
    (lifetime_run actions).trans (lifetime_of_create created)
  have refused {check : Check} (first : Check.IsFirstFailing passes check) :
      ∃ error, response = .refusal error ∧ error.code? = check.code? :=
    exists_refusal_of_isFirstFailing posts announced short lives session.source first
  have decided := Check.forall_or_exists_isFirstFailing passes
  refine ⟨?_, decided, ⟨?_, ?_⟩, Http.Response.discloses_refusal⟩
  · intro check first
    obtain ⟨error, answered, coded⟩ := refused first
    refine ⟨error, answered, coded, ?_⟩
    rw [answered, ← coded]
    exact Http.Response.discloses_refusal error
  · intro registered
    rcases decided with all | ⟨check, first⟩
    · exact all
    · obtain ⟨error, answered, -⟩ := refused first
      exact absurd (answered.symm.trans registered) (Http.Response.refusal_ne_registered error)
  · exact response_of_passes posts announced short lives session.source

/-- A request with neither a challenge nor a proper response nonce. -/
def hastyRequest : RegistrationRequest where
  data := zeroRequest.data
  proof := { challengeNonce := "none", responseNonce := "none" }

def hastyPost : Http.Request where
  method := "POST"
  target := "/registration"
  contentType := some "application/json"
  body := utf8 hastyRequest.toJson

/-- A malformed response nonce is told before an unknown challenge. -/
theorem response_hastyPost :
    let passes :=
      Check.Passes Gatekeeper.Session.openPolicy.lifetimeMillis hastyPost.body 0
        openSession.registrar
    ¬ passes .formed ∧ ¬ passes .fresh ∧
      ∃ error,
        (Http.answer hastyPost 0 openSession.registrar openSession.source).response =
            .refusal error ∧
          error.code? = some "InvalidResponseNonceFormat" := by
  intro passes
  have read : RegistrationRequest.ofJson hastyPost.body = .ok hastyRequest := by decide +kernel
  have passes_eq : passes = _ := Check.passes_eq_holds read
  have malformed : ¬ passes .formed := by
    rw [passes_eq]
    show ¬ Nonce.WellFormed "none"
    decide
  have stale : ¬ passes .fresh := by
    rw [passes_eq]
    rintro ⟨issuedAt, issued, -⟩
    cases issued
  have first : Check.IsFirstFailing passes .formed := by
    refine ⟨malformed, fun earlier before => ?_⟩
    rw [passes_eq]
    cases earlier with
    | legible =>
        show Text.trim hastyRequest.data.did ≠ ""
        decide +kernel
    | agreed => nofun
    | formed | unspent | fresh | sufficient | stored => exact absurd before (by decide)
  have posts : hastyPost.PostsRegistration := by decide +kernel
  have decided :=
    first_failing_check_decides create_openPolicy 0 openSession.source [] posts
      (by decide +kernel) (by decide +kernel)
  obtain ⟨error, refused, coded, -⟩ := decided.1 .formed first
  exact ⟨malformed, stale, error, refused, coded⟩

end Session

end Registrar

end WorkGate
