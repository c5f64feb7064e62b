import WorkGate.Proofs.Registrar.Session

/-!
# Rejected requests leave no trace

A request over HTTP that is answered with a status in the four hundreds changes neither the
registrar nor the random source.  A registration that is answered with 200 spends its challenge and
its response nonce, counts one solve and writes one tenant.  If the store fails the answer is 500,
and all of this has happened but the write.

A session from which the rejected requests are deleted therefore gives the same answers to all
others and ends in the same state.
-/

namespace WorkGate

/-- The response blames the request: its status is in the four hundreds. -/
def Http.Response.IsRejection (response : Http.Response) : Prop :=
  400 ≤ response.status ∧ response.status < 500

instance (response : Http.Response) : Decidable response.IsRejection :=
  inferInstanceAs (Decidable (_ ∧ _))

namespace Http

open Registrar

variable {Source : Type} [RandomSource Source]
variable {request : Request} {now : Int} {registrar : Registrar} {source : Source}
variable {exchange : Exchange Source}

/-- A posted registration is rejected without effect, or spent but not stored, or enrolled. -/
theorem posting_cases
    (posts : request.PostsRegistration)
    (answered : answer request now registrar source = exchange) :
    exchange.source = source ∧
      ((exchange.response.status = 400 ∧
          (∀ content,
            request.registration = .ok content → ¬ registrar.Admissible content now) ∧
              exchange.registrar = registrar) ∨
        (exchange.response.status = 500 ∧
          ∃ content fault,
            request.registration = .ok content ∧ registrar.Admissible content now ∧
              registrar.store.writeFault = some fault ∧
                exchange.registrar = registrar.accept content now) ∨
        (exchange.response.status = 200 ∧
          ∃ content,
            request.registration = .ok content ∧ registrar.Admissible content now ∧
              registrar.store.writeFault = none ∧
                exchange.registrar =
                  (registrar.accept content now).enroll content.data now)) := by
  subst answered
  cases posted : request.posted? with
  | none =>
      obtain ⟨sameRegistrar, sameSource, status⟩ :=
        answer_of_unreadable now registrar source posts posted
      have unread (content : RegistrationRequest) : request.registration ≠ .ok content := by
        intro read
        rw [posted?_eq_some_iff.mpr ⟨posts, read⟩] at posted
        cases posted
      exact ⟨sameSource, Or.inl ⟨status, fun content read => (unread content read).elim,
        sameRegistrar⟩⟩
  | some content =>
      obtain ⟨registered, sameSource, status⟩ := answer_of_posted now registrar source posted
      obtain ⟨-, read⟩ := posted?_eq_some_iff.mp posted
      have registration : Registration content now registrar _ _ := registration_register
      rw [← registered] at registration
      refine ⟨sameSource, ?_⟩
      generalize (registrar.register content now).1 = outcome at status registration
      generalize (answer request now registrar source).registrar = after at registration ⊢
      cases registration with
      | refused inadmissible client =>
          refine Or.inl ⟨status.trans client, ?_, rfl⟩
          intro other readOther
          obtain rfl := Except.ok.inj (read.symm.trans readOther)
          exact inadmissible
      | unstored admissible fails =>
          exact Or.inr (Or.inl ⟨status, content, _, read, admissible, fails, rfl⟩)
      | enrolled admissible works =>
          exact Or.inr (Or.inr ⟨status, content, read, admissible, works, rfl⟩)

/-- A rejected request has changed nothing. -/
theorem eq_of_isRejection
    (answered : answer request now registrar source = exchange)
    (rejected : exchange.response.IsRejection) :
    exchange.registrar = registrar ∧ exchange.source = source := by
  obtain ⟨lower, upper⟩ := rejected
  by_cases posts : request.PostsRegistration
  · rcases posting_cases posts answered with
      ⟨sameSource, ⟨-, -, sameRegistrar⟩ | ⟨status, -⟩ | ⟨status, -⟩⟩
    · exact ⟨sameRegistrar, sameSource⟩
    · omega
    · omega
  · subst answered
    have unreadable : request.posted? = none := if_neg posts
    by_cases asks : request.AsksChallenge
    · have status := (answer_of_asksChallenge now registrar source asks).2.2
      omega
    · exact answer_of_idle now registrar source unreadable asks

/-- What a posted registration has changed, by the status of its answer. -/
theorem effect_of_posting
    (keyed : registrar.store.tenants.Keyed)
    (posts : request.PostsRegistration)
    (answered : answer request now registrar source = exchange) :
    exchange.source = source ∧
      (exchange.response.IsRejection ∨ exchange.response.status = 200 ∨
        exchange.response.status = 500) ∧
      (exchange.response.status = 200 →
        ∃ content,
          request.registration = .ok content ∧ registrar.Admissible content now ∧
            exchange.registrar =
              { registrar.accept content now with
                store :=
                  { registrar.store with
                    tenants :=
                      Table.insert content.data.did (content.data.record now)
                        registrar.store.tenants } }) ∧
      (exchange.response.status = 500 →
        ∃ content fault,
          request.registration = .ok content ∧ registrar.Admissible content now ∧
            registrar.store.writeFault = some fault ∧
              exchange.registrar = registrar.accept content now) := by
  obtain ⟨sameSource, outcome⟩ := posting_cases posts answered
  refine ⟨sameSource, ?_⟩
  rcases outcome with
    ⟨status, -, -⟩ |
      ⟨status, content, fault, read, admissible, fails, after⟩ |
      ⟨status, content, read, admissible, works, after⟩
  · have rejected : exchange.response.IsRejection := by simp [Response.IsRejection, status]
    refine ⟨Or.inl rejected, ?_, ?_⟩
    · intro registered
      omega
    · intro failed
      omega
  · refine ⟨Or.inr (Or.inr status), ?_, ?_⟩
    · intro registered
      omega
    · intro failed
      exact ⟨content, fault, read, admissible, fails, after⟩
  · refine ⟨Or.inr (Or.inl status), ?_, ?_⟩
    · intro registered
      refine ⟨content, read, admissible, ?_⟩
      rw [after, enroll, ← keyed.enroll_eq_insert]
      rfl
    · intro failed
      omega

end Http

namespace Registrar

namespace Entry

/-- The response of an exchange over HTTP. -/
def response? (entry : Entry) : Option Http.Response :=
  match entry.deed with
  | .answered _ response => some response
  | _ => none

/-- The entry is a request over HTTP that was rejected. -/
def IsRejection (entry : Entry) : Prop :=
  ∃ response ∈ entry.response?, response.IsRejection

instance (entry : Entry) : Decidable entry.IsRejection :=
  inferInstanceAs (Decidable (∃ response ∈ entry.response?, response.IsRejection))

end Entry

namespace Session

variable {Source : Type} [RandomSource Source] {session : Session Source}

/-- A posted registration is rejected according to its outcome. -/
theorem isRejection_entry_iff
    {request : Http.Request}
    {content : RegistrationRequest}
    (posted : request.posted? = some content) :
    (session.entry (.exchange request)).IsRejection ↔
      400 ≤ Http.outcomeStatus (session.registrar.register content session.reading).1 ∧
        Http.outcomeStatus (session.registrar.register content session.reading).1 < 500 := by
  obtain ⟨-, -, status⟩ :=
    Http.answer_of_posted session.reading session.registrar session.source posted
  rw [← status]
  constructor
  · rintro ⟨response, answered, rejection⟩
    obtain rfl := Option.some.inj answered
    exact rejection
  · intro rejection
    exact ⟨_, rfl, rejection⟩

/-- An accepted registration is rejected when it is posted again, even if it was not stored. -/
theorem isRejection_posted_again
    {request : Http.Request}
    {content : RegistrationRequest}
    (posted : request.posted? = some content)
    (admissible : session.registrar.Admissible content session.reading) :
    ((session.step (.exchange request)).entry (.exchange request)).IsRejection := by
  have inadmissible (now : Int) :
      ¬ (session.step (.exchange request)).registrar.Admissible content now := by
    intro again
    have unspent := again.unspent
    have registration : Registration content session.reading session.registrar _ _ :=
      registration_register
    rw [← registrar_step_of_posted posted] at registration
    generalize (session.registrar.register content session.reading).1 = outcome at registration
    generalize (session.step (.exchange request)).registrar = after at registration unspent
    cases registration with
    | refused inadmissible client => exact inadmissible admissible
    | unstored admissible fails => simp [accept] at unspent
    | enrolled admissible works => simp [accept, enroll] at unspent
  obtain ⟨refusal, refused, client⟩ := exists_refusal_of_not_admissible (inadmissible _)
  rw [isRejection_entry_iff posted, refused, Http.outcomeStatus, client]
  decide

theorem step_of_isRejection
    {action : Action}
    (rejected : (session.entry action).IsRejection) :
    session.step action = session := by
  obtain ⟨response, answered, rejection⟩ := rejected
  cases action with
  | exchange request =>
      obtain rfl := Option.some.inj answered
      obtain ⟨sameRegistrar, sameSource⟩ := Http.eq_of_isRejection rfl rejection
      simp only [step, perform, sameRegistrar, sameSource]
  | issue => cases answered
  | register request => cases answered
  | updateTerms terms => cases answered
  | sweep => cases answered
  | evaluate => cases answered
  | setClock reading => cases answered
  | outage reads writes => cases answered

/-- The actions without the requests that are rejected. -/
def withoutRejected (session : Session Source) : List Action → List Action
  | [] => []
  | action :: rest =>
      if (session.entry action).IsRejection then (session.step action).withoutRejected rest
      else action :: (session.step action).withoutRejected rest

theorem run_withoutRejected (actions : List Action) :
    session.run (session.withoutRejected actions) = session.run actions := by
  induction actions generalizing session with
  | nil => rfl
  | cons action rest induction =>
      rw [run_cons, ← induction, withoutRejected]
      split
      · next rejected => rw [step_of_isRejection rejected]
      · rw [run_cons]

/-- The requests that are not rejected are answered as before. -/
theorem history_withoutRejected (actions : List Action) :
    session.history (session.withoutRejected actions) =
      (session.history actions).filter fun entry => ¬ entry.IsRejection := by
  induction actions generalizing session with
  | nil => rfl
  | cons action rest induction =>
      rw [history_cons, withoutRejected]
      by_cases rejected : (session.entry action).IsRejection
      · rw [if_pos rejected, List.filter_cons_of_neg (by simpa using rejected), ← induction]
        rw [step_of_isRejection rejected]
      · rw [if_neg rejected, List.filter_cons_of_pos (by simpa using rejected), ← induction,
          history_cons]

/-- Rejected requests change nothing, and accepted ones change what they claim to and no more. -/
theorem rejected_leave_no_trace
    {policy : Policy}
    {terms : Option Terms}
    {store : TenantStore}
    {registrar : Registrar}
    (created : create policy terms store = .ok registrar)
    (keyed : store.tenants.Keyed)
    (reading : Int)
    (source : Source)
    (actions : List Action) :
    let start : Session Source := { registrar, reading, source }
    let session := start.run actions
    (∀ request : Http.Request,
      let exchange := Http.answer request session.reading session.registrar session.source
      (exchange.response.IsRejection →
        exchange.registrar = session.registrar ∧ exchange.source = session.source) ∧
      (request.PostsRegistration →
        exchange.source = session.source ∧
          (exchange.response.IsRejection ∨ exchange.response.status = 200 ∨
            exchange.response.status = 500) ∧
          (exchange.response.status = 200 →
            ∃ content,
              request.registration = .ok content ∧
                session.registrar.Admissible content session.reading ∧
                  exchange.registrar =
                    { session.registrar.accept content session.reading with
                      store :=
                        { session.registrar.store with
                          tenants :=
                            Table.insert content.data.did (content.data.record session.reading)
                              session.registrar.store.tenants } }) ∧
          (exchange.response.status = 500 →
            ∃ content fault,
              request.registration = .ok content ∧
                session.registrar.Admissible content session.reading ∧
                  session.registrar.store.writeFault = some fault ∧
                    exchange.registrar =
                      session.registrar.accept content session.reading))) ∧
    start.run (start.withoutRejected actions) = session ∧
      start.history (start.withoutRejected actions) =
        (start.history actions).filter fun entry => ¬ entry.IsRejection := by
  intro start session
  refine ⟨?_, run_withoutRejected actions, history_withoutRejected actions⟩
  intro request exchange
  refine ⟨Http.eq_of_isRejection rfl, ?_⟩
  intro posts
  have keyedNow : session.registrar.store.tenants.Keyed := by
    obtain ⟨gatekeeper, -, rfl⟩ := exists_gatekeeper_of_create created
    exact keyed_run keyed actions
  exact Http.effect_of_posting keyedNow posts rfl

def zeroPost : Http.Request where
  method := "POST"
  target := "/registration"
  contentType := some "application/json"
  body := utf8 zeroRequest.toJson

theorem posted?_zeroPost : zeroPost.posted? = some zeroRequest := by
  decide +kernel

/-- Posting the same registration again leaves the session as it was after the first time. -/
theorem run_posted_twice :
    openSession.withoutRejected [.issue, .exchange zeroPost, .exchange zeroPost] =
        [.issue, .exchange zeroPost] ∧
      openSession.run [.issue, .exchange zeroPost] =
        openSession.run [.issue, .exchange zeroPost, .exchange zeroPost] := by
  have accepted : ¬ (askedSession.entry (.exchange zeroPost)).IsRejection := by
    rw [isRejection_entry_iff posted?_zeroPost, register_of_admissible admissible_zeroRequest rfl]
    decide
  have rejected :
      ((askedSession.step (.exchange zeroPost)).entry (.exchange zeroPost)).IsRejection :=
    isRejection_posted_again posted?_zeroPost admissible_zeroRequest
  have kept :
      openSession.withoutRejected [.issue, .exchange zeroPost, .exchange zeroPost] =
        [.issue, .exchange zeroPost] := by
    have issued : ¬ (openSession.entry .issue).IsRejection := by
      rintro ⟨response, answered, -⟩
      cases answered
    rw [withoutRejected, if_neg issued, ← askedSession, withoutRejected, if_neg accepted,
      withoutRejected, if_pos rejected, withoutRejected]
  refine ⟨kept, ?_⟩
  rw [← kept]
  exact (rejected_leave_no_trace create_openPolicy TenantTable.keyed_empty 0 _ _).2.1

end Session

end Registrar

end WorkGate
