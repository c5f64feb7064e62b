import WorkGate.Proofs.Registrar.Alike

/-!
# Independent registrations commute

Requests are independent if they differ in challenge, in response nonce whatever its case, and in
tenant.  A registration writes only what belongs to its own request, so it looks the same to an
independent one whether it comes before or after.  Two independent registrations therefore commute
up to the order of entries, and so does any number of them: each gets the answer it would get alone,
and the sessions that different orders lead to cannot be told apart later.
-/

namespace WorkGate

/-- The requests differ in challenge, in response nonce and in tenant. -/
structure RegistrationRequest.Independent (left right : RegistrationRequest) : Prop where
  challenge_ne : left.proof.challengeNonce ≠ right.proof.challengeNonce
  response_ne : Nonce.fold left.proof.responseNonce ≠ Nonce.fold right.proof.responseNonce
  did_ne : left.data.did ≠ right.data.did

theorem RegistrationRequest.Independent.symm
    {left right : RegistrationRequest}
    (independent : left.Independent right) :
    right.Independent left :=
  ⟨independent.challenge_ne.symm, independent.response_ne.symm, independent.did_ne.symm⟩

theorem RegistrationRequest.pairwise_independent_of_perm
    {requests reordered : List RegistrationRequest}
    (perm : requests.Perm reordered)
    (independent : requests.Pairwise Independent) :
    reordered.Pairwise Independent :=
  (perm.pairwise_iff Independent.symm).mp independent

namespace Registrar

variable {request other : RegistrationRequest} {registrar : Registrar} {now : Int}

/-! ## What a registration leaves to others -/

theorem AgreesOn.refl (request : RegistrationRequest) (registrar : Registrar) :
    AgreesOn request registrar registrar :=
  ⟨rfl, rfl, rfl, rfl, rfl⟩

theorem agreesOn_accept (independent : request.Independent other) :
    AgreesOn request (registrar.accept other now) registrar where
  terms_eq := rfl
  spent_eq := Table.get?_insert_of_ne independent.response_ne _ _
  lifetime_eq := rfl
  issued_eq := Table.get?_erase_of_ne independent.challenge_ne _
  ceiling_eq := rfl

/-- An independent request does not see that another one was registered. -/
theorem agreesOn_register (independent : request.Independent other) :
    AgreesOn request (registrar.register other now).2 registrar := by
  rw [register_eq]
  cases registrar.refusal? other now with
  | some refusal => exact .refl request registrar
  | none =>
      have accepted : AgreesOn request (registrar.accept other now) registrar :=
        agreesOn_accept independent
      simp only [settle]
      split
      · exact accepted
      · exact { accepted with }

theorem writeFault_register :
    (registrar.register other now).2.store.writeFault = registrar.store.writeFault := by
  rw [register_eq]
  cases registrar.refusal? other now with
  | some refusal => rfl
  | none =>
      simp only [settle]
      split
      · rfl
      · rfl

/-- A registration gets the same answer after an independent one. -/
theorem outcome_register_register (independent : request.Independent other) :
    ((registrar.register other now).2.register request now).1 =
      (registrar.register request now).1 := by
  rw [register_eq request, register_eq request, (agreesOn_register independent).refusal?_eq now]
  cases registrar.refusal? request now with
  | some refusal => rfl
  | none =>
      simp only [settle, writeFault_register]
      cases registrar.store.writeFault with
      | some fault => rfl
      | none => rfl

/-! ## Two registrations -/

theorem alike_accept_comm (independent : request.Independent other) :
    ((registrar.accept request now).accept other now).Alike
      ((registrar.accept other now).accept request now) where
  gatekeeper :=
    { policy_eq := rfl
      difficulty := .refl _
      challenges :=
        { lifetime_eq := rfl
          issued := by
            simp only [accept, Table.erase_comm _ request.proof.challengeNonce]
            exact .refl _ }
      spent :=
        { retention_eq := rfl
          spent := Table.alike_insert_comm _ independent.response_ne _ _ }
      tasks_eq := rfl }
  terms_eq := rfl
  store := .refl _

/-- Tenants are enrolled in any order. -/
theorem alike_enroll_comm (independent : request.Independent other) :
    ((registrar.enroll request.data now).enroll other.data now).Alike
      ((registrar.enroll other.data now).enroll request.data now) where
  gatekeeper := .refl _
  terms_eq := rfl
  store :=
    { tenants := TenantTable.alike_upsert_comm _ independent.did_ne _ _ _ _
      readFault_eq := rfl
      writeFault_eq := rfl }

theorem alike_settle_comm (independent : request.Independent other) :
    ((registrar.settle request now).2.settle other now).2.Alike
      ((registrar.settle other now).2.settle request now).2 := by
  have accepted :
      ((registrar.accept request now).accept other now).Alike
        ((registrar.accept other now).accept request now) :=
    alike_accept_comm independent
  cases works : registrar.store.writeFault with
  | some fault =>
      have otherLater :
          (registrar.accept request now).settle other now = (.error (.store fault), _) :=
        settle_of_writeFault_eq_some works
      have requestLater :
          (registrar.accept other now).settle request now = (.error (.store fault), _) :=
        settle_of_writeFault_eq_some works
      rw [settle_of_writeFault_eq_some works, settle_of_writeFault_eq_some works, otherLater,
        requestLater]
      exact accepted
  | none =>
      have otherLater :
          ((registrar.accept request now).enroll request.data now).settle other now = (.ok (), _) :=
        settle_of_writeFault_eq_none works
      have requestLater :
          ((registrar.accept other now).enroll other.data now).settle request now = (.ok (), _) :=
        settle_of_writeFault_eq_none works
      rw [settle_of_writeFault_eq_none works, settle_of_writeFault_eq_none works, otherLater,
        requestLater]
      -- Acceptance and enrolment write different parts, so both acceptances can be moved first.
      exact ((accepted.enroll request.data now).enroll other.data now).trans
        (alike_enroll_comm independent)

/-- Two independent registrations commute. -/
theorem alike_register_comm (independent : request.Independent other) :
    ((registrar.register request now).2.register other now).2.Alike
      ((registrar.register other now).2.register request now).2 := by
  rw [register_eq other, register_eq request now (registrar.register other now).2,
    (agreesOn_register independent).refusal?_eq now,
    (agreesOn_register independent.symm).refusal?_eq now]
  rw [register_eq request, register_eq other]
  cases registrar.refusal? request now with
  | some refusal =>
      cases registrar.refusal? other now with
      | some refusal => exact .refl _
      | none => exact .refl _
  | none =>
      cases registrar.refusal? other now with
      | some refusal => exact .refl _
      | none => exact alike_settle_comm independent

/-! ## Any number of registrations -/

namespace Session

variable {Source : Type} [RandomSource Source] {session : Session Source}
variable {requests reordered : List RegistrationRequest}

theorem entry_register_step (independent : request.Independent other) :
    (session.step (.register other)).entry (.register request) =
      session.entry (.register request) := by
  have outcome :
      ((session.step (.register other)).registrar.register request session.reading).1 =
        (session.registrar.register request session.reading).1 :=
    outcome_register_register independent
  simp only [entry, perform]
  exact congrArg (fun outcome => Entry.mk session.reading (.registered request outcome)) outcome

/-- Each of several independent registrations gets the answer it would get alone. -/
theorem history_register
    (independent : requests.Pairwise RegistrationRequest.Independent) :
    session.history (requests.map .register) =
      requests.map fun request => session.entry (.register request) := by
  induction requests generalizing session with
  | nil => rfl
  | cons first others induction =>
      obtain ⟨apart, others_independent⟩ := List.pairwise_cons.mp independent
      rw [List.map_cons, history_cons, induction others_independent, List.map_cons]
      congr 1
      apply List.map_congr_left
      intro request member
      exact entry_register_step (apart request member).symm

theorem alike_run_register
    (perm : requests.Perm reordered)
    (independent : requests.Pairwise RegistrationRequest.Independent) :
    (session.run (requests.map .register)).Alike (session.run (reordered.map .register)) := by
  induction perm generalizing session with
  | nil => exact .refl session
  | cons first others induction =>
      exact induction (List.pairwise_cons.mp independent).2
  | swap second first others =>
      have apart : first.Independent second :=
        (List.pairwise_cons.mp independent).1 second List.mem_cons_self
      have swapped :
          ((session.step (.register first)).step (.register second)).Alike
            ((session.step (.register second)).step (.register first)) :=
        ⟨alike_register_comm apart, rfl, rfl⟩
      exact swapped.run (others.map .register)
  | trans first second firstInduction secondInduction =>
      have apart := RegistrationRequest.pairwise_independent_of_perm first independent
      exact (firstInduction independent).trans (secondInduction apart)

/--
Independent registrations can be handled in any order: each gets the same answer, the sessions
behind them are alike, and nothing that is done later tells the orders apart.
-/
theorem independent_registrations_commute
    (session : Session Source)
    (perm : requests.Perm reordered)
    (independent : requests.Pairwise RegistrationRequest.Independent) :
    let ordered := session.run (requests.map .register)
    let shuffled := session.run (reordered.map .register)
    session.history (requests.map .register) =
        requests.map (fun request => session.entry (.register request)) ∧
      session.history (reordered.map .register) =
        reordered.map (fun request => session.entry (.register request)) ∧
        ordered.Alike shuffled ∧
          ∀ later : List Action,
            ordered.history later = shuffled.history later ∧
              (ordered.run later).Alike (shuffled.run later) ∧
                ∀ did,
                  (ordered.run later).registrar.status did =
                    (shuffled.run later).registrar.status did := by
  intro ordered shuffled
  have apart := RegistrationRequest.pairwise_independent_of_perm perm independent
  have alike : ordered.Alike shuffled := alike_run_register perm independent
  refine ⟨history_register independent, history_register apart, alike, ?_⟩
  intro later
  exact ⟨alike.history_eq later, alike.run later, (alike.run later).registrar.status_eq⟩

/-- A second request, on a challenge that was never issued. -/
def strayRequest : RegistrationRequest where
  data := { did := "did:example:stray", termsHash := "" }
  proof :=
    { challengeNonce := String.ofList (List.replicate 64 '1')
      responseNonce := String.ofList (List.replicate 64 'B') }

/-- A request that is accepted and one that is refused can be handled in either order. -/
theorem zeroRequest_commutes_with_strayRequest :
    zeroRequest.Independent strayRequest ∧
      (askedSession.run [.register zeroRequest, .register strayRequest]).Alike
        (askedSession.run [.register strayRequest, .register zeroRequest]) := by
  have independent : zeroRequest.Independent strayRequest :=
    ⟨by decide +kernel, by decide +kernel, by decide +kernel⟩
  obtain ⟨-, -, alike, -⟩ :=
    independent_registrations_commute askedSession
      (List.Perm.swap strayRequest zeroRequest [])
      (by simpa using independent)
  exact ⟨independent, alike⟩

end Session

end Registrar

end WorkGate
