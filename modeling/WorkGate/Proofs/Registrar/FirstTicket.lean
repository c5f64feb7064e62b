import WorkGate.Proofs.Difficulty.Reports
import WorkGate.Proofs.Registrar.Honest

/-!
# The first challenge

Until somebody asks for a challenge, nothing can be redeemed: whatever is posted is refused, and no
solve is counted.  So evaluations find an empty window and leave the ceiling where it began, and
sweeps find nothing to drop.  The first challenge is therefore issued under the highest ceiling of
the policy, however long it takes until it is asked for.
-/

namespace WorkGate

/-- A window without solves leaves the difficulty as it is at the beginning. -/
theorem Difficulty.evaluate_start (law : Law) (now : Int) :
    (evaluate now (start law)).2 = start law := by
  have slow : ((start law).recent now).length ≤ law.desired.toNat := Nat.zero_le _
  rw [evaluate_of_top slow (Nat.le_refl _)]
  rfl

namespace Registrar

/-- The action asks for a challenge, directly or over HTTP. -/
def Action.AsksChallenge : Action → Prop
  | .issue => True
  | .exchange request => request.AsksChallenge
  | _ => False

/-- No challenge is open, and the difficulty is as it was at the beginning. -/
structure Unasked (law : Difficulty.Law) (registrar : Registrar) : Prop where
  closed : ∀ nonce, registrar.gatekeeper.challenges.issued.get? nonce = none
  difficulty_eq : registrar.gatekeeper.difficulty = .start law

namespace Unasked

variable {law : Difficulty.Law} {registrar : Registrar}

/-- A request cannot be admissible as long as no challenge is open. -/
theorem register
    (unasked : Unasked law registrar)
    (request : RegistrationRequest)
    (now : Int) :
    Unasked law (registrar.register request now).2 := by
  have inadmissible : ¬ registrar.Admissible request now := by
    intro admissible
    obtain ⟨issuedAt, found, -⟩ := admissible.fresh
    rw [unasked.closed] at found
    cases found
  obtain ⟨refusal, refused, -⟩ := exists_refusal_of_not_admissible inadmissible
  rw [refused]
  exact unasked

theorem sweep (unasked : Unasked law registrar) (now : Int) :
    Unasked law { registrar with gatekeeper := (registrar.gatekeeper.sweep now).2 } where
  closed nonce := by
    apply Option.eq_none_iff_forall_ne_some.mpr
    intro issuedAt found
    have before := (OpenChallenges.get?_sweep_eq_some_iff.mp found).1
    rw [unasked.closed] at before
    cases before
  difficulty_eq := unasked.difficulty_eq

theorem evaluate (unasked : Unasked law registrar) (now : Int) :
    Unasked law { registrar with gatekeeper := (registrar.gatekeeper.evaluate now).2 } where
  closed := unasked.closed
  difficulty_eq := by
    have same := Difficulty.evaluate_start law now
    rw [← unasked.difficulty_eq] at same
    exact same.trans unasked.difficulty_eq

theorem answer
    {Source : Type} [RandomSource Source]
    {request : Http.Request}
    (unasked : Unasked law registrar)
    (unasking : ¬ request.AsksChallenge)
    (now : Int)
    (source : Source) :
    Unasked law (Http.answer request now registrar source).registrar := by
  cases posted : request.posted? with
  | some content =>
      rw [(Http.answer_of_posted now registrar source posted).1]
      exact unasked.register content now
  | none =>
      rw [(Http.answer_of_idle now registrar source posted unasking).1]
      exact unasked

end Unasked

/-- Nothing has been asked of a new registrar. -/
theorem exists_unasked_of_create
    {policy : Policy}
    {terms : Option Terms}
    {store : TenantStore}
    {registrar : Registrar}
    (created : create policy terms store = .ok registrar) :
    ∃ law, Difficulty.Law.ofPolicy policy = .ok law ∧ Unasked law registrar := by
  obtain ⟨gatekeeper, made, rfl⟩ := exists_gatekeeper_of_create created
  obtain ⟨law, lawful, rfl⟩ := Gatekeeper.exists_law_of_create made
  exact ⟨law, lawful, Table.get?_empty, rfl⟩

namespace Session

variable {Source : Type} [RandomSource Source] {session : Session Source} {law : Difficulty.Law}

theorem unasked_step
    (unasked : Unasked law session.registrar)
    {action : Action}
    (unasking : ¬ action.AsksChallenge) :
    Unasked law (session.step action).registrar := by
  cases action with
  | exchange request => exact unasked.answer unasking session.reading session.source
  | issue => exact absurd trivial unasking
  | register request => exact unasked.register request session.reading
  | updateTerms terms => exact ⟨unasked.closed, unasked.difficulty_eq⟩
  | sweep => exact unasked.sweep session.reading
  | evaluate => exact unasked.evaluate session.reading
  | setClock reading => exact unasked
  | outage reads writes => exact ⟨unasked.closed, unasked.difficulty_eq⟩

theorem unasked_run
    (unasked : Unasked law session.registrar)
    {actions : List Action}
    (unasking : ∀ action ∈ actions, ¬ action.AsksChallenge) :
    Unasked law (session.run actions).registrar := by
  induction actions using List.reverseRecOn with
  | nil => exact unasked
  | append_singleton actions action induction =>
      rw [run_concat]
      apply unasked_step
      · exact induction fun earlier member => unasking earlier (List.mem_append_left _ member)
      · exact unasking action (by simp)

/-- Until a challenge is asked for, the ceiling is the highest one of the policy. -/
theorem ceiling_run_of_unasking
    {policy : Policy}
    {terms : Option Terms}
    {store : TenantStore}
    {registrar : Registrar}
    (created : create policy terms store = .ok registrar)
    (reading : Int)
    (source : Source)
    {actions : List Action}
    (unasking : ∀ action ∈ actions, ¬ action.AsksChallenge) :
    (({ registrar, reading, source } : Session Source).run actions).registrar.gatekeeper.ceiling =
      policy.initialCeiling := by
  obtain ⟨law, lawful, unasked⟩ := exists_unasked_of_create created
  rw [Gatekeeper.ceiling, (unasked_run unasked unasking).difficulty_eq,
    ← Difficulty.Law.initial_ofPolicy lawful]
  rfl

end Session

end Registrar

end WorkGate
