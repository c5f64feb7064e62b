import WorkGate.Proofs.Difficulty.Reports
import WorkGate.Proofs.Gatekeeper.Verdict

/-!
# The trail of the ceiling

The history of a gatekeeper contains the operations on its difficulty, among everything else that
was done to it, and the adjustments that they reported.  The difficulty is the one these operations
lead to, and the adjustments are the ones they report; so the adjustments of a history chain as
those of a run do.  The ceiling on every ticket is therefore the last one reported before it.
-/

namespace WorkGate.Gatekeeper

namespace Entry

/-- What the entry has done to the difficulty. -/
def operation? (entry : Entry) : Option Difficulty.Operation :=
  match entry.deed with
  | .recorded count => some (.record entry.now count)
  | .evaluated _ => some (.evaluate entry.now)
  | _ => none

def adjustment? (entry : Entry) : Option Difficulty.Adjustment :=
  match entry.deed with
  | .evaluated adjustment => some adjustment
  | _ => none

end Entry

/-- The operations on the difficulty in a history. -/
def operationsIn (history : List Entry) : List Difficulty.Operation :=
  history.filterMap Entry.operation?

/-- The adjustments reported in a history. -/
def reportsIn (history : List Entry) : List Difficulty.Adjustment :=
  history.filterMap Entry.adjustment?

section

variable {history : List Entry} {entry : Entry}

theorem operationsIn_concat :
    operationsIn (history ++ [entry]) = operationsIn history ++ entry.operation?.toList := by
  cases found : entry.operation? <;> simp [operationsIn, found]

theorem reportsIn_concat :
    reportsIn (history ++ [entry]) = reportsIn history ++ entry.adjustment?.toList := by
  cases found : entry.adjustment? <;> simp [reportsIn, found]

end

namespace Session

variable {Source : Type} {session : Session Source} {first : Difficulty}

/-- The difficulty, and what was reported about it, are those of the operations in the history. -/
structure Follows (first : Difficulty) (session : Session Source) : Prop where
  difficulty_eq : session.keeper.difficulty = first.run (operationsIn session.history)
  reports_eq : reportsIn session.history = first.reports (operationsIn session.history)

/-- One more deed is followed if the keeper and the report of it are those of its operation. -/
theorem Follows.note
    (follows : session.Follows first)
    (keeper : Gatekeeper)
    (source : Source)
    (deed : Deed)
    (moved :
      keeper.difficulty =
        session.keeper.difficulty.run
          (Entry.operation? { now := session.reading, deed }).toList)
    (reported :
      (Entry.adjustment? { now := session.reading, deed }).toList =
        session.keeper.difficulty.reports
          (Entry.operation? { now := session.reading, deed }).toList) :
    Follows first { session with keeper, source, history := session.note deed } where
  difficulty_eq := by
    rw [Session.note, operationsIn_concat, Difficulty.run_append, ← follows.difficulty_eq]
    exact moved
  reports_eq := by
    rw [Session.note, operationsIn_concat, reportsIn_concat, Difficulty.reports_append,
      ← follows.difficulty_eq, ← follows.reports_eq, reported]

variable [RandomSource Source]

/-- A verification leaves the difficulty alone, whatever its verdict. -/
theorem difficulty_verify (submission : Submission) :
    (session.step (.verify submission)).keeper.difficulty = session.keeper.difficulty := by
  cases verdict : session.keeper.verify submission session.reading with
  | error refusal => simp [step, verdict]
  | ok accepted =>
      obtain ⟨-, -, -, -, rfl⟩ := verify_eq_ok_iff.mp verdict
      rw [step_verify_of_eq_ok verdict]
      rfl

theorem follows_step (follows : session.Follows first) (action : Action) :
    (session.step action).Follows first := by
  cases action with
  | issue => exact follows.note _ _ _ rfl rfl
  | verify submission => exact follows.note _ _ _ (difficulty_verify submission) rfl
  | sweep => exact follows.note _ _ _ rfl rfl
  | evaluate => exact follows.note _ _ _ rfl rfl
  | recordSolves count => exact follows.note _ _ _ rfl rfl
  | setClock reading => exact ⟨follows.difficulty_eq, follows.reports_eq⟩

theorem follows_run (follows : session.Follows first) (actions : List Action) :
    (session.run actions).Follows first := by
  induction actions using List.reverseRecOn with
  | nil => exact follows
  | append_singleton actions action induction =>
      rw [run_concat]
      exact follows_step induction action

/-- A ticket shows the ceiling in force when it was issued. -/
theorem ceiling_of_issued
    {action : Action}
    {entry : Entry}
    {ticket : Ticket}
    (noted : (session.step action).history = session.history ++ [entry])
    (issued : entry.deed = .issued ticket) :
    ticket.ceiling = session.keeper.ceiling := by
  have last (deed : Deed) (same : session.note deed = session.history ++ [entry]) :
      deed = .issued ticket := by
    rw [← issued, ← (List.singleton_inj.mp (List.append_cancel_left same))]
  cases action with
  | issue =>
      cases last _ noted
      rfl
  | verify submission => cases last _ noted
  | sweep => cases last _ noted
  | evaluate => cases last _ noted
  | recordSolves count => cases last _ noted
  | setClock reading => simp [step] at noted

/-- The difficulty of a session with a new gatekeeper follows the law of its policy. -/
theorem exists_follows_of_create
    {policy : Policy}
    {keeper : Gatekeeper}
    (created : create policy = .ok keeper)
    (reading : Int)
    (source : Source)
    (actions : List Action) :
    ∃ law,
      Difficulty.Law.ofPolicy policy = .ok law ∧
        (Session.run { keeper, reading, source } actions).Follows (.start law) := by
  obtain ⟨law, lawful, rfl⟩ := exists_law_of_create created
  exact ⟨law, lawful, follows_run ⟨rfl, rfl⟩ actions⟩

/-- What a session with a new gatekeeper reports and shows. -/
theorem trail_of_create
    {policy : Policy}
    {keeper : Gatekeeper}
    (created : create policy = .ok keeper)
    (reading : Int)
    (source : Source)
    (actions : List Action) :
    let session := Session.run { keeper, reading, source } actions
    let first := policy.initialCeiling
    (∀ now,
      (session.keeper.evaluate now).1.Tells first policy.desiredRate.toNat
        (session.keeper.difficulty.recent now).length session.keeper.difficulty
        (session.keeper.evaluate now).2.difficulty) ∧
    Difficulty.Adjustment.Chained first (reportsIn session.history) ∧
    session.keeper.ceiling =
      Difficulty.Adjustment.lastReported first (reportsIn session.history) := by
  intro session first
  obtain ⟨law, lawful, follows⟩ := exists_follows_of_create created reading source actions
  have trail := Difficulty.trail_of_run law (operationsIn session.history)
  rwa [← follows.difficulty_eq, ← follows.reports_eq, Difficulty.Law.initial_ofPolicy lawful,
    Difficulty.Law.desired_ofPolicy lawful] at trail

/--
Every evaluation says what it does: the direction tells which case it found, and the ceiling moves
strictly where it says so.  The reports of a run chain, each from where the one before it ended,
and every ticket shows the ceiling that was reported last.
-/
theorem adjustments_tell_the_ceiling (Source : Type) [RandomSource Source] :
    (∀ (law : Difficulty.Law) (operations : List Difficulty.Operation),
      let difficulty := (Difficulty.start law).run operations
      let reports := (Difficulty.start law).reports operations
      (∀ now,
        (difficulty.evaluate now).1.Tells law.initial law.desired.toNat
          (difficulty.recent now).length difficulty (difficulty.evaluate now).2) ∧
      Difficulty.Adjustment.Chained law.initial reports ∧
      difficulty.ceiling = Difficulty.Adjustment.lastReported law.initial reports) ∧
    ∀ {policy : Policy} {keeper : Gatekeeper}, create policy = .ok keeper →
      ∀ (reading : Int) (source : Source) (actions : List Action),
        let session := Session.run { keeper, reading, source } actions
        let first := policy.initialCeiling
        (∀ now,
          (session.keeper.evaluate now).1.Tells first policy.desiredRate.toNat
            (session.keeper.difficulty.recent now).length session.keeper.difficulty
            (session.keeper.evaluate now).2.difficulty) ∧
        Difficulty.Adjustment.Chained first (reportsIn session.history) ∧
        (∀ now (source : Source),
          (session.keeper.issue now source).1.ceiling =
            Difficulty.Adjustment.lastReported first (reportsIn session.history)) ∧
        ∀ earlier entry later ticket,
          session.history = earlier ++ entry :: later → entry.deed = .issued ticket →
            ticket.ceiling = Difficulty.Adjustment.lastReported first (reportsIn earlier) := by
  refine ⟨Difficulty.trail_of_run, ?_⟩
  intro policy keeper created reading source actions session first
  obtain ⟨tells, chained, shown⟩ := trail_of_create created reading source actions
  refine ⟨tells, chained, fun _ _ => shown, ?_⟩
  intro earlier entry later ticket split issued
  obtain ⟨before, action, after, -, found, -, noted⟩ := exists_action_of_history_run rfl split
  rw [← found] at noted ⊢
  rw [ceiling_of_issued noted issued]
  exact (trail_of_create created reading source before).2.2

/-- After eleven solves an evaluation tightens, and the next ticket shows the ceiling it reports. -/
theorem ticket_after_overload :
    ∃ recorded tick last adjustment ticket,
      (Session.run { keeper := openKeeper, reading := 0, source := zeros }
          [.recordSolves 11, .evaluate, .issue]).history = [recorded, tick, last] ∧
        tick.deed = .evaluated adjustment ∧ adjustment.direction = .down ∧
          last.deed = .issued ticket ∧ ticket.ceiling = adjustment.current := by
  obtain ⟨-, trail⟩ := adjustments_tell_the_ceiling Entropy
  have overloaded := (trail create_openPolicy 0 zeros [.recordSolves 11]).1 0
  have shown := (trail create_openPolicy 0 zeros [.recordSolves 11, .evaluate, .issue]).2.2.2
  have reported := shown [_, _] _ [] _ rfl rfl
  refine ⟨_, _, _, _, _, rfl, rfl, ?_, rfl, reported⟩
  exact overloaded.down_iff.mpr (by decide +kernel)

end Session

end WorkGate.Gatekeeper
