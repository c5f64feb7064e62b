import WorkGate.Gatekeeper
import WorkGate.Proofs.Policy
import WorkGate.Proofs.Schedule.Agenda

/-!
# What the background runs do to a gatekeeper

While a gatekeeper is attended, the runs of its agenda are carried out one after the other.  A run
evaluates the difficulty or sweeps what has expired, at the clock reading of its own moment, and is
reported once.  Nothing else happens to the gatekeeper, but its tasks move on.

A gatekeeper that is started has one task for each chore.  If the intervals of the timer fire at the
multiples of their periods, then a chore is owed once for every whole period since the start.
-/

namespace WorkGate

namespace Chore

/-- The time from one performance of a chore to the next. -/
def period (policy : Policy) : Chore → Duration
  | evaluation => policy.evaluationInterval
  | sweep => policy.sweepInterval

theorem period_pos {policy : Policy} (valid : policy.validate = .ok ()) (chore : Chore) :
    0 < (chore.period policy).nanos := by
  obtain ⟨-, -, evaluation, -, -, sweep⟩ := Policy.validate_eq_ok_iff.mp valid
  cases chore with
  | evaluation => exact evaluation
  | sweep => exact sweep

end Chore

/-- The chore that an event is the report of. -/
def Event.chore? : Event → Option Chore
  | .difficultyIncreased .. => some .evaluation
  | .difficultyDecreased .. => some .evaluation
  | .difficultyAtInitial _ => some .evaluation
  | .expiredSwept .. => some .sweep
  | _ => none

namespace Gatekeeper

variable {keeper : Gatekeeper}

/-! ## Carrying out runs -/

/-- The gatekeeper after a run: the difficulty is evaluated, or what has expired is swept. -/
def carryOut (reading : Nat → Int) (keeper : Gatekeeper) (run : Agenda.Run Chore) : Gatekeeper :=
  match run.job with
  | .evaluation => (keeper.evaluate (reading run.elapsed)).2
  | .sweep => (keeper.sweep (reading run.elapsed)).2

theorem perform_eq_carryOut
    (reading : Nat → Int)
    (run : Agenda.Run Chore)
    (keeper : Gatekeeper) :
    (keeper.perform run.job (reading run.elapsed)).2 = keeper.carryOut reading run := by
  cases job : run.job <;> simp only [carryOut, perform, job]

@[simp]
theorem chore?_perform (chore : Chore) (now : Int) (keeper : Gatekeeper) :
    (keeper.perform chore now).1.chore? = some chore := by
  cases chore with
  | sweep => rfl
  | evaluation =>
      simp only [perform, adjustmentEvent]
      cases (keeper.evaluate now).1 <;> rfl

/-- Each run is carried out and adds the report of its chore, the latest first. -/
theorem foldl_perform
    (reading : Nat → Int)
    (runs : List (Agenda.Run Chore))
    (events : List Event)
    (keeper : Gatekeeper) :
    let result :=
      runs.foldl
        (fun (events, keeper) run =>
          let (event, after) := keeper.perform run.job (reading run.elapsed)
          (event :: events, after))
        (events, keeper)
    result.1.reverse.filterMap Event.chore? =
        events.reverse.filterMap Event.chore? ++ runs.map Agenda.Run.job ∧
      result.2 = runs.foldl (carryOut reading) keeper := by
  induction runs generalizing events keeper with
  | nil => simp
  | cons run rest induction =>
      have later := induction ((keeper.perform run.job (reading run.elapsed)).1 :: events)
        (keeper.perform run.job (reading run.elapsed)).2
      simpa [perform_eq_carryOut] using later

/-- Attending a gatekeeper carries out the runs of its agenda and moves its tasks on. -/
theorem attend_eq (reading : Nat → Int) (elapsed : Nat) (keeper : Gatekeeper) :
    (keeper.attend reading elapsed).2 =
      { (keeper.tasks.advance elapsed).1.foldl (carryOut reading) keeper with
        tasks := (keeper.tasks.advance elapsed).2 } := by
  rw [← (foldl_perform reading (keeper.tasks.advance elapsed).1 [] keeper).2]
  rfl

/-- What is reported meanwhile are the chores of the runs, in order. -/
theorem chores_attend (reading : Nat → Int) (elapsed : Nat) (keeper : Gatekeeper) :
    (keeper.attend reading elapsed).1.filterMap Event.chore? =
      (keeper.tasks.advance elapsed).1.map Agenda.Run.job :=
  (foldl_perform reading (keeper.tasks.advance elapsed).1 [] keeper).1

/-- What runs do to a gatekeeper does not depend on its tasks. -/
theorem foldl_carryOut_with_tasks
    (reading : Nat → Int)
    (runs : List (Agenda.Run Chore))
    (tasks : Agenda Chore)
    (keeper : Gatekeeper) :
    runs.foldl (carryOut reading) { keeper with tasks } =
      { runs.foldl (carryOut reading) keeper with tasks } := by
  induction runs generalizing keeper with
  | nil => rfl
  | cons run rest induction =>
      have first :
          carryOut reading { keeper with tasks } run =
            { carryOut reading keeper run with tasks } := by
        cases job : run.job <;> simp only [carryOut, job] <;> rfl
      rw [List.foldl_cons, List.foldl_cons, first, induction]

theorem policy_foldl_carryOut
    (reading : Nat → Int)
    (runs : List (Agenda.Run Chore))
    (keeper : Gatekeeper) :
    (runs.foldl (carryOut reading) keeper).policy = keeper.policy := by
  induction runs generalizing keeper with
  | nil => rfl
  | cons run rest induction =>
      rw [List.foldl_cons, induction, carryOut]
      cases run.job <;> rfl

theorem policy_attend (reading : Nat → Int) (elapsed : Nat) (keeper : Gatekeeper) :
    (keeper.attend reading elapsed).2.policy = keeper.policy := by
  rw [attend_eq]
  exact policy_foldl_carryOut reading _ keeper

theorem tasks_attend (reading : Nat → Int) (elapsed : Nat) (keeper : Gatekeeper) :
    (keeper.attend reading elapsed).2.tasks = (keeper.tasks.advance elapsed).2 := by
  rw [attend_eq]

/-! ## Starting and stopping -/

theorem start_of_running {timer : Timer} {elapsed : Nat} (running : keeper.isRunning) :
    keeper.start timer elapsed = ([.alreadyRunning], keeper) := by
  simp [start, running]

theorem chores_start (timer : Timer) (elapsed : Nat) (keeper : Gatekeeper) :
    (keeper.start timer elapsed).1.filterMap Event.chore? = [] := by
  unfold start
  split <;> simp [Event.chore?]

theorem chores_stop (keeper : Gatekeeper) : keeper.stop.1.filterMap Event.chore? = [] := by
  simp only [stop, List.filterMap_flatMap, List.flatMap_eq_nil_iff]
  intro task _
  simp only [PeriodicTask.stopReport]
  split <;> rfl

/-- The tasks of a gatekeeper that was started when so many milliseconds had passed. -/
def background (timer : Timer) (policy : Policy) (elapsed : Nat) : Agenda Chore :=
  [.start timer .evaluation Chore.evaluation.name (Chore.evaluation.period policy) elapsed none,
    .start timer .sweep Chore.sweep.name (Chore.sweep.period policy) elapsed none]

theorem caughtUp_background (timer : Timer) (policy : Policy) (elapsed : Nat) :
    (background timer policy elapsed).caughtUp elapsed = background timer policy elapsed := by
  apply Agenda.caughtUp_of_quiet
  simp only [Agenda.QuietUntil, background, List.forall_mem_cons]
  refine ⟨?_, ?_, nofun⟩
  · exact PeriodicTask.not_isDue_start _ _ _ _ _ _
  · exact PeriodicTask.not_isDue_start _ _ _ _ _ _

theorem start_of_idle (timer : Timer) (elapsed : Nat) (idle : keeper.tasks = []) :
    (keeper.start timer elapsed).2 =
      { keeper with tasks := background timer keeper.policy elapsed } := by
  simp [start, isRunning, idle, background, Chore.period]

/-- Starting a gatekeeper changes nothing but its tasks. -/
theorem exists_start_eq (timer : Timer) (elapsed : Nat) (keeper : Gatekeeper) :
    ∃ tasks, (keeper.start timer elapsed).2 = { keeper with tasks } := by
  unfold start
  split
  · exact ⟨keeper.tasks, rfl⟩
  · exact ⟨_, rfl⟩

/-- Each chore is owed by its own task alone. -/
theorem owed_background_eq
    (timer : Timer)
    (policy : Policy)
    (started limit : Nat)
    (chore : Chore) :
    (background timer policy started).owed limit chore =
      PeriodicTask.owed limit
        (.start timer chore chore.name (chore.period policy) started none) := by
  have apart : ¬ Chore.sweep = Chore.evaluation := by decide
  -- Not by `simp`, which makes the kernel count what is owed.
  rw [background, Agenda.owed, Agenda.owed, Agenda.owed, Nat.add_zero, PeriodicTask.job_start,
    PeriodicTask.job_start]
  cases chore with
  | evaluation => rw [if_pos (Eq.refl Chore.evaluation), if_neg apart, Nat.add_zero]
  | sweep => rw [if_neg (Ne.symm apart), if_pos (Eq.refl Chore.sweep), Nat.zero_add]

/-- Each chore is owed once for every whole period since the start. -/
theorem owed_background
    {timer : Timer}
    {policy : Policy}
    {started : Nat}
    (valid : policy.validate = .ok ())
    {chore : Chore}
    (fires : timer.Fires (chore.period policy) started)
    (limit : Nat) :
    (background timer policy started).owed limit chore =
      (limit - started) * nanosPerMilli / (chore.period policy).nanos := by
  rw [owed_background_eq, PeriodicTask.owed_start (chore.period_pos valid) fires,
    Option.filter_none, Option.elim_none]

end Gatekeeper

end WorkGate
