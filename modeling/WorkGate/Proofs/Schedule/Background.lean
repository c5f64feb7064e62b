import WorkGate.Deployment
import WorkGate.Proofs.Gatekeeper.Verdict
import WorkGate.Proofs.Schedule.Attendance
import WorkGate.Proofs.Schedule.Phases
import WorkGate.Proofs.Trace

/-!
# The background tasks of a deployment

A deployment is started and stopped, and time passes.  While its background tasks run, each of them
runs its chore once for every whole period since the start that found them idle, no matter how often
it is started again meanwhile and how the time is cut up; while they do not run, nothing is run.
What happens to the gatekeeper is that these runs are carried out, one after the other, and nothing
else changes.

The commands alone tell how long the tasks have been running in each phase, and what a phase
contributes is the number of whole periods in it.  The invariant is that the tasks of a running
gatekeeper are those of the beginning of the phase, caught up with the time that has passed.
-/

namespace WorkGate

namespace Background

/-! ## The invariant -/

/-- The tasks are those of the beginning of the present phase, caught up with passing time. -/
structure Follows
    (timer : Timer)
    (policy : Policy)
    (phases : Phases)
    (elapsed : Nat)
    (keeper : Gatekeeper) :
    Prop where
  policy_eq : keeper.policy = policy
  idle : phases.present = none → keeper.tasks = []
  running (length : Nat) :
    phases.present = some length →
      ∃ started,
        started + length = elapsed ∧
          keeper.tasks.Perm ((Gatekeeper.background timer policy started).caughtUp elapsed)

namespace Follows

variable {timer : Timer} {policy : Policy} {phases : Phases} {elapsed : Nat} {keeper : Gatekeeper}

theorem isRunning_iff (follows : Follows timer policy phases elapsed keeper) :
    keeper.isRunning ↔ phases.present.isSome := by
  cases present : phases.present with
  | none => simp [Gatekeeper.isRunning, follows.idle present]
  | some length =>
      obtain ⟨started, -, perm⟩ := follows.running length present
      have count := perm.length_eq
      simp only [Agenda.caughtUp, Gatekeeper.background, List.length_map, List.length_cons] at count
      simp [Gatekeeper.isRunning, ← List.length_pos_iff, count]

/-- There is one task for each chore, or none. -/
theorem length_filter_le (follows : Follows timer policy phases elapsed keeper) (chore : Chore) :
    (keeper.tasks.filter (·.job = chore)).length ≤ 1 := by
  cases present : phases.present with
  | none => simp [follows.idle present]
  | some length =>
      obtain ⟨started, -, perm⟩ := follows.running length present
      rw [(perm.filter _).length_eq]
      cases chore <;> simp [Agenda.caughtUp, Gatekeeper.background, PeriodicTask.start]

/-- All that was due up to now has been run. -/
theorem quiet (follows : Follows timer policy phases elapsed keeper) :
    keeper.tasks.QuietUntil elapsed := by
  cases present : phases.present with
  | none =>
      rw [follows.idle present]
      nofun
  | some length =>
      obtain ⟨started, -, perm⟩ := follows.running length present
      intro task member
      obtain ⟨first, -, rfl⟩ := List.mem_map.mp (perm.mem_iff.mp member)
      exact first.not_isDue_caughtUp elapsed

theorem start (follows : Follows timer policy phases elapsed keeper) :
    Follows timer policy (phases.step .start) elapsed (keeper.start timer elapsed).2 := by
  cases present : phases.present with
  | none =>
      have began : (phases.step .start).present = some 0 := by simp [Phases.step, present]
      rw [Gatekeeper.start_of_idle timer elapsed (follows.idle present), follows.policy_eq]
      refine ⟨rfl, fun absent => ?_, fun length now => ⟨elapsed, ?_, ?_⟩⟩
      · rw [began] at absent
        cases absent
      · rw [← Option.some.inj (began.symm.trans now), Nat.add_zero]
      · rw [Gatekeeper.caughtUp_background]
  | some length =>
      have running : keeper.isRunning := by
        rw [follows.isRunning_iff, present, Option.isSome_some]
      rwa [Phases.step_start_of_present present, Gatekeeper.start_of_running running]

theorem stop (follows : Follows timer policy phases elapsed keeper) :
    Follows timer policy (phases.step .stop) elapsed keeper.stop.2 where
  policy_eq := follows.policy_eq
  idle _ := rfl
  running _ := nofun

/-- Nothing is missed, however the time that passes is cut up. -/
theorem pass
    (follows : Follows timer policy phases elapsed keeper)
    (reading : Nat → Int)
    (millis : Nat) :
    Follows timer policy (phases.step (.pass millis)) (elapsed + millis)
      (keeper.attend reading (elapsed + millis)).2 where
  policy_eq := (keeper.policy_attend reading _).trans follows.policy_eq
  idle absent := by
    have tasks := (keeper.tasks.serves_advance (elapsed + millis)).2
    rw [follows.idle (Option.map_eq_none_iff.mp absent)] at tasks
    rw [Gatekeeper.tasks_attend, follows.idle (Option.map_eq_none_iff.mp absent)]
    exact tasks.eq_nil
  running longer grown := by
    obtain ⟨length, present, rfl⟩ := Option.map_eq_some_iff.mp grown
    obtain ⟨started, since, perm⟩ := follows.running length present
    have whole := Agenda.caughtUp_caughtUp (Nat.le_add_right elapsed millis)
      (Gatekeeper.background timer policy started)
    refine ⟨started, by omega, ?_⟩
    rw [Gatekeeper.tasks_attend, ← whole]
    exact (keeper.tasks.serves_advance (elapsed + millis)).2.trans (perm.map _)

/-- What runs while time passes is what is added to the whole periods of the present phase. -/
theorem count_runs
    (follows : Follows timer policy phases elapsed keeper)
    (valid : policy.validate = .ok ())
    {chore : Chore}
    (fires : ∀ started, started ≤ elapsed → timer.Fires (chore.period policy) started)
    (millis : Nat) :
    ((keeper.tasks.advance (elapsed + millis)).1.map Agenda.Run.job).count chore +
        wholePeriods (chore.period policy) phases.lengths =
      wholePeriods (chore.period policy) (phases.step (.pass millis)).lengths := by
  rw [(keeper.tasks.serves_advance _).1]
  cases present : phases.present with
  | none =>
      rw [follows.idle present, Phases.step_pass_of_absent present]
      exact Nat.zero_add _
  | some length =>
      obtain ⟨started, rfl, perm⟩ := follows.running length present
      have onTime := fires started (Nat.le_add_right started length)
      have parts :=
        Agenda.owed_add_owed_caughtUp (Nat.le_add_right (started + length) millis) chore
          (Gatekeeper.background timer policy started)
      rw [Gatekeeper.owed_background valid onTime, Gatekeeper.owed_background valid onTime] at parts
      rw [Agenda.owed_perm perm]
      have before : started + length - started = length := by omega
      have after : started + length + millis - started = length + millis := by omega
      rw [before, after] at parts
      simp only [Phases.lengths, Phases.step, present, Option.map_some, Option.toList_some,
        List.singleton_append, wholePeriods]
      omega

end Follows

end Background

namespace Deployment

open Background

/-! ## Runs of a deployment -/

/-- Carries out a command and collects what is reported. -/
def execute (deployment : Deployment) : Command → List Event × Deployment
  | .start => (deployment.start.events, deployment.start.after)
  | .stop => (deployment.stop.events, deployment.stop.after)
  | .pass millis => ((deployment.pass millis).events, (deployment.pass millis).after)

/-- The deployment after some commands. -/
def executeAll (deployment : Deployment) (commands : List Command) : Deployment :=
  Trace.run execute deployment commands

/-- All that is reported in the course of some commands. -/
def reports (deployment : Deployment) (commands : List Command) : List Event :=
  (Trace.history execute deployment commands).flatMap Trace.Entry.reply

/-- The runs that a command leads to: those of the agenda while time passes. -/
def runsIn (deployment : Deployment) : Command → List (Agenda.Run Chore)
  | .start => []
  | .stop => []
  | .pass millis => (deployment.gatekeeper.tasks.advance (deployment.elapsed + millis)).1

/-- All runs in the course of some commands. -/
def runs (deployment : Deployment) (commands : List Command) : List (Agenda.Run Chore) :=
  (Trace.history execute deployment commands).flatMap fun entry => entry.before.runsIn entry.call

/-- What the clock shows after so many milliseconds. -/
def reading (deployment : Deployment) (elapsed : Nat) : Int :=
  deployment.clock.now elapsed

variable {deployment : Deployment} {policy : Policy} {phases : Phases}

theorem executeAll_concat (deployment : Deployment) (commands : List Command) (command : Command) :
    deployment.executeAll (commands ++ [command]) =
      ((deployment.executeAll commands).execute command).2 :=
  Trace.run_concat execute deployment commands command

theorem reports_concat (deployment : Deployment) (commands : List Command) (command : Command) :
    deployment.reports (commands ++ [command]) =
      deployment.reports commands ++ ((deployment.executeAll commands).execute command).1 := by
  rw [reports, Trace.history_concat, List.flatMap_append, List.flatMap_singleton]
  rfl

theorem runs_concat (deployment : Deployment) (commands : List Command) (command : Command) :
    deployment.runs (commands ++ [command]) =
      deployment.runs commands ++ (deployment.executeAll commands).runsIn command := by
  rw [runs, Trace.history_concat, List.flatMap_append, List.flatMap_singleton]
  rfl

theorem execute_start_of_running (running : deployment.gatekeeper.isRunning) :
    deployment.execute .start = ([.alreadyRunning], deployment) := by
  simp only [execute, start, Gatekeeper.start_of_running running]
  rfl

/-- A command changes nothing but the gatekeeper and the time that has passed. -/
theorem execute_eq (deployment : Deployment) (command : Command) :
    (deployment.execute command).2 =
      { deployment.withGatekeeper (deployment.execute command).2.gatekeeper with
        elapsed := deployment.elapsed + passed [command] } := by
  cases command <;> rfl

theorem executeAll_eq (deployment : Deployment) (commands : List Command) :
    deployment.executeAll commands =
      { deployment.withGatekeeper (deployment.executeAll commands).gatekeeper with
        elapsed := deployment.elapsed + passed commands } := by
  induction commands using List.reverseRecOn with
  | nil => rfl
  | append_singleton commands command induction =>
      rw [executeAll_concat, execute_eq, passed_append, ← Nat.add_assoc]
      generalize ((deployment.executeAll commands).execute command).2.gatekeeper = keeper
      rw [induction]
      rfl

theorem elapsed_executeAll (deployment : Deployment) (commands : List Command) :
    (deployment.executeAll commands).elapsed = deployment.elapsed + passed commands := by
  rw [executeAll_eq]

theorem timer_executeAll (deployment : Deployment) (commands : List Command) :
    (deployment.executeAll commands).timer = deployment.timer := by
  rw [executeAll_eq]
  rfl

theorem reading_executeAll (deployment : Deployment) (commands : List Command) :
    (deployment.executeAll commands).reading = deployment.reading := by
  rw [executeAll_eq]
  rfl

/-- A command does to the gatekeeper what its runs do, and moves the tasks. -/
theorem exists_gatekeeper_execute_eq (deployment : Deployment) (command : Command) :
    ∃ tasks,
      (deployment.execute command).2.gatekeeper =
        { (deployment.runsIn command).foldl (Gatekeeper.carryOut deployment.reading)
            deployment.gatekeeper with
          tasks } := by
  cases command with
  | start => exact deployment.gatekeeper.exists_start_eq deployment.timer deployment.elapsed
  | stop => exact ⟨[], rfl⟩
  | pass millis =>
      exact ⟨_, deployment.gatekeeper.attend_eq deployment.reading (deployment.elapsed + millis)⟩

/-- All that is done to the gatekeeper is done by the runs, one after the other. -/
theorem exists_gatekeeper_executeAll_eq (deployment : Deployment) (commands : List Command) :
    ∃ tasks,
      (deployment.executeAll commands).gatekeeper =
        { (deployment.runs commands).foldl (Gatekeeper.carryOut deployment.reading)
            deployment.gatekeeper with
          tasks } := by
  induction commands using List.reverseRecOn with
  | nil => exact ⟨deployment.gatekeeper.tasks, rfl⟩
  | append_singleton commands command induction =>
      obtain ⟨before, carried⟩ := induction
      obtain ⟨tasks, last⟩ :=
        exists_gatekeeper_execute_eq (deployment.executeAll commands) command
      rw [reading_executeAll, carried, Gatekeeper.foldl_carryOut_with_tasks] at last
      refine ⟨tasks, ?_⟩
      rw [executeAll_concat, last, runs_concat, List.foldl_append]

/-- Each run is reported, and nothing else is reported as one. -/
theorem chores_execute (deployment : Deployment) (command : Command) :
    (deployment.execute command).1.filterMap Event.chore? =
      (deployment.runsIn command).map Agenda.Run.job := by
  cases command with
  | start => exact Gatekeeper.chores_start deployment.timer deployment.elapsed deployment.gatekeeper
  | stop => exact Gatekeeper.chores_stop deployment.gatekeeper
  | pass millis => exact Gatekeeper.chores_attend deployment.reading _ deployment.gatekeeper

theorem chores_reports (deployment : Deployment) (commands : List Command) :
    (deployment.reports commands).filterMap Event.chore? =
      (deployment.runs commands).map Agenda.Run.job := by
  induction commands using List.reverseRecOn with
  | nil => rfl
  | append_singleton commands command induction =>
      rw [reports_concat, runs_concat, List.filterMap_append, List.map_append, induction,
        chores_execute]

/-! ## Following the commands -/

theorem follows_execute
    (follows :
      Follows deployment.timer policy phases deployment.elapsed deployment.gatekeeper)
    (command : Command) :
    Follows deployment.timer policy (phases.step command)
      (deployment.execute command).2.elapsed (deployment.execute command).2.gatekeeper := by
  cases command with
  | start => exact follows.start
  | stop => exact follows.stop
  | pass millis => exact follows.pass deployment.reading millis

/-- An idle deployment and commands lead to the tasks of the phase that the commands tell. -/
theorem follows_executeAll
    (idle : deployment.gatekeeper.tasks = [])
    (commands : List Command) :
    Follows deployment.timer deployment.gatekeeper.policy (Phases.of commands)
      (deployment.executeAll commands).elapsed (deployment.executeAll commands).gatekeeper := by
  induction commands using List.reverseRecOn with
  | nil => exact { policy_eq := rfl, idle := fun _ => idle, running := nofun }
  | append_singleton commands command induction =>
      rw [← timer_executeAll deployment commands] at induction ⊢
      rw [executeAll_concat, Phases.of_concat]
      exact follows_execute induction command

/-- What a command runs is what it adds to the whole periods of the phases. -/
theorem count_runsIn
    (follows :
      Follows deployment.timer policy phases deployment.elapsed deployment.gatekeeper)
    (valid : policy.validate = .ok ())
    {chore : Chore}
    (fires :
      ∀ started,
        started ≤ deployment.elapsed → deployment.timer.Fires (chore.period policy) started)
    (command : Command) :
    ((deployment.runsIn command).map Agenda.Run.job).count chore +
        wholePeriods (chore.period policy) phases.lengths =
      wholePeriods (chore.period policy) (phases.step command).lengths := by
  cases command with
  | pass millis => exact follows.count_runs valid fires millis
  | start => exact (Nat.zero_add _).trans (Phases.wholePeriods_step_switch phases _ rfl).symm
  | stop => exact (Nat.zero_add _).trans (Phases.wholePeriods_step_switch phases _ rfl).symm

/-- The intervals of the chores fire on time, whenever in the course of the commands they begin. -/
def FiresOnTime (deployment : Deployment) (commands : List Command) : Prop :=
  ∀ (chore : Chore) (started : Nat),
    started ≤ deployment.elapsed + passed commands →
      deployment.timer.Fires (chore.period deployment.gatekeeper.policy) started

theorem FiresOnTime.of_append
    {before later : List Command}
    (fires : deployment.FiresOnTime (before ++ later)) :
    deployment.FiresOnTime before := by
  intro chore started within
  apply fires chore started
  rw [passed_append]
  omega

theorem count_runs
    (idle : deployment.gatekeeper.tasks = [])
    (valid : deployment.gatekeeper.policy.validate = .ok ())
    {commands : List Command}
    (fires : deployment.FiresOnTime commands)
    (chore : Chore) :
    ((deployment.runs commands).map Agenda.Run.job).count chore =
      wholePeriods (chore.period deployment.gatekeeper.policy) (Phases.of commands).lengths := by
  induction commands using List.reverseRecOn with
  | nil => rfl
  | append_singleton commands command induction =>
      have follows := follows_executeAll idle commands
      have firesLast (started : Nat) (within : started ≤ deployment.elapsed + passed commands) :=
        fires.of_append chore started within
      rw [← timer_executeAll deployment commands] at follows firesLast
      rw [← elapsed_executeAll] at firesLast
      rw [runs_concat, List.map_append, List.count_append, induction fires.of_append,
        Phases.of_concat, ← count_runsIn follows valid firesLast, Nat.add_comm]

/-- The background tasks do what is expected of them in the course of some commands. -/
structure RunsOnTime (deployment : Deployment) (commands : List Command) : Prop where
  /-- Each chore is run once for every whole period in each phase. -/
  count_runs_eq (chore : Chore) :
    ((deployment.runs commands).map Agenda.Run.job).count chore =
      wholePeriods (chore.period deployment.gatekeeper.policy) (Phases.of commands).lengths
  /--
  The runs evaluate and sweep one after the other, each at the clock reading of its moment, and this
  is all that happens to the gatekeeper, apart from its tasks.
  -/
  gatekeeper_eq :
    ∃ tasks,
      (deployment.executeAll commands).gatekeeper =
        { (deployment.runs commands).foldl (Gatekeeper.carryOut deployment.reading)
            deployment.gatekeeper with
          tasks }
  /-- Nothing changes but the gatekeeper and the time that has passed. -/
  executeAll_eq :
    deployment.executeAll commands =
      { deployment.withGatekeeper (deployment.executeAll commands).gatekeeper with
        elapsed := deployment.elapsed + passed commands }
  /-- Each run is reported once. -/
  chores_reports_eq :
    (deployment.reports commands).filterMap Event.chore? =
      (deployment.runs commands).map Agenda.Run.job
  /-- The last of the commands to start and to stop tells whether the tasks are running. -/
  isRunning_iff :
    (deployment.executeAll commands).gatekeeper.isRunning ↔
      (commands.filter Command.isSwitch).getLast? = some .start
  length_filter_le (chore : Chore) :
    ((deployment.executeAll commands).gatekeeper.tasks.filter (·.job = chore)).length ≤ 1
  /-- A start changes nothing while the tasks are running. -/
  start_of_running :
    (deployment.executeAll commands).gatekeeper.isRunning →
      (deployment.executeAll commands).execute .start =
        ([.alreadyRunning], deployment.executeAll commands)
  /-- A chore is run only while time passes and the tasks are running, and after the time before. -/
  exists_pass_of_run (before later : List Command) (command : Command) (run : Agenda.Run Chore) :
    commands = before ++ command :: later →
      run ∈ (deployment.executeAll before).runsIn command →
        (deployment.executeAll before).gatekeeper.isRunning ∧
          ∃ millis,
            command = .pass millis ∧
              deployment.elapsed + passed before < run.elapsed ∧
                run.elapsed ≤ deployment.elapsed + passed before + millis
  /-- After a restart the first period is a whole one. -/
  count_runs_restart (before : List Command) (millis : Nat) (chore : Chore) :
    commands = before ++ [.stop, .start, .pass millis] →
      ((deployment.runs commands).map Agenda.Run.job).count chore =
        ((deployment.runs before).map Agenda.Run.job).count chore +
          millis * nanosPerMilli / (chore.period deployment.gatekeeper.policy).nanos

/-- From an idle deployment on the background tasks run on time. -/
theorem background_runs_on_time
    (idle : deployment.gatekeeper.tasks = [])
    (valid : deployment.gatekeeper.policy.validate = .ok ())
    (commands : List Command)
    (fires : deployment.FiresOnTime commands) :
    deployment.RunsOnTime commands where
  count_runs_eq := count_runs idle valid fires
  gatekeeper_eq := exists_gatekeeper_executeAll_eq deployment commands
  executeAll_eq := executeAll_eq deployment commands
  chores_reports_eq := chores_reports deployment commands
  isRunning_iff :=
    (follows_executeAll idle commands).isRunning_iff.trans (Phases.isSome_present_iff commands)
  length_filter_le := (follows_executeAll idle commands).length_filter_le
  start_of_running := execute_start_of_running
  exists_pass_of_run before later command run _ member := by
    have follows := follows_executeAll idle before
    cases command with
    | start => cases member
    | stop => cases member
    | pass millis =>
        have between := Agenda.elapsed_of_mem_advance follows.quiet member
        rw [elapsed_executeAll] at between
        refine ⟨?_, millis, rfl, between⟩
        by_contra idleBefore
        have none : (deployment.executeAll before).gatekeeper.tasks = [] := by
          simpa [Gatekeeper.isRunning] using idleBefore
        rw [runsIn, none, Agenda.advance_nil] at member
        cases member
  count_runs_restart before millis chore split := by
    rw [split] at fires ⊢
    rw [count_runs idle valid fires, count_runs idle valid fires.of_append]
    simp [Phases.of, Phases.step, Phases.lengths, wholePeriods, Nat.add_comm]

/-- An idle deployment whose difficulty is evaluated every 10 seconds and swept every 75. -/
def openDeployment : Deployment where
  clock := .manual 0
  timer := .exact
  entropy := Gatekeeper.Session.zeros
  registrar := { gatekeeper := Gatekeeper.Session.openKeeper }

/-- Half a minute of running, with a start in between, and 80 seconds after a restart. -/
def interruptedCommands : List Command :=
  [.start, .pass 25000, .start, .pass 5000, .stop, .pass 60000, .start, .pass 80000]

/-- Half a minute holds three evaluations, and 80 seconds hold eight and a sweep. -/
theorem interrupted_run_on_time :
    ((openDeployment.runs interruptedCommands).map Agenda.Run.job).count .evaluation = 11 ∧
      ((openDeployment.runs interruptedCommands).map Agenda.Run.job).count .sweep = 1 ∧
        (openDeployment.executeAll interruptedCommands).gatekeeper.isRunning := by
  have fires : openDeployment.FiresOnTime interruptedCommands := fun chore started _ =>
    Timer.fires_exact _ started
  have onTime : openDeployment.RunsOnTime interruptedCommands :=
    background_runs_on_time rfl rfl interruptedCommands fires
  refine ⟨?_, ?_, onTime.isRunning_iff.mpr rfl⟩
  · rw [onTime.count_runs_eq]
    decide +kernel
  · rw [onTime.count_runs_eq]
    decide +kernel

end Deployment

end WorkGate
