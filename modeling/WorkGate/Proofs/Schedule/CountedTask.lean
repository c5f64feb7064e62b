import WorkGate.CountedTask
import WorkGate.Proofs.Schedule.Agenda
import WorkGate.Proofs.Trace

/-!
# How often a counted task has run

A counted task is started, time passes in pieces, and at some point the task is stopped.  What
counts is the time that passes before the stop: the task has run once for every whole period in it,
up to the run on which its job fails.  So it makes no difference into how many pieces the time is
cut, and there is no run after the stop and none after the failure.

The invariant is that the task is the one that was started, caught up with the time that counts, and
that the runs are those that it owed by then.
-/

namespace WorkGate

namespace PeriodicTask

variable {Job : Type} {timer : Timer} {job : Job} {name : String} {period : Duration}
variable {failsOn : Option Nat}
variable (positive : 0 < period.nanos) (fires : timer.Fires period 0) (fromOne : failsOn ≠ some 0)

include positive fires fromOne

/--
A task that is started at time zero owes one run for every whole period, up to the run that fails.
-/
theorem owed_start_zero (limit : Nat) :
    let periods := limit * nanosPerMilli / period.nanos
    (start timer job name period 0 failsOn).owed limit = failsOn.elim periods (min · periods) := by
  have kept : failsOn.filter (0 < ·) = failsOn := by
    cases failsOn with
    | none => rfl
    | some run =>
        have counted : 0 < run := Nat.pos_of_ne_zero fun none => fromOne (by rw [none])
        exact Option.filter_some_pos (by simpa using counted)
  dsimp only
  rw [owed_start positive fires, kept, Nat.sub_zero]

/-- Such a task has ended exactly if the run that fails has come. -/
theorem due_caughtUp_start_zero_eq_none_iff (limit : Nat) :
    ((start timer job name period 0 failsOn).caughtUp limit).due = none ↔
      ∃ run, failsOn = some run ∧ run ≤ limit * nanosPerMilli / period.nanos := by
  rw [due_caughtUp_eq_none_iff (due_start positive fires), owed_start_zero positive fires fromOne]
  generalize limit * nanosPerMilli / period.nanos = periods
  cases failsOn with
  | none => simp [start]
  | some run =>
      have counted : 0 < run := Nat.pos_of_ne_zero fun none => fromOne (by rw [none])
      have succeeds : (start timer job name period 0 (some run)).successes = some (run - 1) := by
        simp [start, counted]
      simp only [succeeds, Option.some.injEq, exists_eq_left', Option.elim_some]
      omega

end PeriodicTask

namespace CountedTask

/-! ## Calls -/

/-- What is done to a counted task once it is started. -/
inductive Call where
  | pass (millis : Nat)
  | stop
deriving DecidableEq

/-- The milliseconds that pass before the first stop. -/
def activeMillis : List Call → Nat
  | [] => 0
  | .pass millis :: rest => millis + activeMillis rest
  | .stop :: _ => 0

theorem activeMillis_append_of_stopped
    {calls : List Call}
    (stopped : .stop ∈ calls)
    (later : List Call) :
    activeMillis (calls ++ later) = activeMillis calls := by
  induction calls with
  | nil => cases stopped
  | cons call rest induction =>
      cases call with
      | stop => rfl
      | pass millis =>
          have behind : .stop ∈ rest := by simpa using stopped
          simp only [List.cons_append, activeMillis, induction behind]

theorem activeMillis_append_of_running
    {calls : List Call}
    (running : .stop ∉ calls)
    (later : List Call) :
    activeMillis (calls ++ later) = activeMillis calls + activeMillis later := by
  induction calls with
  | nil => simp [activeMillis]
  | cons call rest induction =>
      cases call with
      | stop => simp at running
      | pass millis =>
          have behind : .stop ∉ rest := by simpa using running
          simp only [List.cons_append, activeMillis, induction behind]
          omega

theorem activeMillis_le_append (calls later : List Call) :
    activeMillis calls ≤ activeMillis (calls ++ later) := by
  by_cases stopped : .stop ∈ calls
  · exact Nat.le_of_eq (activeMillis_append_of_stopped stopped later).symm
  · rw [activeMillis_append_of_running stopped]
    exact Nat.le_add_right _ _

/-- Answers a call; a stop returns the name of the task and reports how it ended. -/
def perform (counted : CountedTask) : Call → (Option String × List Event) × CountedTask
  | .pass millis => ((none, []), counted.pass millis)
  | .stop => ((counted.stop.1, counted.stop.2.1), counted.stop.2.2)

/-- The counted task that was started and has gone through some calls. -/
def after
    (timer : Timer)
    (name : String)
    (period : Duration)
    (failsOn : Option Nat)
    (calls : List Call) :
    CountedTask :=
  Trace.run perform (start timer name period failsOn).1 calls

/-! ## Passing time -/

/-- An agenda of one job performs as many runs as are owed. -/
theorem length_advance (limit : Nat) (agenda : Agenda Unit) :
    (agenda.advance limit).1.length = agenda.owed limit () := by
  rw [← (agenda.serves_advance limit).1 (), List.count_eq_length.mpr fun _ _ => rfl,
    List.length_map]

theorem runs_pass (millis : Nat) (counted : CountedTask) :
    (counted.pass millis).runs =
      counted.runs + Agenda.owed (counted.elapsed + millis) () counted.task.toList := by
  simp only [pass, length_advance]

theorem task_pass (millis : Nat) (counted : CountedTask) :
    (counted.pass millis).task =
      counted.task.map (PeriodicTask.caughtUp (counted.elapsed + millis)) := by
  have perm := (Agenda.serves_advance (counted.elapsed + millis) counted.task.toList).2
  simp only [pass]
  cases running : counted.task with
  | none =>
      rw [running, Option.toList_none] at perm
      rw [Option.toList_none, perm.eq_nil, List.head?_nil, Option.map_none]
  | some task =>
      rw [running, Option.toList_some] at perm
      rw [Option.toList_some, List.perm_singleton.mp perm, List.head?_cons, Option.map_some]

/-! ## The invariant -/

/-- The first task has caught up with the time before the first stop, and its runs were counted. -/
structure Follows (first : PeriodicTask Unit) (calls : List Call) (counted : CountedTask) :
    Prop where
  runs_eq : counted.runs = first.owed (activeMillis calls)
  elapsed_eq : .stop ∉ calls → counted.elapsed = activeMillis calls
  task_eq : .stop ∉ calls → counted.task = some (first.caughtUp (activeMillis calls))
  stopped : .stop ∈ calls → counted.task = none

namespace Follows

variable {first : PeriodicTask Unit} {calls : List Call} {counted : CountedTask}

/-- Nothing is missed, however the time that passes is cut up. -/
theorem pass (follows : Follows first calls counted) (millis : Nat) :
    Follows first (calls ++ [.pass millis]) (counted.pass millis) := by
  by_cases stopped : .stop ∈ calls
  · have idle : (counted.pass millis).task = none := by
      rw [task_pass, follows.stopped stopped, Option.map_none]
    have still : .stop ∈ calls ++ [.pass millis] := List.mem_append_left _ stopped
    refine ⟨?_, fun running => absurd still running, fun running => absurd still running,
      fun _ => idle⟩
    rw [runs_pass, follows.stopped stopped, activeMillis_append_of_stopped stopped,
      follows.runs_eq, Option.toList_none, Agenda.owed, Nat.add_zero]
  · have longer :
        activeMillis (calls ++ [.pass millis]) = activeMillis calls + millis :=
      activeMillis_append_of_running stopped _
    have parts := first.catchUp_caughtUp (Nat.le_add_right (activeMillis calls) millis)
    refine ⟨?_, fun _ => ?_, fun _ => ?_, fun halted => absurd (by simpa using halted) stopped⟩
    · -- Not by `rfl`, which makes the kernel catch up with the time that passes.
      have mine : (first.caughtUp (activeMillis calls)).job = () := Subsingleton.elim _ _
      rw [runs_pass, follows.runs_eq, follows.elapsed_eq stopped, follows.task_eq stopped, longer,
        Option.toList_some, Agenda.owed, Agenda.owed, if_pos mine, Nat.add_zero, parts.1]
    · rw [longer, ← follows.elapsed_eq stopped]
      rfl
    · rw [task_pass, follows.task_eq stopped, follows.elapsed_eq stopped, longer, Option.map_some,
        parts.2]

theorem stop (follows : Follows first calls counted) :
    Follows first (calls ++ [.stop]) counted.stop.2.2 := by
  have halted : .stop ∈ calls ++ [.stop] := by simp
  have idle : counted.stop.2.2.task = none := by
    simp only [CountedTask.stop]
    split
    · assumption
    · rfl
  have same : counted.stop.2.2.runs = counted.runs := by
    simp only [CountedTask.stop]
    split <;> rfl
  have noLonger : activeMillis (calls ++ [.stop]) = activeMillis calls := by
    by_cases stopped : .stop ∈ calls
    · exact activeMillis_append_of_stopped stopped _
    · exact activeMillis_append_of_running stopped _
  refine ⟨?_, fun running => absurd halted running, fun running => absurd halted running,
    fun _ => idle⟩
  rw [same, noLonger, follows.runs_eq]

theorem perform (follows : Follows first calls counted) (call : Call) :
    Follows first (calls ++ [call]) (counted.perform call).2 := by
  cases call with
  | pass millis => exact follows.pass millis
  | stop => exact follows.stop

end Follows

variable {timer : Timer} {name : String} {period : Duration} {failsOn : Option Nat}

theorem follows_after
    (timer : Timer)
    (name : String)
    (period : Duration)
    (failsOn : Option Nat)
    (calls : List Call) :
    Follows (.start timer () name period 0 failsOn) calls
      (after timer name period failsOn calls) := by
  have idle := PeriodicTask.not_isDue_start timer () name period 0 failsOn
  induction calls using List.reverseRecOn with
  | nil =>
      refine ⟨?_, fun _ => rfl, fun _ => ?_, nofun⟩
      · exact (PeriodicTask.owed_of_not_due idle).symm
      · exact congrArg some (PeriodicTask.caughtUp_of_not_due idle).symm
  | append_singleton calls call induction =>
      rw [after, Trace.run_concat]
      exact induction.perform call

/-! ## Counting the runs -/

/-- The whole periods that pass before the first stop. -/
def wholePeriods (period : Duration) (calls : List Call) : Nat :=
  activeMillis calls * nanosPerMilli / period.nanos

/-- The task does what is expected of it in the course of some calls. -/
structure RunsOncePerPeriod
    (timer : Timer)
    (name : String)
    (period : Duration)
    (failsOn : Option Nat)
    (calls : List Call) :
    Prop where
  /-- There is a run for every whole period, up to the run that fails. -/
  runs_eq :
    (after timer name period failsOn calls).runs =
      failsOn.elim (wholePeriods period calls) (min · (wholePeriods period calls))
  /-- The first run waits for a period. -/
  runs_eq_zero :
    activeMillis calls * nanosPerMilli < period.nanos →
      (after timer name period failsOn calls).runs = 0
  /-- It does not matter how the time is cut up. -/
  runs_of_activeMillis_eq (other : List Call) :
    activeMillis other = activeMillis calls →
      (after timer name period failsOn other).runs = (after timer name period failsOn calls).runs
  /-- There is no run after a stop. -/
  runs_of_stopped (later : List Call) :
    .stop ∈ calls →
      (after timer name period failsOn (calls ++ later)).runs =
        (after timer name period failsOn calls).runs
  /-- There is no run after the one that fails. -/
  runs_of_failed (run : Nat) (later : List Call) :
    failsOn = some run → run ≤ wholePeriods period calls →
      (after timer name period failsOn calls).runs = run ∧
        (after timer name period failsOn (calls ++ later)).runs = run
  /-- The first stop returns, whether the task is still running or has failed. -/
  stop_eq :
    .stop ∉ calls →
      ((after timer name period failsOn calls).perform .stop).1 =
        (some name,
          [if failsOn.any (· ≤ wholePeriods period calls) then .taskEndedAbnormally name
            else .taskStopped name])

/-- The first stop returns the name, and reports a failure if the run that fails has come. -/
theorem stop_after_of_running
    (positive : 0 < period.nanos)
    (fires : timer.Fires period 0)
    (fromOne : failsOn ≠ some 0)
    {calls : List Call}
    (running : .stop ∉ calls) :
    ((after timer name period failsOn calls).perform .stop).1 =
      (some name,
        [if failsOn.any (· ≤ wholePeriods period calls) then .taskEndedAbnormally name
          else .taskStopped name]) := by
  let caught := (PeriodicTask.start timer () name period 0 failsOn).caughtUp (activeMillis calls)
  have task : (after timer name period failsOn calls).task = some caught :=
    (follows_after timer name period failsOn calls).task_eq running
  have named : caught.name = name := PeriodicTask.name_caughtUp _ _
  have ended : caught.due = none ↔ ∃ run, failsOn = some run ∧ run ≤ wholePeriods period calls :=
    PeriodicTask.due_caughtUp_start_zero_eq_none_iff positive fires fromOne (activeMillis calls)
  rw [perform, stop, task]
  simp only [PeriodicTask.stopReport, named]
  by_cases failed : failsOn.any (· ≤ wholePeriods period calls)
  · rw [if_pos failed, ended.mpr (by simpa [Option.any_eq_true] using failed)]
    rfl
  · have going := mt ended.mp (by simpa [Option.any_eq_true] using failed)
    rw [if_neg failed, if_pos (Option.isSome_iff_ne_none.mpr going)]

/--
Where the interval fires at the multiples of the period, a task runs once for every whole period
before it is stopped, up to the run that fails.
-/
theorem runs_once_per_period
    (positive : 0 < period.nanos)
    (fires : timer.Fires period 0)
    (fromOne : failsOn ≠ some 0)
    (calls : List Call) :
    RunsOncePerPeriod timer name period failsOn calls := by
  have counted (made : List Call) :
      (after timer name period failsOn made).runs =
        failsOn.elim (wholePeriods period made) (min · (wholePeriods period made)) := by
    rw [(follows_after timer name period failsOn made).runs_eq]
    exact PeriodicTask.owed_start_zero positive fires fromOne _
  refine ⟨counted calls, fun short => ?_, fun other same => ?_, fun later stopped => ?_,
    fun run later fails reached => ?_, fun running => ?_⟩
  · have none : wholePeriods period calls = 0 := Nat.div_eq_of_lt short
    rw [counted, none]
    cases failsOn <;> simp
  · rw [counted, counted, wholePeriods, wholePeriods, same]
  · rw [counted, counted, wholePeriods, wholePeriods, activeMillis_append_of_stopped stopped]
  · have still : run ≤ wholePeriods period (calls ++ later) :=
      Nat.le_trans reached
        (Nat.div_le_div_right (Nat.mul_le_mul_right _ (activeMillis_le_append calls later)))
    rw [counted, counted, fails]
    exact ⟨Nat.min_eq_left reached, Nat.min_eq_left still⟩
  · exact stop_after_of_running positive fires fromOne running

/-- Three quarters of a tenth of a second, in three pieces, then a stop and some more time. -/
def choppedCalls : List Call :=
  [.pass 30, .pass 0, .pass 45, .stop, .pass 30]

/-- Every ten milliseconds, seven runs fit in; a job that fails on the third run ends the task. -/
theorem tenMillis_runs_seven_times :
    (after .exact "test" (.ofMillis 10) none choppedCalls).runs = 7 ∧
      (after .exact "test" (.ofMillis 10) none [.pass 75]).runs = 7 ∧
        (after .exact "test" (.ofMillis 10) (some 3) choppedCalls).runs = 3 ∧
          ((after .exact "test" (.ofMillis 10) (some 3) [.pass 75]).perform .stop).1 =
            (some "test", [.taskEndedAbnormally "test"]) := by
  have fires := Timer.fires_exact (.ofMillis 10) 0
  have steady : RunsOncePerPeriod .exact "test" (.ofMillis 10) none choppedCalls :=
    runs_once_per_period (by decide) fires (by decide) choppedCalls
  have failing : RunsOncePerPeriod .exact "test" (.ofMillis 10) (some 3) [.pass 75] :=
    runs_once_per_period (by decide) fires (by decide) [.pass 75]
  refine ⟨steady.runs_eq.trans (by decide +kernel), ?_, ?_, ?_⟩
  · exact (steady.runs_of_activeMillis_eq [.pass 75] rfl).trans
      (steady.runs_eq.trans (by decide +kernel))
  · exact (failing.runs_of_activeMillis_eq choppedCalls rfl).trans
      (failing.runs_eq.trans (by decide +kernel))
  · exact (failing.stop_eq (by decide)).trans (by decide +kernel)

end CountedTask

end WorkGate
