import WorkGate.Event
import WorkGate.Rounding
import WorkGate.Timer

/-!
# Periodic tasks

A periodic task runs its job once per period, for the first time one period after its start.
Deadlines are kept in nanoseconds of passing time; a run takes place at the first whole millisecond
at or after its deadline.  Each run moves the deadline to the one that the timer sets behind it.

A task whose period is zero, or whose first deadline the clock cannot show, ends at once without a
run.  A job may also fail on one of its runs; that run takes place and ends the task.

A task that is behind catches up by a spell: it performs the runs that are due one after the other,
but no more than `spellLimit` of them before it lets the other tasks go on.
-/

namespace WorkGate

/-- A job with its period and its next deadline. -/
structure PeriodicTask (Job : Type) where
  job : Job
  name : String
  period : Duration
  /-- What sets the deadlines. -/
  timer : Timer
  /-- The deadline of the next run, in nanoseconds of passing time; `none` once the task ended. -/
  due : Option Nat
  /-- The number of runs that succeed before one fails; `none` if no run fails. -/
  successes : Option Nat
  period_pos : due.isSome → 0 < period.nanos

namespace PeriodicTask

variable {Job : Type}

/-- The number of runs a task performs before it lets the other tasks go on. -/
def spellLimit : Nat := 128

/--
Starts a task when `elapsed` milliseconds have passed.  Its job fails on the given run, counted from
one, if on any.
-/
def start
    (timer : Timer)
    (job : Job)
    (name : String)
    (period : Duration)
    (elapsed : Nat)
    (failsOn : Option Nat) :
    PeriodicTask Job where
  job := job
  name := name
  period := period
  timer := timer
  due :=
    let deadline := elapsed * nanosPerMilli + period.nanos
    if 0 < period.nanos ∧ timer.reaches deadline then some deadline else none
  successes := (failsOn.filter (0 < ·)).map (· - 1)
  period_pos := by
    intro armed
    dsimp only at armed
    split at armed
    · next usable => exact usable.1
    · cases armed

/-- The deadline behind another one. -/
def following (task : PeriodicTask Job) : (deadline : Nat) → Nat :=
  task.timer.following task.period

theorem lt_following
    {task : PeriodicTask Job}
    (armed : task.due.isSome)
    (deadline : Nat) :
    deadline < task.following deadline :=
  task.timer.lt_following task.period deadline (task.period_pos armed)

/-- Whether a run is due in a millisecond or has been due earlier. -/
def isDue (moment : Nat) (task : PeriodicTask Job) : Bool :=
  task.due.any (· ≤ moment * nanosPerMilli)

def ended (task : PeriodicTask Job) : PeriodicTask Job :=
  { task with due := none, period_pos := by simp }

/-- The task with the deadline behind its present one. -/
def rearmed (task : PeriodicTask Job) : PeriodicTask Job :=
  { task with
    due := task.due.map task.following
    successes := task.successes.map (· - 1)
    period_pos := by simpa using task.period_pos }

def ran (task : PeriodicTask Job) : PeriodicTask Job :=
  if task.successes = some 0 then task.ended else task.rearmed

/-- The number of runs that a task performs in one go, at most `room`, and the task after them. -/
def spell (moment : Nat) : (room : Nat) → PeriodicTask Job → Nat × PeriodicTask Job
  | 0, task => (0, task)
  | room + 1, task =>
      if task.isDue moment then
        let (count, after) := spell moment room task.ran
        (count + 1, after)
      else (0, task)

def stopReport (task : PeriodicTask Job) : Event :=
  if task.due.isSome then .taskStopped task.name else .taskEndedAbnormally task.name

/-! ## Arrears -/

/-- How far the deadline of a task lies before the end of the millisecond `limit`. -/
def arrears (limit : Nat) (task : PeriodicTask Job) : Nat :=
  limit * nanosPerMilli + 1 - task.due.getD (limit * nanosPerMilli + 1)

theorem arrears_ran_lt
    {moment limit : Nat}
    {task : PeriodicTask Job}
    (within : moment ≤ limit)
    (due : task.isDue moment) :
    task.ran.arrears limit < task.arrears limit := by
  cases deadline : task.due with
  | none => simp [isDue, deadline] at due
  | some nanos =>
      have later : nanos < task.following nanos := lt_following (by simp [deadline]) nanos
      simp only [isDue, deadline, Option.any_some, decide_eq_true_eq] at due
      have reached : moment * nanosPerMilli ≤ limit * nanosPerMilli :=
        Nat.mul_le_mul_right _ within
      unfold ran
      split <;> simp [arrears, ended, rearmed, deadline] <;> omega

/-- Every run of a spell reduces the arrears. -/
theorem arrears_spell_add_count_le
    {moment limit : Nat}
    (within : moment ≤ limit)
    (room : Nat)
    (task : PeriodicTask Job) :
    (task.spell moment room).2.arrears limit + (task.spell moment room).1 ≤
      task.arrears limit := by
  induction room generalizing task with
  | zero => simp [spell]
  | succ room induction =>
      simp only [spell]
      split
      · next due =>
          have first := arrears_ran_lt within due
          have rest := induction task.ran
          dsimp only
          omega
      · simp

/-- A task that is due performs at least one run in its spell. -/
theorem count_spell_pos
    {moment room : Nat}
    {task : PeriodicTask Job}
    (positive : 0 < room)
    (due : task.isDue moment) :
    0 < (task.spell moment room).1 := by
  cases room with
  | zero => cases positive
  | succ room => simp [spell, due]

end PeriodicTask

end WorkGate
