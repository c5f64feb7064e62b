import WorkGate.PeriodicTask

/-!
# How many runs a periodic task owes

What a task owes up to the end of a millisecond is its runs one after the other until none is due.
It does not matter in how many goes they are performed: a spell is the first part of them, and a
task that has caught up with an earlier millisecond owes the rest of them to a later one.

A task whose deadlines are the multiples of its period, counted from an origin, owes one run for
each whole period since the origin.  If it fails on some run, then it owes no more than that many.
-/

namespace WorkGate.PeriodicTask

variable {Job : Type} {task : PeriodicTask Job} {moment earlier later limit deadline origin : Nat}

theorem isDue_iff :
    task.isDue moment ↔
      ∃ deadline, task.due = some deadline ∧ deadline ≤ moment * nanosPerMilli := by
  simp [isDue, Option.any_eq_true]

theorem isDue_mono (within : moment ≤ limit) (due : task.isDue moment) : task.isDue limit := by
  obtain ⟨deadline, armed, reached⟩ := isDue_iff.mp due
  exact isDue_iff.mpr ⟨deadline, armed, Nat.le_trans reached (Nat.mul_le_mul_right _ within)⟩

@[simp]
theorem job_ran (task : PeriodicTask Job) : task.ran.job = task.job := by
  unfold ran
  split <;> rfl

@[simp]
theorem job_spell (moment room : Nat) (task : PeriodicTask Job) :
    (task.spell moment room).2.job = task.job := by
  induction room generalizing task with
  | zero => rfl
  | succ room induction =>
      simp only [spell]
      split
      · exact (induction task.ran).trans task.job_ran
      · rfl

@[simp]
theorem name_ran (task : PeriodicTask Job) : task.ran.name = task.name := by
  unfold ran
  split <;> rfl

@[simp]
theorem job_start
    (timer : Timer)
    (job : Job)
    (name : String)
    (period : Duration)
    (elapsed : Nat)
    (failsOn : Option Nat) :
    (start timer job name period elapsed failsOn).job = job :=
  rfl

/-- No run is due at the moment of the start. -/
theorem not_isDue_start
    (timer : Timer)
    (job : Job)
    (name : String)
    (period : Duration)
    (elapsed : Nat)
    (failsOn : Option Nat) :
    ¬ (start timer job name period elapsed failsOn).isDue elapsed := by
  intro due
  obtain ⟨deadline, armed, reached⟩ := isDue_iff.mp due
  simp only [start] at armed
  split at armed
  · next usable =>
      have first := Option.some.inj armed
      have positive := usable.1
      omega
  · cases armed

/-- A run moves the deadline on, so nothing comes due in the past. -/
theorem not_isDue_ran (idle : ¬ task.isDue earlier) : ¬ task.ran.isDue earlier := by
  intro due
  obtain ⟨later, armed, reached⟩ := isDue_iff.mp due
  by_cases last : task.successes = some 0
  · have ended : task.ran = task.ended := if_pos last
    rw [ended] at armed
    cases armed
  · have rearmed : task.ran = task.rearmed := if_neg last
    rw [rearmed] at armed
    obtain ⟨deadline, before, rfl⟩ := Option.map_eq_some_iff.mp armed
    have further : deadline < task.following deadline := lt_following (by simp [before]) deadline
    exact idle (isDue_iff.mpr ⟨deadline, before, by omega⟩)

theorem not_isDue_spell (idle : ¬ task.isDue earlier) (moment room : Nat) :
    ¬ (task.spell moment room).2.isDue earlier := by
  induction room generalizing task with
  | zero => exact idle
  | succ room induction =>
      simp only [spell]
      split
      · exact induction (not_isDue_ran idle)
      · exact idle

/-! ## Catching up -/

/-- The number of runs that a task owes up to the end of a millisecond. -/
def owed (limit : Nat) (task : PeriodicTask Job) : Nat :=
  if _due : task.isDue limit then owed limit task.ran + 1 else 0
termination_by task.arrears limit
decreasing_by exact arrears_ran_lt (Nat.le_refl limit) _due

/-- The task after the runs that it owes. -/
def caughtUp (limit : Nat) (task : PeriodicTask Job) : PeriodicTask Job :=
  if _due : task.isDue limit then caughtUp limit task.ran else task
termination_by task.arrears limit
decreasing_by exact arrears_ran_lt (Nat.le_refl limit) _due

theorem owed_of_due (due : task.isDue limit) : task.owed limit = task.ran.owed limit + 1 := by
  rw [owed, dif_pos due]

theorem owed_of_not_due (idle : ¬ task.isDue limit) : task.owed limit = 0 := by
  rw [owed, dif_neg idle]

theorem caughtUp_of_due (due : task.isDue limit) :
    task.caughtUp limit = task.ran.caughtUp limit := by
  rw [caughtUp, dif_pos due]

theorem caughtUp_of_not_due (idle : ¬ task.isDue limit) : task.caughtUp limit = task := by
  rw [caughtUp, dif_neg idle]

/-- A task that has caught up is not due any more. -/
theorem not_isDue_caughtUp (limit : Nat) (task : PeriodicTask Job) :
    ¬ (task.caughtUp limit).isDue limit := by
  fun_induction caughtUp limit task with
  | case1 task due induction => exact induction
  | case2 task idle => exact idle

@[simp]
theorem job_caughtUp (limit : Nat) (task : PeriodicTask Job) :
    (task.caughtUp limit).job = task.job := by
  fun_induction caughtUp limit task with
  | case1 task due induction => exact induction.trans task.job_ran
  | case2 task idle => rfl

@[simp]
theorem name_caughtUp (limit : Nat) (task : PeriodicTask Job) :
    (task.caughtUp limit).name = task.name := by
  fun_induction caughtUp limit task with
  | case1 task due induction => exact induction.trans task.name_ran
  | case2 task idle => rfl

/-- The runs of a spell are the first of those that are owed. -/
theorem catchUp_spell (within : moment ≤ limit) (room : Nat) (task : PeriodicTask Job) :
    (task.spell moment room).1 + (task.spell moment room).2.owed limit = task.owed limit ∧
      (task.spell moment room).2.caughtUp limit = task.caughtUp limit := by
  induction room generalizing task with
  | zero => exact ⟨Nat.zero_add _, rfl⟩
  | succ room induction =>
      simp only [spell]
      split
      · next due =>
          obtain ⟨counted, same⟩ := induction task.ran
          have stillDue := isDue_mono within due
          rw [owed_of_due stillDue, caughtUp_of_due stillDue]
          dsimp only
          exact ⟨by omega, same⟩
      · exact ⟨Nat.zero_add _, rfl⟩

/-- What is owed to a later millisecond is owed in part to an earlier one. -/
theorem catchUp_caughtUp (ordered : earlier ≤ later) (task : PeriodicTask Job) :
    task.owed earlier + (task.caughtUp earlier).owed later = task.owed later ∧
      (task.caughtUp earlier).caughtUp later = task.caughtUp later := by
  fun_induction caughtUp earlier task with
  | case1 task due induction =>
      obtain ⟨counted, same⟩ := induction
      have stillDue := isDue_mono ordered due
      rw [owed_of_due due, owed_of_due stillDue, caughtUp_of_due stillDue]
      exact ⟨by omega, same⟩
  | case2 task idle =>
      rw [owed_of_not_due idle]
      exact ⟨Nat.zero_add _, rfl⟩

/-! ## The count in closed form -/

theorem owed_ended (limit : Nat) (task : PeriodicTask Job) : task.ended.owed limit = 0 :=
  owed_of_not_due (by simp [isDue, ended])

theorem due_rearmed (armed : task.due = some deadline) :
    task.rearmed.due = some (task.following deadline) := by
  simp [rearmed, armed]

theorem successes_rearmed (task : PeriodicTask Job) :
    task.rearmed.successes = task.successes.map (· - 1) :=
  rfl

/-- The deadline behind a multiple of the period, counted from an origin, is the next multiple. -/
def Paced (origin : Nat) (task : PeriodicTask Job) : Prop :=
  ∀ fired,
    0 < fired →
      task.following (origin + fired * task.period.nanos) =
        origin + (fired + 1) * task.period.nanos

theorem Paced.following_eq (paced : task.Paced origin) :
    task.following (origin + task.period.nanos) =
      origin + task.period.nanos + task.period.nanos := by
  have next := paced 1 Nat.one_pos
  rwa [Nat.one_mul, Nat.succ_mul, Nat.one_mul, ← Nat.add_assoc] at next

theorem Paced.rearmed (paced : task.Paced origin) :
    task.rearmed.Paced (origin + task.period.nanos) := by
  intro fired _
  have further (count : Nat) :
      origin + task.period.nanos + count * task.period.nanos =
        origin + (count + 1) * task.period.nanos := by
    rw [Nat.succ_mul]
    omega
  change task.following _ = _
  exact (congrArg task.following (further fired)).trans
    ((paced (fired + 1) (Nat.succ_pos fired)).trans (further (fired + 1)).symm)

/-- One run for each period that is over, up to the run that fails. -/
theorem owed_eq
    (armed : task.due = some (origin + task.period.nanos))
    (paced : task.Paced origin) :
    let periods := (limit * nanosPerMilli - origin) / task.period.nanos
    task.owed limit =
      task.successes.elim periods fun successes => min (successes + 1) periods := by
  dsimp only
  have positive : 0 < task.period.nanos := task.period_pos (by simp [armed])
  fun_induction owed limit task generalizing origin with
  | case1 task due induction =>
      obtain ⟨_, armedFor, within⟩ := isDue_iff.mp due
      obtain rfl := Option.some.inj (armed.symm.trans armedFor)
      have one : task.period.nanos ≤ limit * nanosPerMilli - origin := by omega
      rw [Nat.div_eq_sub_div positive one, Nat.sub_sub]
      by_cases last : task.successes = some 0
      · have ended : task.ran = task.ended := if_pos last
        rw [ended, owed_ended, last, Option.elim_some, Nat.add_min_add_right, Nat.zero_min]
      · have rearmed : task.ran = task.rearmed := if_neg last
        have next := due_rearmed armed
        rw [paced.following_eq] at next
        have rest := @induction (origin + task.period.nanos)
        rw [rearmed] at rest
        have samePeriod : task.rearmed.period = task.period := rfl
        rw [rearmed, rest next paced.rearmed positive, successes_rearmed, samePeriod]
        cases succeeds : task.successes with
        | none => rfl
        | some successes =>
            have more : successes - 1 + 1 = successes :=
              Nat.sub_add_cancel (Nat.pos_of_ne_zero fun none => last (by rw [succeeds, none]))
            rw [Option.map_some, Option.elim_some, Option.elim_some, more, Nat.add_min_add_right]
  | case2 task idle =>
      have ahead : limit * nanosPerMilli < origin + task.period.nanos :=
        Nat.lt_of_not_le fun reached => idle (isDue_iff.mpr ⟨_, armed, reached⟩)
      rw [Nat.div_eq_of_lt (by omega)]
      cases task.successes <;> simp

/-- A task that has caught up has ended exactly if it performed the run that fails. -/
theorem due_caughtUp_eq_none_iff (armed : task.due = some deadline) :
    (task.caughtUp limit).due = none ↔
      ∃ successes, task.successes = some successes ∧ task.owed limit = successes + 1 := by
  fun_induction caughtUp limit task generalizing deadline with
  | case1 task due induction =>
      rw [owed_of_due due]
      by_cases last : task.successes = some 0
      · have ended : task.ran = task.ended := if_pos last
        have idle : ¬ task.ended.isDue limit := by simp [isDue, PeriodicTask.ended]
        rw [ended, caughtUp_of_not_due idle, owed_of_not_due idle]
        exact iff_of_true rfl ⟨0, last, rfl⟩
      · have rearmed : task.ran = task.rearmed := if_neg last
        have rest := @induction (task.following deadline)
        rw [rearmed, successes_rearmed] at rest
        rw [rearmed, rest (due_rearmed armed)]
        cases succeeds : task.successes with
        | none => simp
        | some successes =>
            have counted : successes ≠ 0 := fun none => last (by rw [succeeds, none])
            simp only [Option.map_some, Option.some.injEq, exists_eq_left']
            omega
  | case2 task idle =>
      rw [owed_of_not_due idle, armed]
      simp

/-! ## Started tasks -/

section

variable {timer : Timer} {job : Job} {name : String} {period : Duration} {elapsed : Nat}
variable {failsOn : Option Nat}

theorem due_start (positive : 0 < period.nanos) (fires : timer.Fires period elapsed) :
    (start timer job name period elapsed failsOn).due =
      some (elapsed * nanosPerMilli + period.nanos) :=
  if_pos ⟨positive, fires.reaches_first⟩

/--
A task that is started owes one run for each whole period that has passed since, up to the run that
fails, if its interval fires at the multiples of the period.
-/
theorem owed_start (positive : 0 < period.nanos) (fires : timer.Fires period elapsed) :
    let periods := (limit - elapsed) * nanosPerMilli / period.nanos
    (start timer job name period elapsed failsOn).owed limit =
      (failsOn.filter (0 < ·)).elim periods (min · periods) := by
  have paced : (start timer job name period elapsed failsOn).Paced (elapsed * nanosPerMilli) :=
    fires.following_eq
  have samePeriod : (start timer job name period elapsed failsOn).period = period := rfl
  have successes : (start timer job name period elapsed failsOn).successes =
      (failsOn.filter (0 < ·)).map (· - 1) :=
    rfl
  dsimp only
  rw [owed_eq (due_start positive fires) paced, samePeriod, successes, Nat.sub_mul]
  cases fails : failsOn.filter (0 < ·) with
  -- Not by `rfl`, which makes the kernel compare the counts step by step.
  | none => rw [Option.map_none, Option.elim_none, Option.elim_none]
  | some run =>
      have counted : 0 < run := of_decide_eq_true (Option.filter_eq_some_iff.mp fails).2
      have more : run - 1 + 1 = run := Nat.sub_add_cancel counted
      rw [Option.map_some, Option.elim_some, Option.elim_some, more]

end

end WorkGate.PeriodicTask
