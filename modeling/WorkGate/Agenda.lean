import WorkGate.PeriodicTask

/-!
# The agenda

The agenda is the list of the periodic tasks that are attended to, in the order in which they were
last armed.  Time passes from one millisecond in which runs are due to the next, and `advance`
performs the runs up to a point in time and lists them in order.

Within a millisecond the tasks that are due take turns, in the order in which they were armed.  At
its turn a task performs a spell of runs.  If the spell was full, the task is put off until the
others have had their turn, and of several tasks that were put off the last one goes on first;
otherwise the task is armed behind all others.

The arrears of the agenda, how far its deadlines lie before the end of the time that passes, are
reduced by every run.  This is why a millisecond is settled after finitely many turns and why the
walk through time ends.
-/

namespace WorkGate

/-- The tasks that are attended to, in the order in which they were last armed. -/
abbrev Agenda (Job : Type) :=
  List (PeriodicTask Job)

namespace Agenda

variable {Job : Type}

/-- One run of a job, with the milliseconds that have passed. -/
structure Run (Job : Type) where
  /-- The milliseconds passed at the run. -/
  elapsed : Nat
  job : Job

/-- How far the deadlines of all tasks lie before the end of the millisecond `limit`. -/
def arrears (limit : Nat) : Agenda Job → Nat
  | [] => 0
  | task :: rest => task.arrears limit + arrears limit rest

theorem arrears_append (limit : Nat) (first second : Agenda Job) :
    arrears limit (first ++ second) = arrears limit first + arrears limit second := by
  induction first with
  | nil => simp [arrears]
  | cons task rest induction =>
      simp only [List.cons_append, arrears, induction]
      omega

theorem arrears_filter_add_arrears_filter_not
    (limit : Nat)
    (chosen : PeriodicTask Job → Bool)
    (agenda : Agenda Job) :
    arrears limit (agenda.filter (!chosen ·)) + arrears limit (agenda.filter chosen) =
      arrears limit agenda := by
  induction agenda with
  | nil => rfl
  | cons task rest induction =>
      cases selected : chosen task <;> simp [selected, arrears] <;> omega

/-! ## One millisecond -/

/-- What one turn of each task leads to. -/
structure Round (Job : Type) where
  /-- The runs, in order. -/
  runs : List (Run Job)
  /-- The tasks that were armed, in order. -/
  armed : Agenda Job
  /-- The tasks that were put off; the last one comes first. -/
  deferred : Agenda Job

/-- Gives each task its turn. -/
def round (moment : Nat) : Agenda Job → Round Job
  | [] => { runs := [], armed := [], deferred := [] }
  | task :: rest =>
      let (count, after) := task.spell moment PeriodicTask.spellLimit
      let later := round moment rest
      let runs := List.replicate count { elapsed := moment, job := task.job } ++ later.runs
      if count = PeriodicTask.spellLimit then
        { later with runs, deferred := later.deferred ++ [after] }
      else { later with runs, armed := after :: later.armed }

theorem arrears_round_le
    {moment limit : Nat}
    (within : moment ≤ limit)
    (queue : Agenda Job) :
    arrears limit (round moment queue).armed + arrears limit (round moment queue).deferred +
        (round moment queue).runs.length ≤
      arrears limit queue := by
  induction queue with
  | nil => simp [round, arrears]
  | cons task rest induction =>
      have turn := task.arrears_spell_add_count_le within PeriodicTask.spellLimit
      simp only [round]
      split <;>
        simp only [arrears, arrears_append, List.length_append, List.length_replicate] <;> omega

theorem length_deferred_le (moment : Nat) (queue : Agenda Job) :
    (round moment queue).deferred.length ≤ (round moment queue).runs.length := by
  induction queue with
  | nil => simp [round]
  | cons task rest induction =>
      simp only [round]
      split
      · next full =>
          have positive : 0 < PeriodicTask.spellLimit := by decide
          simp only [List.length_append, List.length_replicate, List.length_cons, List.length_nil]
          omega
      · simp only [List.length_append, List.length_replicate]
        omega

theorem length_runs_round_pos
    {moment : Nat}
    {task : PeriodicTask Job}
    {queue : Agenda Job}
    (waiting : task ∈ queue)
    (due : task.isDue moment) :
    0 < (round moment queue).runs.length := by
  induction queue with
  | nil => cases waiting
  | cons first rest induction =>
      have count : (round moment (first :: rest)).runs.length =
          (first.spell moment PeriodicTask.spellLimit).1 + (round moment rest).runs.length := by
        simp only [round]
        split <;> simp
      rw [count]
      cases waiting with
      | head =>
          have limit : 0 < PeriodicTask.spellLimit := by decide
          have turn := PeriodicTask.count_spell_pos limit due
          omega
      | tail _ later =>
          have behind := induction later
          omega

theorem arrears_deferred_lt
    {moment : Nat}
    {queue : Agenda Job}
    (deferred : (round moment queue).deferred ≠ []) :
    arrears moment (round moment queue).deferred < arrears moment queue := by
  have reduced := arrears_round_le (Nat.le_refl moment) queue
  have counted := length_deferred_le moment queue
  have positive := List.length_pos_iff.2 deferred
  omega

/-- Performs all runs of the queued tasks that are due, and lists the tasks as they were armed. -/
def settle (moment : Nat) (queue : Agenda Job) : List (Run Job) × Agenda Job :=
  let turns := round moment queue
  if _noneDeferred : turns.deferred = [] then (turns.runs, turns.armed)
  else
    let rest := settle moment turns.deferred
    (turns.runs ++ rest.1, turns.armed ++ rest.2)
termination_by arrears moment queue
decreasing_by exact arrears_deferred_lt _noneDeferred

theorem arrears_settle_le
    {moment limit : Nat}
    (within : moment ≤ limit)
    (queue : Agenda Job) :
    arrears limit (settle moment queue).2 + (settle moment queue).1.length ≤
      arrears limit queue := by
  fun_induction settle moment queue with
  | case1 queue turns none =>
      have reduced : arrears limit turns.armed + arrears limit turns.deferred +
          turns.runs.length ≤ arrears limit queue :=
        arrears_round_le within queue
      dsimp only
      omega
  | case2 queue turns some rest induction =>
      have reduced : arrears limit turns.armed + arrears limit turns.deferred +
          turns.runs.length ≤ arrears limit queue :=
        arrears_round_le within queue
      have later : arrears limit rest.2 + rest.1.length ≤ arrears limit turns.deferred := induction
      simp only [arrears_append, List.length_append]
      omega

theorem length_runs_settle_pos
    {moment : Nat}
    {task : PeriodicTask Job}
    {queue : Agenda Job}
    (waiting : task ∈ queue)
    (due : task.isDue moment) :
    0 < (settle moment queue).1.length := by
  have first := length_runs_round_pos waiting due
  unfold settle
  dsimp only
  split
  · exact first
  · simp only [List.length_append]
    omega

/-! ## Passing time -/

/-- The millisecond in which the next run takes place: the first one that reaches a deadline. -/
def next? (agenda : Agenda Job) : Option Nat :=
  (agenda.filterMap PeriodicTask.due).min?.map (ceilDiv · nanosPerMilli)

theorem exists_isDue_of_next?_eq_some
    {agenda : Agenda Job}
    {moment : Nat}
    (found : agenda.next? = some moment) :
    ∃ task ∈ agenda, task.isDue moment := by
  obtain ⟨deadline, earliest, rfl⟩ := Option.map_eq_some_iff.1 found
  obtain ⟨task, member, due⟩ := List.mem_filterMap.1 (List.min?_mem earliest)
  have positive : 0 < nanosPerMilli := by decide
  have reached := (ceilDiv_le_iff positive).1 (Nat.le_refl (ceilDiv deadline nanosPerMilli))
  exact ⟨task, member, by simpa [PeriodicTask.isDue, due] using reached⟩

/-- The tasks that take no part in a millisecond. -/
def waiting (moment : Nat) (agenda : Agenda Job) : Agenda Job :=
  agenda.filter (!PeriodicTask.isDue moment ·)

/-- The tasks whose turn comes in a millisecond. -/
def due (moment : Nat) (agenda : Agenda Job) : Agenda Job :=
  agenda.filter (PeriodicTask.isDue moment)

theorem arrears_after_lt
    {moment limit : Nat}
    {agenda : Agenda Job}
    (found : agenda.next? = some moment)
    (within : moment ≤ limit) :
    arrears limit (agenda.waiting moment ++ (settle moment (agenda.due moment)).2) <
      arrears limit agenda := by
  obtain ⟨task, member, isDue⟩ := exists_isDue_of_next?_eq_some found
  have queued : task ∈ agenda.due moment := List.mem_filter.2 ⟨member, isDue⟩
  have performed := length_runs_settle_pos queued isDue
  have reduced := arrears_settle_le within (agenda.due moment)
  have parts := arrears_filter_add_arrears_filter_not limit (PeriodicTask.isDue moment) agenda
  simp only [arrears_append]
  unfold waiting due at *
  omega

/-- Performs all runs up to the end of the millisecond `limit`, in order. -/
def advance (limit : Nat) (agenda : Agenda Job) : List (Run Job) × Agenda Job :=
  go [] agenda
where
  /-- Performs further runs after those already performed, latest first. -/
  go (performed : List (Run Job)) (agenda : Agenda Job) : List (Run Job) × Agenda Job :=
    match _found : agenda.next? with
    | none => (performed.reverse, agenda)
    | some moment =>
        if _within : moment ≤ limit then
          let settled := settle moment (agenda.due moment)
          go (settled.1.reverse ++ performed) (agenda.waiting moment ++ settled.2)
        else (performed.reverse, agenda)
  termination_by arrears limit agenda
  decreasing_by exact arrears_after_lt _found _within

end Agenda

end WorkGate
