import WorkGate.Agenda
import WorkGate.Proofs.Schedule.PeriodicTask

/-!
# An agenda performs what its tasks owe

The agenda lets its tasks take turns and puts some of them off, but in the end each task has
performed exactly the runs that it owed, and each is as it would be had it been alone.

Some runs serve an agenda if what is owed after them is what was owed before, less these runs, and
the tasks will have caught up to the same.  A round of turns serves the agenda, and so do the rounds
of a millisecond and the milliseconds up to a point in time.  At the end no task is due, so nothing
is owed any more.
-/

namespace WorkGate.Agenda

variable {Job : Type} {moment limit : Nat} {agenda before middle after : Agenda Job}

/-- Nothing in the agenda has been due by the end of a millisecond. -/
def QuietUntil (earlier : Nat) (agenda : Agenda Job) : Prop :=
  ∀ task ∈ agenda, ¬ task.isDue earlier

/-- The tasks after the runs that they owe up to the end of a millisecond. -/
def caughtUp (limit : Nat) (agenda : Agenda Job) : Agenda Job :=
  agenda.map (PeriodicTask.caughtUp limit)

theorem caughtUp_of_quiet (quiet : agenda.QuietUntil limit) : agenda.caughtUp limit = agenda := by
  rw [caughtUp, List.map_congr_left fun task member =>
    PeriodicTask.caughtUp_of_not_due (quiet task member), List.map_id']

theorem caughtUp_caughtUp
    {earlier later : Nat}
    (ordered : earlier ≤ later)
    (agenda : Agenda Job) :
    (agenda.caughtUp earlier).caughtUp later = agenda.caughtUp later := by
  rw [caughtUp, caughtUp, caughtUp, List.map_map]
  apply List.map_congr_left
  intro task _
  rw [Function.comp_apply, (task.catchUp_caughtUp ordered).2]

/-- The tasks left behind by a round, those put off included. -/
def Round.tasks (turns : Round Job) : Agenda Job :=
  turns.armed ++ turns.deferred

/-- Without a run to come there is no run up to then. -/
theorem quietUntil_of_next?
    (beyond : ∀ moment, agenda.next? = some moment → limit < moment) :
    agenda.QuietUntil limit := by
  intro task member due
  obtain ⟨deadline, armed, reached⟩ := PeriodicTask.isDue_iff.mp due
  have listed : deadline ∈ agenda.filterMap PeriodicTask.due :=
    List.mem_filterMap.mpr ⟨task, member, armed⟩
  cases earliest : (agenda.filterMap PeriodicTask.due).min? with
  | none =>
      rw [List.min?_eq_none_iff.mp earliest] at listed
      cases listed
  | some first =>
      have ahead := beyond (ceilDiv first nanosPerMilli) (by rw [next?, earliest, Option.map_some])
      have leastFirst : first ≤ deadline := (List.min?_eq_some_iff.mp earliest).2 _ listed
      have within : ceilDiv first nanosPerMilli ≤ limit :=
        (ceilDiv_le_iff (by decide)).mpr (Nat.le_trans leastFirst reached)
      exact absurd within (Nat.not_le_of_lt ahead)

theorem advance_nil (limit : Nat) : advance limit ([] : Agenda Job) = ([], []) := by
  rw [advance, advance.go]
  rfl

/-! ## The moments of the runs -/

theorem elapsed_of_mem_round {queue : Agenda Job} {run : Run Job}
    (member : run ∈ (round moment queue).runs) :
    run.elapsed = moment := by
  induction queue with
  | nil => cases member
  | cons task rest induction =>
      have runs :
          (round moment (task :: rest)).runs =
            List.replicate (task.spell moment PeriodicTask.spellLimit).1
                { elapsed := moment, job := task.job } ++
              (round moment rest).runs := by
        simp only [round]
        split <;> rfl
      rw [runs] at member
      rcases List.mem_append.mp member with mine | others
      · rw [List.eq_of_mem_replicate mine]
      · exact induction others

theorem elapsed_of_mem_settle {queue : Agenda Job} {run : Run Job}
    (member : run ∈ (settle moment queue).1) :
    run.elapsed = moment := by
  fun_induction settle moment queue with
  | case1 queue turns none => exact elapsed_of_mem_round member
  | case2 queue turns some rest induction =>
      rcases List.mem_append.mp member with first | later
      · exact elapsed_of_mem_round first
      · exact induction later

variable {earlier : Nat}

theorem quietUntil_append {first second : Agenda Job} :
    QuietUntil earlier (first ++ second) ↔ first.QuietUntil earlier ∧ second.QuietUntil earlier :=
  List.forall_mem_append

theorem QuietUntil.filter (quiet : agenda.QuietUntil earlier) (keep : PeriodicTask Job → Bool) :
    QuietUntil earlier (agenda.filter keep) :=
  fun task member => quiet task (List.mem_filter.mp member).1

theorem QuietUntil.tasks_round
    {queue : Agenda Job}
    (quiet : queue.QuietUntil earlier)
    (moment : Nat) :
    QuietUntil earlier (round moment queue).tasks := by
  induction queue with
  | nil => nofun
  | cons task rest induction =>
      obtain ⟨first, others⟩ := List.forall_mem_cons.mp quiet
      obtain ⟨armed, deferred⟩ := quietUntil_append.mp (induction others)
      have mine := PeriodicTask.not_isDue_spell first moment PeriodicTask.spellLimit
      simp only [round]
      split
      · have putOff := List.forall_mem_append.mpr ⟨deferred, List.forall_mem_singleton.mpr mine⟩
        exact quietUntil_append.mpr ⟨armed, putOff⟩
      · exact quietUntil_append.mpr ⟨List.forall_mem_cons.mpr ⟨mine, armed⟩, deferred⟩

theorem QuietUntil.settle {queue : Agenda Job} (quiet : queue.QuietUntil earlier) :
    QuietUntil earlier (settle moment queue).2 := by
  fun_induction Agenda.settle moment queue with
  | case1 queue turns none => exact (quietUntil_append.mp (quiet.tasks_round moment)).1
  | case2 queue turns some rest induction =>
      obtain ⟨armed, deferred⟩ := quietUntil_append.mp (quiet.tasks_round moment)
      exact quietUntil_append.mpr ⟨armed, induction deferred⟩

theorem elapsed_of_mem_go
    {performed : List (Run Job)}
    (quiet : agenda.QuietUntil earlier)
    {run : Run Job}
    (member : run ∈ (advance.go limit performed agenda).1) :
    run ∈ performed ∨ earlier < run.elapsed ∧ run.elapsed ≤ limit := by
  fun_induction advance.go limit performed agenda with
  | case1 performed agenda none => exact Or.inl (List.mem_reverse.mp member)
  | case2 performed agenda moment found within settled induction =>
      obtain ⟨task, waiting, due⟩ := exists_isDue_of_next?_eq_some found
      have later : earlier < moment := Nat.lt_of_not_le fun sooner =>
        quiet task waiting (PeriodicTask.isDue_mono sooner due)
      have quietAfter : QuietUntil earlier (agenda.waiting moment ++ settled.2) :=
        quietUntil_append.mpr ⟨quiet.filter _, QuietUntil.settle (quiet.filter _)⟩
      rcases induction quietAfter member with known | new
      · rcases List.mem_append.mp known with now | before
        · right
          rw [elapsed_of_mem_settle (List.mem_reverse.mp now)]
          exact ⟨later, within⟩
        · exact Or.inl before
      · exact Or.inr new
  | case3 performed agenda moment found beyond => exact Or.inl (List.mem_reverse.mp member)

/-- What an agenda performs is performed after all that was due before and by the limit. -/
theorem elapsed_of_mem_advance
    (quiet : agenda.QuietUntil earlier)
    {run : Run Job}
    (member : run ∈ (agenda.advance limit).1) :
    earlier < run.elapsed ∧ run.elapsed ≤ limit := by
  rcases elapsed_of_mem_go quiet member with none | between
  · cases none
  · exact between

variable [DecidableEq Job]

/-- How often a job is owed up to the end of a millisecond. -/
def owed (limit : Nat) (job : Job) : Agenda Job → Nat
  | [] => 0
  | task :: rest => (if task.job = job then task.owed limit else 0) + owed limit job rest

theorem owed_append (limit : Nat) (job : Job) (first second : Agenda Job) :
    owed limit job (first ++ second) = owed limit job first + owed limit job second := by
  induction first with
  | nil => simp [owed]
  | cons task rest induction =>
      simp only [List.cons_append, owed, induction]
      omega

theorem owed_perm
    {other : Agenda Job}
    (perm : agenda.Perm other)
    (limit : Nat)
    (job : Job) :
    owed limit job agenda = owed limit job other := by
  induction perm with
  | nil => rfl
  | cons task _ induction => simp only [owed, induction]
  | swap first second rest =>
      simp only [owed]
      omega
  | trans _ _ former latter => exact former.trans latter

theorem owed_of_quiet (quiet : agenda.QuietUntil limit) (job : Job) :
    owed limit job agenda = 0 := by
  induction agenda with
  | nil => rfl
  | cons task rest induction =>
      obtain ⟨first, others⟩ := List.forall_mem_cons.mp quiet
      simp only [owed, PeriodicTask.owed_of_not_due first, induction others]
      split <;> rfl

/-- What is owed to a later millisecond is owed in part to an earlier one. -/
theorem owed_add_owed_caughtUp
    {earlier later : Nat}
    (ordered : earlier ≤ later)
    (job : Job)
    (agenda : Agenda Job) :
    owed earlier job agenda + owed later job (agenda.caughtUp earlier) =
      owed later job agenda := by
  induction agenda with
  | nil => rfl
  | cons task rest induction =>
      have counted := (task.catchUp_caughtUp ordered).1
      simp only [caughtUp, List.map_cons, owed, PeriodicTask.job_caughtUp] at induction ⊢
      split <;> omega

/-- Runs lead from one agenda to another and are what is no longer owed. -/
structure Serves
    (limit : Nat)
    (before : Agenda Job)
    (runs : List (Run Job))
    (after : Agenda Job) :
    Prop where
  count_add_owed (job : Job) :
    (runs.map Run.job).count job + owed limit job after = owed limit job before
  caughtUp_perm : (after.caughtUp limit).Perm (before.caughtUp limit)

namespace Serves

variable {runs later : List (Run Job)}

theorem of_perm (perm : before.Perm after) : Serves limit before [] after where
  count_add_owed job := by simp [owed_perm perm]
  caughtUp_perm := perm.symm.map _

theorem trans
    (first : Serves limit before runs middle)
    (second : Serves limit middle later after) :
    Serves limit before (runs ++ later) after where
  count_add_owed job := by
    have performed := first.count_add_owed job
    have performedLater := second.count_add_owed job
    rw [List.map_append, List.count_append]
    omega
  caughtUp_perm := second.caughtUp_perm.trans first.caughtUp_perm

/-- Tasks that take no part stay as they are. -/
theorem frame (serves : Serves limit before runs after) (apart : Agenda Job) :
    Serves limit (apart ++ before) runs (apart ++ after) where
  count_add_owed job := by
    have performed := serves.count_add_owed job
    rw [owed_append, owed_append]
    omega
  caughtUp_perm := by
    simpa only [caughtUp, List.map_append] using serves.caughtUp_perm.append_left _

/-- A spell of one task before the turns of others. -/
theorem spell
    (within : moment ≤ limit)
    (room : Nat)
    (task : PeriodicTask Job)
    (serves : Serves limit before runs after) :
    Serves limit (task :: before)
      (List.replicate (task.spell moment room).1 { elapsed := moment, job := task.job } ++ runs)
      ((task.spell moment room).2 :: after) where
  count_add_owed job := by
    have performed := serves.count_add_owed job
    have counted := (task.catchUp_spell within room).1
    rw [List.map_append, List.count_append, List.map_replicate, List.count_replicate]
    simp only [owed, PeriodicTask.job_spell, beq_iff_eq]
    split <;> omega
  caughtUp_perm := by
    have same := (task.catchUp_spell within room).2
    simpa only [caughtUp, List.map_cons, same] using serves.caughtUp_perm.cons _

end Serves

theorem serves_round (within : moment ≤ limit) (queue : Agenda Job) :
    Serves limit queue (round moment queue).runs (round moment queue).tasks := by
  induction queue with
  | nil => exact .of_perm (List.Perm.refl [])
  | cons task rest induction =>
      have served := induction.spell within PeriodicTask.spellLimit task
      simp only [round]
      split
      · -- The task is put off behind the others.
        have putOff := served.trans (.of_perm (List.perm_append_singleton _ _).symm)
        simpa only [Round.tasks, List.append_assoc, List.append_nil] using putOff
      · simpa only [Round.tasks, List.cons_append] using served

theorem serves_settle (within : moment ≤ limit) (queue : Agenda Job) :
    Serves limit queue (settle moment queue).1 (settle moment queue).2 := by
  fun_induction settle moment queue with
  | case1 queue turns none =>
      have served : Serves limit queue turns.runs turns.tasks := serves_round within queue
      simpa only [Round.tasks, none, List.append_nil] using served
  | case2 queue turns some rest induction =>
      have served : Serves limit queue turns.runs turns.tasks := serves_round within queue
      exact served.trans (induction.frame turns.armed)

theorem serves_go (limit : Nat) (performed : List (Run Job)) (agenda : Agenda Job) :
    ∃ runs,
      (advance.go limit performed agenda).1 = performed.reverse ++ runs ∧
        Serves limit agenda runs (advance.go limit performed agenda).2 ∧
          QuietUntil limit (advance.go limit performed agenda).2 := by
  fun_induction advance.go limit performed agenda with
  | case1 performed agenda none =>
      refine ⟨[], by simp, .of_perm (List.Perm.refl agenda), ?_⟩
      exact quietUntil_of_next? (by simp [none])
  | case2 performed agenda moment found within settled induction =>
      obtain ⟨runs, appended, served, quiet⟩ := induction
      have parted : (agenda.waiting moment ++ agenda.due moment).Perm agenda :=
        List.perm_append_comm.trans (List.filter_append_perm (PeriodicTask.isDue moment) agenda)
      have turns := (serves_settle within (agenda.due moment)).frame (agenda.waiting moment)
      refine ⟨settled.1 ++ runs, ?_, ?_, quiet⟩
      · rw [appended]
        simp
      · exact ((Serves.of_perm parted.symm).trans turns).trans served
  | case3 performed agenda moment found beyond =>
      refine ⟨[], by simp, .of_perm (List.Perm.refl agenda), quietUntil_of_next? ?_⟩
      intro next sooner
      rw [Option.some.inj (sooner.symm.trans found)]
      omega

/-- Up to a point in time an agenda performs exactly the runs that its tasks owe by then. -/
theorem serves_advance (limit : Nat) (agenda : Agenda Job) :
    (∀ job, ((advance limit agenda).1.map Run.job).count job = owed limit job agenda) ∧
      (advance limit agenda).2.Perm (agenda.caughtUp limit) := by
  obtain ⟨runs, performed, served, quiet⟩ := serves_go limit [] agenda
  have all : (advance limit agenda).1 = runs := performed
  have owing := served.count_add_owed
  have tasks := served.caughtUp_perm
  rw [caughtUp_of_quiet quiet] at tasks
  refine ⟨fun job => ?_, tasks⟩
  rw [all, ← owing job, owed_of_quiet quiet, Nat.add_zero]

end WorkGate.Agenda
