import Mathlib.Data.List.Induction
import WorkGate.Timer

/-!
# The phases in which background tasks run

The commands that are given to a deployment alone tell how long its background tasks have been
running in each phase.  A start begins a phase unless one is present, a stop ends it, and time that
passes makes the present phase longer.
-/

namespace WorkGate.Background

/-- What is done to a deployment as far as its background tasks are concerned. -/
inductive Command where
  | start
  | stop
  | pass (millis : Nat)
deriving DecidableEq

/-- A command to start or to stop. -/
def Command.isSwitch : Command → Bool
  | start => true
  | stop => true
  | pass _ => false

/-- The milliseconds that pass in the course of some commands. -/
def passed : List Command → Nat
  | [] => 0
  | .pass millis :: rest => millis + passed rest
  | _ :: rest => passed rest

theorem passed_append (first second : List Command) :
    passed (first ++ second) = passed first + passed second := by
  fun_induction passed first with
  | case1 => simp
  | case2 millis rest induction =>
      simp only [List.cons_append, passed, induction]
      omega
  | case3 command rest timeless induction =>
      cases command with
      | pass millis => exact absurd rfl (timeless millis)
      | start => exact induction
      | stop => exact induction

/-- How long the tasks have been running after each start that found them idle. -/
structure Phases where
  /-- The lengths of the phases that were stopped, the last one first. -/
  stopped : List Nat := []
  /-- The length of the present phase, if the tasks are running. -/
  present : Option Nat := none

/-- The whole periods in phases of these lengths, counted separately for each phase. -/
def wholePeriods (period : Duration) : (lengths : List Nat) → Nat
  | [] => 0
  | length :: rest => length * nanosPerMilli / period.nanos + wholePeriods period rest

namespace Phases

def step (phases : Phases) : Command → Phases
  | .start => { phases with present := phases.present.or (some 0) }
  | .stop => { stopped := phases.present.toList ++ phases.stopped }
  | .pass millis => { phases with present := phases.present.map (· + millis) }

/-- The phases that commands to an idle deployment lead to. -/
def of (commands : List Command) : Phases :=
  commands.foldl step {}

def lengths (phases : Phases) : List Nat :=
  phases.present.toList ++ phases.stopped

variable {phases : Phases} {length millis : Nat} {command : Command}

theorem of_concat (commands : List Command) (command : Command) :
    of (commands ++ [command]) = (of commands).step command := by
  simp [of]

/-- A phase goes on if it is begun again. -/
theorem step_start_of_present (present : phases.present = some length) :
    phases.step .start = phases := by
  cases phases
  cases present
  rfl

/-- Where no phase is present, none grows. -/
theorem step_pass_of_absent (absent : phases.present = none) :
    phases.step (.pass millis) = phases := by
  cases phases
  cases absent
  rfl

/-- Starting and stopping adds no whole period. -/
theorem wholePeriods_step_switch (phases : Phases) (period : Duration) (switch : command.isSwitch) :
    wholePeriods period (phases.step command).lengths = wholePeriods period phases.lengths := by
  cases command with
  | pass millis => cases switch
  | stop => rfl
  | start =>
      cases present : phases.present with
      | none => simp [step, lengths, present, wholePeriods]
      | some length => rw [step_start_of_present present]

/-- A phase is present if the last switch was a start. -/
theorem isSome_present_iff (commands : List Command) :
    (of commands).present.isSome ↔
      (commands.filter Command.isSwitch).getLast? = some .start := by
  induction commands using List.reverseRecOn with
  | nil => simp [of]
  | append_singleton commands command induction =>
      rw [of_concat]
      cases command with
      | start => simp [step, Command.isSwitch]
      | stop => simp [step, Command.isSwitch]
      | pass millis => simpa [step, Command.isSwitch] using induction

end Phases

end WorkGate.Background
