import WorkGate.Agenda

/-!
# A periodic task that counts its runs

The job counts how often it has run and may fail on a given run, which counts and ends the task.
Stopping the task returns its name once; the report tells whether the task had ended before.
-/

namespace WorkGate

/-- A periodic task whose job counts its runs. -/
structure CountedTask where
  task : Option (PeriodicTask Unit)
  runs : Nat := 0
  /-- The milliseconds that have passed since the start. -/
  elapsed : Nat := 0

namespace CountedTask

def start (timer : Timer) (name : String) (period : Duration) (failsOn : Option Nat) :
    CountedTask × List Event :=
  ({ task := some (PeriodicTask.start timer () name period 0 failsOn) },
    [.taskStarted name period])

def pass (millis : Nat) (counted : CountedTask) : CountedTask :=
  let elapsed := counted.elapsed + millis
  let (runs, agenda) := Agenda.advance elapsed counted.task.toList
  { task := agenda.head?, runs := counted.runs + runs.length, elapsed }

/-- Stops the task; the name is returned by the first stop only. -/
def stop (counted : CountedTask) : Option String × List Event × CountedTask :=
  match counted.task with
  | none => (none, [], counted)
  | some task => (some task.name, [task.stopReport], { counted with task := none })

end CountedTask

end WorkGate
