import WorkGate.Duration

/-!
# Clocks

All timestamps are Unix milliseconds.  A deployment reads one of two clocks: a manual clock that
shows what it was last set to, or a clock that shows its start plus the time that has passed.

Passing time is counted in whole milliseconds from the start of the deployment and is kept apart
from the clock, since background tasks follow passing time whatever the clock shows.
-/

namespace WorkGate

/-- What a deployment reads timestamps from. -/
inductive Clock where
  | manual (reading : Int)
  | running (start : Int)
deriving DecidableEq

namespace Clock

/-- The timestamp shown after `elapsed` milliseconds. -/
def now (elapsed : Nat) : Clock → Int
  | manual reading => reading
  | running start => start + elapsed

def set (reading : Int) : Clock → Clock
  | manual _ => manual reading
  | running start => running start

/--
Advances a manual clock by the whole milliseconds of a duration.  Both the step and the sum are
64-bit words, so a long step can move the clock backwards.
-/
def advance (span : Duration) : Clock → Clock
  | manual reading => manual (low64Signed (reading + low64Signed span.millis))
  | running start => running start

@[simp]
theorem now_manual (elapsed : Nat) (reading : Int) : (manual reading).now elapsed = reading :=
  rfl

@[simp]
theorem now_running (elapsed : Nat) (start : Int) :
    (running start).now elapsed = start + elapsed :=
  rfl

end Clock

end WorkGate
