import WorkGate.Duration

/-!
# Timers

Deadlines are kept in nanoseconds of passing time, counted from the start of the deployment.  A
timer is what the machine contributes to them: which moments its clock can show, and which deadline
an interval sets behind one that has come.  Both are left open, except that an interval with a
period moves on.

An interval fires on time if its first deadline lies one period ahead and can be shown, and if every
deadline is followed by the one a period later.
-/

namespace WorkGate

def nanosPerMilli : Nat := 1000000

/-- The clock and the intervals of a machine. -/
structure Timer where
  /-- Whether the clock can show a moment. -/
  reaches : (moment : Nat) → Bool
  /-- The deadline that an interval of the given period sets behind a deadline. -/
  following : (period : Duration) → (deadline : Nat) → Nat
  lt_following (period : Duration) (deadline : Nat) :
    0 < period.nanos → deadline < following period deadline

namespace Timer

/-- An interval that is begun at a millisecond fires at the multiples of its period from then on. -/
structure Fires (timer : Timer) (period : Duration) (begun : Nat) : Prop where
  reaches_first : timer.reaches (begun * nanosPerMilli + period.nanos)
  following_eq (fired : Nat) :
    0 < fired →
      timer.following period (begun * nanosPerMilli + fired * period.nanos) =
        begun * nanosPerMilli + (fired + 1) * period.nanos

/-- A clock without an end, and intervals that keep to their period. -/
def exact : Timer where
  reaches _ := true
  following period deadline := deadline + period.nanos
  lt_following _ _ positive := Nat.lt_add_of_pos_right positive

theorem fires_exact (period : Duration) (begun : Nat) : exact.Fires period begun where
  reaches_first := rfl
  following_eq fired _ := by
    rw [Nat.succ_mul, ← Nat.add_assoc]
    rfl

end Timer

end WorkGate
