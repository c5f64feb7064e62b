import WorkGate.Policy
import WorkGate.Rounding

/-!
# The difficulty of the work

The ceiling of admissible digests starts at its highest value and is revised at each evaluation.
If more solves lie in the window than are wanted, the ceiling is tightened: it moves a fraction of
the way towards the ceiling that would bring the rate down to the wanted one.  Otherwise it climbs
back to its highest value by a constant increment, which is fixed when the climb begins and
forgotten when the ceiling is tightened again.

`Difficulty.Law` holds the parameters, which never change and are positive by construction;
`Difficulty` adds what changes.  Arithmetic is exact on natural numbers.  The overshoot ratio is a
fixed-point number with six decimal places, rounded down.
-/

namespace WorkGate

/-- Numerator and denominator of the fixed-point overshoot ratio are scaled by a million. -/
def ratioScale : Nat := 1000000

/-- The parameters of the difficulty. -/
structure Difficulty.Law where
  initial : HashValue
  desired : UInt64
  evaluationsPerMinute : UInt64
  recoveryTicks : UInt64
  /-- The age in milliseconds up to which a solve counts. -/
  window : Int
  initial_pos : 0 < initial.toNat
  desired_pos : 0 < desired.toNat
  evaluations_pos : 0 < evaluationsPerMinute.toNat
  ticks_pos : 0 < recoveryTicks.toNat
  window_pos : 0 < window

namespace Difficulty.Law

/-- Checks the parameters: the ceiling first, then the rate, then the rest. -/
def create
    (initial : HashValue)
    (desired evaluationsPerMinute recoveryTicks : UInt64)
    (window : Int) :
    Except PolicyFault Law :=
  if initial_pos : 0 < initial.toNat then
    if desired_pos : 0 < desired.toNat then
      if rest : 0 < evaluationsPerMinute.toNat ∧ 0 < recoveryTicks.toNat ∧ 0 < window then
        .ok
          { initial, desired, evaluationsPerMinute, recoveryTicks, window, initial_pos, desired_pos
            evaluations_pos := rest.1
            ticks_pos := rest.2.1
            window_pos := rest.2.2 }
      else .error .nonpositiveTiming
    else .error .zeroRate
  else .error .zeroCeiling

def ofPolicy (policy : Policy) : Except PolicyFault Law :=
  create policy.initialCeiling policy.desiredRate policy.evaluationsPerMinute
    policy.recoveryTicks policy.windowMillis

/-- How far the rate overshoots the wanted one, in millionths. -/
def overshoot (law : Law) (rate : Nat) : Nat :=
  rate * ratioScale / law.desired.toNat

/-- The ceiling that a full correction would reach, never above the present one. -/
def target (law : Law) (ceiling : HashValue) (rate : Nat) : Nat :=
  min (ceiling.toNat * ratioScale / law.overshoot rate) ceiling.toNat

/-- The part of the correction that one evaluation applies, at least one if the ceiling allows. -/
def tighteningStep (law : Law) (ceiling : HashValue) (rate : Nat) : Nat :=
  let step := (ceiling.toNat - law.target ceiling rate) / law.evaluationsPerMinute.toNat
  if step = 0 ∧ 1 < ceiling.toNat then 1 else step

/-- The ceiling after an evaluation with too many solves. -/
def tightened (law : Law) (ceiling : HashValue) (rate : Nat) : HashValue where
  toNat := max 1 (ceiling.toNat - law.tighteningStep ceiling rate)
  toNat_lt := by
    have ceilingSmall := ceiling.toNat_lt
    omega

/-- The increment that closes the gap to the highest ceiling within the recovery ticks. -/
def increment (law : Law) (ceiling : HashValue) : HashValue where
  toNat := ceilDiv (law.initial.toNat - ceiling.toNat) law.recoveryTicks.toNat
  toNat_lt := by
    have initialSmall := law.initial.toNat_lt
    have bounded :
        ceilDiv (law.initial.toNat - ceiling.toNat) law.recoveryTicks.toNat ≤
          law.initial.toNat - ceiling.toNat :=
      ceilDiv_le_self law.ticks_pos
    omega

/-- The ceiling after one step of a recovery, never above the highest. -/
def loosened (law : Law) (ceiling increment : HashValue) : HashValue where
  toNat := min (ceiling.toNat + increment.toNat) law.initial.toNat
  toNat_lt := by
    have initialSmall := law.initial.toNat_lt
    omega

end Difficulty.Law

/-- The ceiling in force and what its revision depends on. -/
structure Difficulty where
  law : Difficulty.Law
  ceiling : HashValue
  pending : Option HashValue
  /--
  The times of the solves still held, latest first.  A solve is known by its time alone: nothing
  reads the response nonce that it was counted for.
  -/
  solves : List Int

namespace Difficulty

/-- What an evaluation did to the ceiling, with the number of solves it counted. -/
inductive Adjustment where
  | tightened (previous current : HashValue) (rate : Nat)
  | loosened (previous current : HashValue) (rate : Nat)
  | unchanged (current : HashValue) (rate : Nat)
deriving DecidableEq

namespace Adjustment

def current : Adjustment → HashValue
  | tightened _ current _ => current
  | loosened _ current _ => current
  | unchanged current _ => current

def rate : Adjustment → Nat
  | tightened _ _ rate => rate
  | loosened _ _ rate => rate
  | unchanged _ rate => rate

end Adjustment

/-- The difficulty before any solve: the ceiling is the highest. -/
def start (law : Law) : Difficulty where
  law := law
  ceiling := law.initial
  pending := none
  solves := []

def ofPolicy (policy : Policy) : Except PolicyFault Difficulty :=
  (Law.ofPolicy policy).map start

/-- Counts `count` solves at the same time. -/
def record (time : Int) (count : Nat) (difficulty : Difficulty) : Difficulty :=
  { difficulty with solves := List.replicate count time ++ difficulty.solves }

/-- The solves that still lie in the window. -/
def recent (now : Int) (difficulty : Difficulty) : List Int :=
  difficulty.solves.filter fun solved => now - solved ≤ difficulty.law.window

/-- Forgets solves outside the window and revises the ceiling. -/
def evaluate (now : Int) (difficulty : Difficulty) : Adjustment × Difficulty :=
  let solves := difficulty.recent now
  let rate := solves.length
  let ceiling := difficulty.ceiling
  if difficulty.law.desired.toNat < rate then
    let current := difficulty.law.tightened ceiling rate
    (.tightened ceiling current rate,
      { difficulty with ceiling := current, pending := none, solves })
  else if difficulty.law.initial ≤ ceiling then
    (.unchanged ceiling rate, { difficulty with solves })
  else
    let increment := difficulty.pending.getD (difficulty.law.increment ceiling)
    let current := difficulty.law.loosened ceiling increment
    (.loosened ceiling current rate,
      { difficulty with ceiling := current, pending := some increment, solves })

/-- One thing that happens to the difficulty, with the clock reading at which it happens. -/
inductive Operation where
  /-- So many solves are counted. -/
  | record (time : Int) (count : Nat)
  | evaluate (time : Int)
deriving DecidableEq

def step (difficulty : Difficulty) : Operation → Difficulty
  | .record time count => difficulty.record time count
  | .evaluate time => (difficulty.evaluate time).2

def run (difficulty : Difficulty) (operations : List Operation) : Difficulty :=
  operations.foldl step difficulty

end Difficulty

end WorkGate
