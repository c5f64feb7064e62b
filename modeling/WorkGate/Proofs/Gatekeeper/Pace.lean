import WorkGate.Proofs.Difficulty.Reports
import WorkGate.Proofs.Gatekeeper.Operations

/-!
# The pace that solves are held to

An evaluation compares the number of solves in the window with the number that is wanted per minute.
As long as no operation before it was at a later reading, this is the number of all solves that were
recorded in the window, whatever was evaluated in between: an evaluation only forgets what is
outside the window at its own reading, and that is outside it at every later one.

The number is not scaled from the window to a minute.  If the window is a minute, or longer by less
than the share of one solve, then the ceiling is tightened exactly if the solves come faster than is
wanted.  Over a shorter window they may come faster without a tightening, and over a longer one the
ceiling is tightened although they come more slowly.
-/

namespace WorkGate

namespace Difficulty

variable {difficulty : Difficulty} {operation : Operation} {operations : List Operation} {now : Int}

namespace Operation

/-- The clock reading at which an operation happens. -/
def time : Operation → Int
  | record time _ => time
  | evaluate time => time

/-- How many solves an operation counts in the window before this reading. -/
def solvesWithin (window now : Int) : Operation → Nat
  | record time count => if now - time ≤ window then count else 0
  | evaluate _ => 0

end Operation

/-- How many solves operations count in the window before this reading. -/
def solvesWithin (window now : Int) : List Operation → Nat
  | [] => 0
  | operation :: later => operation.solvesWithin window now + solvesWithin window now later

theorem length_recent_record (time : Int) (count : Nat) :
    ((difficulty.record time count).recent now).length =
      (if now - time ≤ difficulty.law.window then count else 0) +
        (difficulty.recent now).length := by
  have recent_eq :
      (difficulty.record time count).recent now =
        ((List.replicate count time).filter fun solved => now - solved ≤ difficulty.law.window) ++
          difficulty.recent now :=
    List.filter_append ..
  rw [recent_eq, List.length_append]
  split
  · next within => rw [List.filter_replicate_of_pos (by simpa using within), List.length_replicate]
  · next outside => rw [List.filter_replicate_of_neg (by simpa using outside)]; rfl

/-- What an evaluation forgets is not in the window at any later reading. -/
theorem recent_evaluate {time : Int} (ordered : time ≤ now) :
    (difficulty.evaluate time).2.recent now = difficulty.recent now := by
  rw [evaluate_eq_revise, recent, law_revise, solves_revise, recent, List.filter_filter, recent]
  apply List.filter_congr
  intro solved _
  have kept : now - solved ≤ difficulty.law.window → time - solved ≤ difficulty.law.window := by
    omega
  simpa using kept

theorem length_recent_step (ordered : operation.time ≤ now) :
    ((difficulty.step operation).recent now).length =
      operation.solvesWithin difficulty.law.window now + (difficulty.recent now).length := by
  cases operation with
  | record time count => exact length_recent_record time count
  | evaluate time =>
      have same : (difficulty.step (.evaluate time)).recent now = difficulty.recent now :=
        recent_evaluate ordered
      rw [same, Operation.solvesWithin, Nat.zero_add]

/-- If nothing happened at a later reading, all solves recorded in the window are counted. -/
theorem length_recent_run (ordered : ∀ operation ∈ operations, operation.time ≤ now) :
    ((difficulty.run operations).recent now).length =
      solvesWithin difficulty.law.window now operations + (difficulty.recent now).length := by
  -- From the front, so that each step is compared with the one reading at the end.
  induction operations generalizing difficulty with
  | nil => exact (Nat.zero_add _).symm
  | cons operation later induction =>
      obtain ⟨first, others⟩ := List.forall_mem_cons.mp ordered
      have stepped : difficulty.run (operation :: later) = (difficulty.step operation).run later :=
        rfl
      rw [stepped, induction others, length_recent_step first, law_step, solvesWithin]
      omega

/-- A new difficulty tightens exactly if more solves than wanted were recorded in the window. -/
theorem evaluate_run_start
    (law : Law)
    (ordered : ∀ operation ∈ operations, operation.time ≤ now) :
    let adjustment := (((start law).run operations).evaluate now).1
    adjustment.rate = solvesWithin law.window now operations ∧
      (adjustment.direction = .down ↔
        law.desired.toNat < solvesWithin law.window now operations) := by
  intro adjustment
  have tells := (trail_of_run law operations).1 now
  have counted : (((start law).run operations).recent now).length = _ := length_recent_run ordered
  rw [counted] at tells
  exact ⟨tells.rate_eq, tells.down_iff⟩

/--
A count that is compared with a wanted count says the same as the rate per minute if the window is a
minute, or longer by less than the share of one solve.
-/
theorem count_agrees_with_rate_iff {desired window : Nat} (positive : 0 < desired) :
    (∀ count, desired < count ↔ desired * window < count * 60000) ↔
      60000 ≤ window ∧ desired * window < (desired + 1) * 60000 := by
  constructor
  · intro agrees
    have enough : desired * 60000 ≤ desired * window := by
      have idle := (agrees desired).not.mp (Nat.lt_irrefl desired)
      exact Nat.not_lt.mp idle
    exact ⟨Nat.le_of_mul_le_mul_left enough positive,
      (agrees (desired + 1)).mp (Nat.lt_succ_self _)⟩
  · rintro ⟨long, short⟩ count
    constructor
    · intro fast
      exact Nat.lt_of_lt_of_le short (Nat.mul_le_mul_right 60000 fast)
    · intro fast
      by_contra slow
      have fewer : count * 60000 ≤ desired * window :=
        Nat.mul_le_mul (Nat.not_lt.mp slow) long
      exact Nat.not_lt.mpr fewer fast

end Difficulty

/-- A window of whole milliseconds that fits into a signed word is kept as it is. -/
theorem Policy.windowMillis_eq
    {policy : Policy}
    {window : Nat}
    (whole : policy.solveWindow.nanos = window * 1000000)
    (fits : window < 0x8000000000000000) :
    policy.windowMillis = window := by
  have millis : policy.solveWindow.millis = window := by
    rw [Duration.millis, whole, Nat.mul_div_cancel window (by decide)]
  rw [Policy.windowMillis, millis]
  exact low64Signed_eq_self (by omega) (by omega)

namespace Gatekeeper

open Difficulty (Operation solvesWithin)

/--
Whatever was recorded and evaluated at readings up to now, an evaluation tightens exactly if the
solves in the window are more than are wanted per minute.  This is the comparison of the rates per
minute for no other windows than a minute, or one that is longer by less than the share of a solve.
-/
theorem tightening_compares_the_count
    {policy : Policy}
    {keeper : Gatekeeper}
    {window : Nat}
    (created : create policy = .ok keeper)
    (whole : policy.solveWindow.nanos = window * 1000000)
    (fits : window < 0x8000000000000000) :
    let adjustment := fun (operations : List Operation) (now : Int) =>
      ((keeper.difficulty.run operations).evaluate now).1
    let desired := policy.desiredRate.toNat
    (∀ operations now, (∀ operation ∈ operations, operation.time ≤ now) →
      (adjustment operations now).rate = solvesWithin window now operations ∧
        ((adjustment operations now).direction = .down ↔
          desired < solvesWithin window now operations)) ∧
    ((∀ operations now, (∀ operation ∈ operations, operation.time ≤ now) →
        ((adjustment operations now).direction = .down ↔
          desired * window < solvesWithin window now operations * 60000)) ↔
      60000 ≤ window ∧ desired * window < (desired + 1) * 60000) := by
  intro adjustment desired
  obtain ⟨law, lawful, rfl⟩ := exists_law_of_create created
  have window_eq : law.window = window :=
    (Difficulty.Law.window_ofPolicy lawful).trans (Policy.windowMillis_eq whole fits)
  have desired_eq : law.desired = policy.desiredRate := Difficulty.Law.desired_ofPolicy lawful
  have positive : 0 < desired := by
    have wanted := law.desired_pos
    rwa [desired_eq] at wanted
  have counts (operations : List Operation) (now : Int)
      (ordered : ∀ operation ∈ operations, operation.time ≤ now) :
      (adjustment operations now).rate = solvesWithin window now operations ∧
        ((adjustment operations now).direction = .down ↔
          desired < solvesWithin window now operations) := by
    have counted := Difficulty.evaluate_run_start law ordered
    rwa [window_eq, desired_eq] at counted
  refine ⟨counts, ?_⟩
  rw [← Difficulty.count_agrees_with_rate_iff positive]
  constructor
  · intro agrees count
    -- Any number of solves can be in the window: they are recorded just now.
    have within : solvesWithin window 0 [.record 0 count] = count := by
      simp [solvesWithin, Operation.solvesWithin]
    have ordered : ∀ operation ∈ [Operation.record 0 count], operation.time ≤ 0 := by
      simp [Operation.time]
    have agreed := agrees _ 0 ordered
    rwa [(counts _ 0 ordered).2, within] at agreed
  · intro agrees operations now ordered
    rw [(counts operations now ordered).2]
    exact agrees _

/-- A policy that wants ten solves per minute and counts them over two minutes. -/
def twoMinutePolicy : Policy where
  solveWindow := .ofSeconds 120

/-- A policy that wants ten solves per minute and counts them over half a minute. -/
def halfMinutePolicy : Policy where
  solveWindow := .ofSeconds 30

/-- Eleven solves within two minutes tighten, also if some of them were evaluated before. -/
theorem twoMinutes_tighten_after_eleven :
    ∃ keeper,
      create twoMinutePolicy = .ok keeper ∧
        let adjustment :=
          ((keeper.difficulty.run [.record 0 6, .evaluate 1, .record 2 5]).evaluate 3).1
        adjustment.rate = 11 ∧ adjustment.direction = .down := by
  obtain ⟨keeper, created⟩ : ∃ keeper, create twoMinutePolicy = .ok keeper := ⟨_, rfl⟩
  have whole : twoMinutePolicy.solveWindow.nanos = 120000 * 1000000 := by decide +kernel
  obtain ⟨counts, -⟩ := tightening_compares_the_count created whole (by decide)
  obtain ⟨rate, down⟩ :=
    counts [.record 0 6, .evaluate 1, .record 2 5] 3 (by simp [Operation.time])
  exact ⟨keeper, created, rate.trans (by decide +kernel), down.mpr (by decide +kernel)⟩

/--
Eleven solves in two minutes are fewer than ten per minute, and yet they tighten; six in half a
minute are more than ten per minute, and yet they do not.
-/
theorem tightening_misses_the_rate :
    (∃ keeper,
      create twoMinutePolicy = .ok keeper ∧
        solvesWithin 120000 0 [.record 0 11] * 60000 ≤
            twoMinutePolicy.desiredRate.toNat * 120000 ∧
          ((keeper.difficulty.run [.record 0 11]).evaluate 0).1.direction = .down) ∧
      ∃ keeper,
        create halfMinutePolicy = .ok keeper ∧
          halfMinutePolicy.desiredRate.toNat * 30000 <
              solvesWithin 30000 0 [.record 0 6] * 60000 ∧
            ((keeper.difficulty.run [.record 0 6]).evaluate 0).1.direction = .level := by
  refine ⟨⟨_, rfl, ?_, ?_⟩, ⟨_, rfl, ?_, ?_⟩⟩
  · decide +kernel
  · decide +kernel
  · decide +kernel
  · decide +kernel

end Gatekeeper

end WorkGate
