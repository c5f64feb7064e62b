import WorkGate.Proofs.Difficulty.Range

/-!
# The recovery of the ceiling

Operations are calm if no evaluation among them counts more solves than are wanted; solves may be
counted in between.  Calm evaluations raise the ceiling by one and the same increment each, until
it is the highest, whatever happened before them.  As the increment covers the gap within the
recovery ticks, that many calm evaluations bring the ceiling back.

For a climb that begins with a gap, the increment is the gap divided by the recovery ticks, rounded
up.  So the first evaluation after which the ceiling is the highest is known exactly.
-/

namespace WorkGate.Difficulty

/-- No evaluation counts more solves than are wanted. -/
def Calm : List Operation → Difficulty → Prop
  | [], _ => True
  | .record time count :: operations, difficulty => (difficulty.record time count).Calm operations
  | .evaluate time :: operations, difficulty =>
      (difficulty.recent time).length ≤ difficulty.law.desired.toNat ∧
        (difficulty.evaluate time).2.Calm operations

/-- The number of evaluations among operations. -/
def ticks : List Operation → Nat
  | [] => 0
  | .record _ _ :: operations => ticks operations
  | .evaluate _ :: operations => ticks operations + 1

variable {difficulty : Difficulty}

theorem ceiling_evaluate_of_calm
    (inRange : difficulty.InRange)
    {now : Int}
    (calm : (difficulty.recent now).length ≤ difficulty.law.desired.toNat) :
    (difficulty.evaluate now).2.ceiling.toNat =
      min difficulty.law.initial.toNat
        (difficulty.ceiling.toNat + difficulty.nextIncrement.toNat) := by
  rw [evaluate_eq_revise]
  rcases Nat.lt_or_ge difficulty.ceiling.toNat difficulty.law.initial.toNat with below | top
  · rw [revise_of_below calm below, ceiling_loosen, Law.toNat_loosened, Nat.min_comm]
  · have same := Nat.le_antisymm inRange.ceiling_le_initial top
    rw [revise_of_top calm top, ceiling_retain, same]
    exact (Nat.min_eq_left (Nat.le_add_right _ _)).symm

/-- A calm evaluation goes on with the increment that it finds. -/
theorem nextIncrement_evaluate_of_calm
    {now : Int}
    (calm : (difficulty.recent now).length ≤ difficulty.law.desired.toNat) :
    (difficulty.evaluate now).2.nextIncrement = difficulty.nextIncrement := by
  rw [evaluate_eq_revise]
  rcases Nat.lt_or_ge difficulty.ceiling.toNat difficulty.law.initial.toNat with below | top
  · rw [revise_of_below calm below, nextIncrement_loosen]
  · rw [revise_of_top calm top, nextIncrement_retain]

/-- Calm operations raise the ceiling by the same increment at every evaluation. -/
theorem ceiling_run_of_calm
    (inRange : difficulty.InRange)
    {operations : List Operation}
    (calm : difficulty.Calm operations) :
    (difficulty.run operations).ceiling.toNat =
      min difficulty.law.initial.toNat
        (difficulty.ceiling.toNat + ticks operations * difficulty.nextIncrement.toNat) := by
  induction operations generalizing difficulty with
  | nil =>
      rw [ticks, Nat.zero_mul, Nat.add_zero]
      exact (Nat.min_eq_right inRange.ceiling_le_initial).symm
  | cons operation operations induction =>
      cases operation with
      | record time count => exact induction (inRange.record time count) calm
      | evaluate time =>
          obtain ⟨slow, calmAfter⟩ := calm
          have raised := induction (inRange.step (.evaluate time)) calmAfter
          rw [law_step] at raised
          simp only [step, ceiling_evaluate_of_calm inRange slow,
            nextIncrement_evaluate_of_calm slow] at raised
          show ((difficulty.evaluate time).2.run operations).ceiling.toNat = _
          rw [raised, ticks, Nat.add_mul, Nat.one_mul]
          omega

/-- A calm evaluation raises every ceiling but the highest. -/
theorem ceiling_lt_evaluate_of_calm
    (inRange : difficulty.InRange)
    {now : Int}
    (calm : (difficulty.recent now).length ≤ difficulty.law.desired.toNat)
    (below : difficulty.ceiling.toNat < difficulty.law.initial.toNat) :
    difficulty.ceiling.toNat < (difficulty.evaluate now).2.ceiling.toNat := by
  rw [ceiling_evaluate_of_calm inRange calm]
  apply Nat.lt_min.mpr
  exact ⟨below, Nat.lt_add_of_pos_right (inRange.one_le_nextIncrement below)⟩

theorem ceiling_run_eq_initial_iff_of_calm
    (inRange : difficulty.InRange)
    {operations : List Operation}
    (calm : difficulty.Calm operations) :
    (difficulty.run operations).ceiling = difficulty.law.initial ↔
      difficulty.law.initial.toNat ≤
        difficulty.ceiling.toNat + ticks operations * difficulty.nextIncrement.toNat := by
  rw [HashValue.ext_iff, ceiling_run_of_calm inRange calm]
  constructor
  · intro reached
    rw [← reached]
    exact Nat.min_le_right _ _
  · exact Nat.min_eq_left

/--
As many calm evaluations as there are recovery ticks bring the ceiling back, whatever happened
before; each of them raises it until it is the highest, and then it stays.  After a tightening the
ceiling climbs in equal steps, and the evaluation that completes the climb is known.
-/
theorem recovery_of_calm (law : Law) (before : List Operation) :
    let difficulty := (start law).run before
    let ceilingAfter := fun calm => (difficulty.run calm).ceiling
    let recoveryTicks := law.recoveryTicks.toNat
    (∀ calm, difficulty.Calm calm → recoveryTicks ≤ ticks calm → ceilingAfter calm = law.initial) ∧
    (∀ now, (difficulty.recent now).length ≤ law.desired.toNat →
      difficulty.ceiling ≠ law.initial →
        difficulty.ceiling.toNat < (difficulty.evaluate now).2.ceiling.toNat) ∧
    (difficulty.ceiling = law.initial →
      ∀ calm, difficulty.Calm calm → ceilingAfter calm = law.initial) ∧
    (difficulty.pending = none → difficulty.ceiling ≠ law.initial →
      let gap := law.initial.toNat - difficulty.ceiling.toNat
      let increment := ceilDiv gap recoveryTicks
      let last := ceilDiv gap increment
      0 < gap ∧
      (∀ calm, difficulty.Calm calm →
        (ceilingAfter calm).toNat =
          min law.initial.toNat (law.initial.toNat - gap + ticks calm * increment)) ∧
      (∀ calm, difficulty.Calm calm → (ceilingAfter calm = law.initial ↔ last ≤ ticks calm)) ∧
      last ≤ recoveryTicks ∧
      ((recoveryTicks - 1) * (recoveryTicks - 1) < gap → last = recoveryTicks)) := by
  intro difficulty ceilingAfter recoveryTicks
  have inRange : difficulty.InRange := (InRange.start law).run before
  have sameLaw : difficulty.law = law := law_run before
  have within := inRange.ceiling_le_initial
  have covered := inRange.initial_le_of_nextIncrement
  have climbs {calm : List Operation} (isCalm : difficulty.Calm calm) :=
    ceiling_run_of_calm inRange isCalm
  have reaches {calm : List Operation} (isCalm : difficulty.Calm calm) :=
    ceiling_run_eq_initial_iff_of_calm inRange isCalm
  rw [sameLaw] at within covered climbs reaches
  have below_of_ne (lower : difficulty.ceiling ≠ law.initial) :
      difficulty.ceiling.toNat < law.initial.toNat :=
    Nat.lt_of_le_of_ne within fun same => lower (HashValue.ext same)
  refine ⟨?_, ?_, ?_, ?_⟩
  · intro calm isCalm enough
    apply (reaches isCalm).mpr
    exact Nat.le_trans covered (Nat.add_le_add_left (Nat.mul_le_mul_right _ enough) _)
  · intro now slow lower
    rw [← sameLaw] at slow below_of_ne lower
    exact ceiling_lt_evaluate_of_calm inRange slow (below_of_ne lower)
  · intro top calm isCalm
    apply (reaches isCalm).mpr
    rw [top]
    exact Nat.le_add_right _ _
  · intro unset lower gap increment last
    have below := below_of_ne lower
    have gapPositive : 0 < gap := Nat.sub_pos_of_lt below
    have ticksPositive : 0 < recoveryTicks := law.ticks_pos
    have incrementPositive : 0 < increment := ceilDiv_pos ticksPositive gapPositive
    have increment_eq : difficulty.nextIncrement.toNat = increment := by
      rw [nextIncrement, unset, Option.getD_none, Law.toNat_increment, sameLaw]
    have ceiling_eq : difficulty.ceiling.toNat = law.initial.toNat - gap :=
      (Nat.sub_sub_self within).symm
    refine ⟨gapPositive, ?_, ?_, ?_, ?_⟩
    · intro calm isCalm
      rw [← ceiling_eq, ← increment_eq]
      exact climbs isCalm
    · intro calm isCalm
      rw [ceilDiv_le_iff incrementPositive, ← increment_eq]
      exact (reaches isCalm).trans Nat.sub_le_iff_le_add'.symm
    · rw [ceilDiv_le_iff incrementPositive, Nat.mul_comm]
      exact (ceilDiv_le_iff ticksPositive).mp (Nat.le_refl _)
    · intro large
      have needed := ceilDiv_ceilDiv_of_sq_lt large
      rwa [Nat.sub_add_cancel ticksPositive] at needed

/-- A law under which one evaluation with twice the wanted solves halves the ceiling. -/
def halvingLaw : Law where
  initial := ⟨1000, by decide⟩
  desired := 1
  evaluationsPerMinute := 1
  recoveryTicks := 3
  window := 1
  initial_pos := by decide
  desired_pos := by decide
  evaluations_pos := by decide
  ticks_pos := by decide
  window_pos := by decide

/-- From half the ceiling two calm evaluations are not enough, but three are. -/
theorem recovery_of_half :
    let halved := (start halvingLaw).run [.record 0 2, .evaluate 0]
    (halved.run [.evaluate 2, .evaluate 3]).ceiling ≠ halvingLaw.initial ∧
      (halved.run [.evaluate 2, .evaluate 3, .evaluate 4]).ceiling = halvingLaw.initial := by
  intro halved
  have unset : halved.pending = none := by decide +kernel
  have lower : halved.ceiling ≠ halvingLaw.initial := by decide +kernel
  obtain ⟨-, -, -, climb⟩ := recovery_of_calm halvingLaw [.record 0 2, .evaluate 0]
  obtain ⟨-, -, reached_iff, -, exact_last⟩ := climb unset lower
  have last_eq := exact_last (by decide +kernel)
  have calm : halved.Calm [.evaluate 2, .evaluate 3, .evaluate 4] :=
    ⟨by decide +kernel, by decide +kernel, by decide +kernel, trivial⟩
  have calmBefore : halved.Calm [.evaluate 2, .evaluate 3] :=
    ⟨calm.1, calm.2.1, trivial⟩
  constructor
  · intro early
    have enough := (reached_iff _ calmBefore).mp early
    rw [last_eq] at enough
    exact absurd enough (by decide)
  · apply (reached_iff _ calm).mpr
    rw [last_eq]
    decide

end WorkGate.Difficulty
