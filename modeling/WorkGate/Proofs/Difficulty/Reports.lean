import WorkGate.Proofs.Difficulty.Tightening

/-!
# What evaluations report

An evaluation reports an adjustment.  Its direction tells which of the three cases the evaluation
found: too many solves, a ceiling that can still rise, or neither.  Its two ceilings are the one
that was in force and the one that is in force from now on.  In range, a ceiling that is said to
move really moves: a tightening lowers every ceiling above one, and a recovery raises the ceiling
because its increment is not zero.

The reports of a run therefore chain.  Each starts from the ceiling with which the one before it
ended, and the ceiling in force is always the last one that was reported.
-/

namespace WorkGate.Difficulty

variable {difficulty : Difficulty}

namespace Adjustment

/-- Which way an adjustment says that the ceiling has moved. -/
inductive Direction where
  | down
  | up
  | level
deriving DecidableEq

def direction : Adjustment → Direction
  | tightened .. => .down
  | loosened .. => .up
  | unchanged .. => .level

/-- The ceiling that an adjustment says it has started from. -/
def previous : Adjustment → HashValue
  | tightened previous _ _ => previous
  | loosened previous _ _ => previous
  | unchanged current _ => current

/--
An adjustment says what an evaluation has done to a difficulty that may rise to `initial`, when so
many solves were `desired` and the window held `rate`.
-/
structure Tells
    (initial : HashValue)
    (desired rate : Nat)
    (before after : Difficulty)
    (adjustment : Adjustment) :
    Prop where
  rate_eq : adjustment.rate = rate
  previous_eq : adjustment.previous = before.ceiling
  current_eq : adjustment.current = after.ceiling
  down_iff : adjustment.direction = .down ↔ desired < rate
  up_iff : adjustment.direction = .up ↔ rate ≤ desired ∧ before.ceiling.toNat < initial.toNat
  level_iff : adjustment.direction = .level ↔ rate ≤ desired ∧ before.ceiling = initial
  of_down :
    adjustment.direction = .down →
      after.pending = none ∧
        (1 < before.ceiling.toNat → after.ceiling.toNat < before.ceiling.toNat) ∧
          (before.ceiling.toNat = 1 → after.ceiling.toNat = 1)
  of_up :
    adjustment.direction = .up →
      before.ceiling.toNat < after.ceiling.toNat ∧ after.ceiling.toNat ≤ initial.toNat
  of_level : adjustment.direction = .level → after.ceiling = before.ceiling

/-- Each adjustment starts from where the one before it ended, and the first from this ceiling. -/
def Chained (first : HashValue) : List Adjustment → Prop
  | [] => True
  | adjustment :: later => adjustment.previous = first ∧ Chained adjustment.current later

/-- The last ceiling that was reported, or else the first one. -/
def lastReported (first : HashValue) (adjustments : List Adjustment) : HashValue :=
  adjustments.foldl (fun _ adjustment => adjustment.current) first

end Adjustment

/-! ## One evaluation -/

theorem evaluate_of_below
    {now : Int}
    (slow : (difficulty.recent now).length ≤ difficulty.law.desired.toNat)
    (below : difficulty.ceiling.toNat < difficulty.law.initial.toNat) :
    difficulty.evaluate now =
      (.loosened difficulty.ceiling
          (difficulty.law.loosened difficulty.ceiling difficulty.nextIncrement)
          (difficulty.recent now).length,
        difficulty.loosen
          (difficulty.law.loosened difficulty.ceiling difficulty.nextIncrement)
          difficulty.nextIncrement (difficulty.recent now)) := by
  rw [evaluate_eq_revise, revise_of_below slow below]

theorem evaluate_of_top
    {now : Int}
    (slow : (difficulty.recent now).length ≤ difficulty.law.desired.toNat)
    (top : difficulty.law.initial.toNat ≤ difficulty.ceiling.toNat) :
    difficulty.evaluate now =
      (.unchanged difficulty.ceiling (difficulty.recent now).length,
        difficulty.retain (difficulty.recent now)) := by
  rw [evaluate_eq_revise, revise_of_top slow top]

/-- The adjustment starts from the ceiling in force and reports the one that comes into force. -/
theorem ceilings_evaluate (now : Int) (difficulty : Difficulty) :
    (difficulty.evaluate now).1.previous = difficulty.ceiling ∧
      (difficulty.evaluate now).1.current = (difficulty.evaluate now).2.ceiling := by
  rcases Nat.lt_or_ge difficulty.law.desired.toNat (difficulty.recent now).length with fast | slow
  · rw [evaluate_of_fast fast]
    exact ⟨rfl, rfl⟩
  · rcases Nat.lt_or_ge difficulty.ceiling.toNat difficulty.law.initial.toNat with below | top
    · rw [evaluate_of_below slow below]
      exact ⟨rfl, rfl⟩
    · rw [evaluate_of_top slow top]
      exact ⟨rfl, rfl⟩

/-- In range, every evaluation reports what it does. -/
theorem InRange.tells_evaluate (inRange : difficulty.InRange) (now : Int) :
    (difficulty.evaluate now).1.Tells difficulty.law.initial difficulty.law.desired.toNat
      (difficulty.recent now).length difficulty (difficulty.evaluate now).2 := by
  obtain ⟨previous_eq, current_eq⟩ := ceilings_evaluate now difficulty
  rcases Nat.lt_or_ge difficulty.law.desired.toNat (difficulty.recent now).length with fast | slow
  · rw [evaluate_of_fast fast] at previous_eq current_eq ⊢
    exact
      { rate_eq := rfl
        previous_eq
        current_eq
        down_iff := ⟨fun _ => fast, fun _ => rfl⟩
        up_iff := ⟨nofun, fun slow => absurd slow.1 (Nat.not_le.mpr fast)⟩
        level_iff := ⟨nofun, fun slow => absurd slow.1 (Nat.not_le.mpr fast)⟩
        of_down := fun _ => ⟨rfl, Law.tightened_lt, Law.tightened_of_eq_one⟩
        of_up := nofun
        of_level := nofun }
  · rcases Nat.lt_or_ge difficulty.ceiling.toNat difficulty.law.initial.toNat with below | top
    · have step := inRange.one_le_nextIncrement below
      have different : difficulty.ceiling ≠ difficulty.law.initial := fun same =>
        Nat.ne_of_lt below (congrArg HashValue.toNat same)
      rw [evaluate_of_below slow below] at previous_eq current_eq ⊢
      refine
        { rate_eq := rfl
          previous_eq
          current_eq
          down_iff := ⟨nofun, fun fast => absurd fast (Nat.not_lt.mpr slow)⟩
          up_iff := ⟨fun _ => ⟨slow, below⟩, fun _ => rfl⟩
          level_iff := ⟨nofun, fun level => absurd level.2 different⟩
          of_down := nofun
          of_up := ?_
          of_level := nofun }
      intro _
      rw [ceiling_loosen, Law.toNat_loosened]
      exact ⟨Nat.lt_min.mpr ⟨Nat.lt_add_of_pos_right step, below⟩, Nat.min_le_right _ _⟩
    · have same : difficulty.ceiling = difficulty.law.initial :=
        HashValue.ext (Nat.le_antisymm inRange.ceiling_le_initial top)
      rw [evaluate_of_top slow top] at previous_eq current_eq ⊢
      exact
        { rate_eq := rfl
          previous_eq
          current_eq
          down_iff := ⟨nofun, fun fast => absurd fast (Nat.not_lt.mpr slow)⟩
          up_iff := ⟨nofun, fun up => absurd up.2 (Nat.not_lt.mpr top)⟩
          level_iff := ⟨fun _ => ⟨slow, same⟩, fun _ => rfl⟩
          of_down := nofun
          of_up := nofun
          of_level := fun _ => rfl }

/-! ## The reports of a run -/

/-- What the evaluations among operations report, the earliest first. -/
def reports (difficulty : Difficulty) : List Operation → List Adjustment
  | [] => []
  | .record time count :: later => (difficulty.record time count).reports later
  | .evaluate time :: later =>
      (difficulty.evaluate time).1 :: (difficulty.evaluate time).2.reports later

theorem run_append (earlier later : List Operation) :
    difficulty.run (earlier ++ later) = (difficulty.run earlier).run later :=
  List.foldl_append

theorem reports_append (earlier later : List Operation) :
    difficulty.reports (earlier ++ later) =
      difficulty.reports earlier ++ (difficulty.run earlier).reports later := by
  induction earlier generalizing difficulty with
  | nil => rfl
  | cons operation earlier induction =>
      cases operation with
      | record time count => exact induction
      | evaluate time => exact congrArg _ induction

theorem chained_reports (operations : List Operation) :
    Adjustment.Chained difficulty.ceiling (difficulty.reports operations) := by
  induction operations generalizing difficulty with
  | nil => trivial
  | cons operation later induction =>
      cases operation with
      | record time count =>
          show Adjustment.Chained (difficulty.record time count).ceiling _
          exact induction
      | evaluate time =>
          obtain ⟨previous_eq, current_eq⟩ := ceilings_evaluate time difficulty
          refine ⟨previous_eq, ?_⟩
          rw [current_eq]
          exact induction

theorem ceiling_run (operations : List Operation) :
    (difficulty.run operations).ceiling =
      Adjustment.lastReported difficulty.ceiling (difficulty.reports operations) := by
  induction operations generalizing difficulty with
  | nil => rfl
  | cons operation later induction =>
      cases operation with
      | record time count => exact induction
      | evaluate time =>
          obtain ⟨-, current_eq⟩ := ceilings_evaluate time difficulty
          rw [reports, Adjustment.lastReported, List.foldl_cons, current_eq]
          exact induction

/--
Every evaluation after a run reports what it does, the reports of the run chain, and the ceiling in
force is the last one reported.
-/
theorem trail_of_run (law : Law) (operations : List Operation) :
    let difficulty := (start law).run operations
    (∀ now,
      (difficulty.evaluate now).1.Tells law.initial law.desired.toNat
        (difficulty.recent now).length difficulty (difficulty.evaluate now).2) ∧
    Adjustment.Chained law.initial ((start law).reports operations) ∧
    difficulty.ceiling = Adjustment.lastReported law.initial ((start law).reports operations) := by
  intro difficulty
  have lawful : difficulty.law = law := law_run operations
  have chained : Adjustment.Chained (start law).ceiling _ := chained_reports operations
  refine ⟨fun now => ?_, chained, ceiling_run operations⟩
  have tells := InRange.tells_evaluate ((InRange.start law).run operations) now
  rwa [lawful] at tells

end WorkGate.Difficulty
