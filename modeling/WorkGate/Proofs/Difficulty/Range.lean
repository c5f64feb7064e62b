import WorkGate.Proofs.Difficulty.Law
import WorkGate.Proofs.Rounding

/-!
# The range of the ceiling

The ceiling never drops below one and never rises above the highest.  While a recovery is under
way, its increment is not zero and covers what is left of the gap within the recovery ticks.  Both
hold after any operations whatever, and for any number of solves that an evaluation may count.

The increment is computed from the gap at the moment the climb begins.  It stays large enough
because the ceiling only rises until the next tightening, and a tightening forgets it.
-/

namespace WorkGate.Difficulty

namespace Law

variable {law : Law} {ceiling increment : HashValue} {rate : Nat}

/-- With more solves than wanted, the overshoot ratio is at least one. -/
theorem ratioScale_le_overshoot (fast : law.desired.toNat ≤ rate) :
    ratioScale ≤ law.overshoot rate := by
  apply (Nat.le_div_iff_mul_le law.desired_pos).mpr
  rw [Nat.mul_comm]
  exact Nat.mul_le_mul_right ratioScale fast

theorem overshoot_pos (fast : law.desired.toNat ≤ rate) : 0 < law.overshoot rate :=
  Nat.lt_of_lt_of_le (by decide) (ratioScale_le_overshoot fast)

/-- A full correction does not raise the ceiling. -/
theorem quotient_le (fast : law.desired.toNat ≤ rate) :
    ceiling.toNat * ratioScale / law.overshoot rate ≤ ceiling.toNat := by
  apply Nat.div_le_of_le_mul
  rw [Nat.mul_comm (law.overshoot rate)]
  exact Nat.mul_le_mul_left ceiling.toNat (ratioScale_le_overshoot fast)

theorem one_le_tightened : 1 ≤ (law.tightened ceiling rate).toNat :=
  Nat.le_max_left _ _

theorem tightened_le (positive : 1 ≤ ceiling.toNat) :
    (law.tightened ceiling rate).toNat ≤ ceiling.toNat :=
  Nat.max_le.mpr ⟨positive, Nat.sub_le _ _⟩

theorem gap_le_ticks_mul_increment :
    law.initial.toNat - ceiling.toNat ≤
      law.recoveryTicks.toNat * (law.increment ceiling).toNat := by
  rw [Nat.mul_comm]
  exact (ceilDiv_le_iff law.ticks_pos).mp (Nat.le_refl _)

theorem one_le_increment (below : ceiling.toNat < law.initial.toNat) :
    1 ≤ (law.increment ceiling).toNat :=
  ceilDiv_pos law.ticks_pos (Nat.sub_pos_of_lt below)

theorem toNat_tightened :
    (law.tightened ceiling rate).toNat = max 1 (ceiling.toNat - law.tighteningStep ceiling rate) :=
  rfl

theorem toNat_increment :
    (law.increment ceiling).toNat =
      ceilDiv (law.initial.toNat - ceiling.toNat) law.recoveryTicks.toNat :=
  rfl

theorem toNat_loosened :
    (law.loosened ceiling increment).toNat =
      min (ceiling.toNat + increment.toNat) law.initial.toNat :=
  rfl

end Law

variable {difficulty : Difficulty} {current increment : HashValue} {solves : List Int}

/-! ## The three outcomes of an evaluation -/

/-- Sets the ceiling, keeps these solves, and forgets the recovery under way. -/
def tighten (current : HashValue) (solves : List Int) (difficulty : Difficulty) : Difficulty :=
  { difficulty with ceiling := current, pending := none, solves }

/-- Sets the ceiling, keeps these solves, and goes on recovering with this increment. -/
def loosen
    (current increment : HashValue)
    (solves : List Int)
    (difficulty : Difficulty) :
    Difficulty :=
  { difficulty with ceiling := current, pending := some increment, solves }

/-- Keeps these solves and changes nothing else. -/
def retain (solves : List Int) (difficulty : Difficulty) : Difficulty :=
  { difficulty with solves }

@[simp]
theorem law_tighten : (difficulty.tighten current solves).law = difficulty.law :=
  rfl

@[simp]
theorem law_loosen : (difficulty.loosen current increment solves).law = difficulty.law :=
  rfl

@[simp]
theorem law_retain : (difficulty.retain solves).law = difficulty.law :=
  rfl

@[simp]
theorem solves_tighten : (difficulty.tighten current solves).solves = solves :=
  rfl

@[simp]
theorem solves_loosen : (difficulty.loosen current increment solves).solves = solves :=
  rfl

@[simp]
theorem solves_retain : (difficulty.retain solves).solves = solves :=
  rfl

@[simp]
theorem ceiling_tighten : (difficulty.tighten current solves).ceiling = current :=
  rfl

@[simp]
theorem pending_tighten : (difficulty.tighten current solves).pending = none :=
  rfl

@[simp]
theorem ceiling_loosen : (difficulty.loosen current increment solves).ceiling = current :=
  rfl

@[simp]
theorem ceiling_retain : (difficulty.retain solves).ceiling = difficulty.ceiling :=
  rfl

/-- The increment of the next step of a recovery. -/
def nextIncrement (difficulty : Difficulty) : HashValue :=
  difficulty.pending.getD (difficulty.law.increment difficulty.ceiling)

@[simp]
theorem nextIncrement_loosen :
    (difficulty.loosen current increment solves).nextIncrement = increment :=
  rfl

@[simp]
theorem nextIncrement_retain :
    (difficulty.retain solves).nextIncrement = difficulty.nextIncrement :=
  rfl

/-- The effect of an evaluation that keeps these solves and counts this many of them. -/
def revise (rate : Nat) (solves : List Int) (difficulty : Difficulty) : Adjustment × Difficulty :=
  if difficulty.law.desired.toNat < rate then
    let current := difficulty.law.tightened difficulty.ceiling rate
    (.tightened difficulty.ceiling current rate, difficulty.tighten current solves)
  else if difficulty.law.initial ≤ difficulty.ceiling then
    (.unchanged difficulty.ceiling rate, difficulty.retain solves)
  else
    let current := difficulty.law.loosened difficulty.ceiling difficulty.nextIncrement
    (.loosened difficulty.ceiling current rate,
      difficulty.loosen current difficulty.nextIncrement solves)

theorem evaluate_eq_revise (now : Int) :
    difficulty.evaluate now =
      difficulty.revise (difficulty.recent now).length (difficulty.recent now) :=
  rfl

variable {rate : Nat}

theorem revise_of_fast (fast : difficulty.law.desired.toNat < rate) :
    difficulty.revise rate solves =
      (.tightened difficulty.ceiling (difficulty.law.tightened difficulty.ceiling rate) rate,
        difficulty.tighten (difficulty.law.tightened difficulty.ceiling rate) solves) :=
  if_pos fast

theorem revise_of_top
    (slow : rate ≤ difficulty.law.desired.toNat)
    (top : difficulty.law.initial.toNat ≤ difficulty.ceiling.toNat) :
    difficulty.revise rate solves =
      (.unchanged difficulty.ceiling rate, difficulty.retain solves) :=
  (if_neg (Nat.not_lt.mpr slow)).trans (if_pos top)

theorem revise_of_below
    (slow : rate ≤ difficulty.law.desired.toNat)
    (below : difficulty.ceiling.toNat < difficulty.law.initial.toNat) :
    difficulty.revise rate solves =
      (.loosened difficulty.ceiling
          (difficulty.law.loosened difficulty.ceiling difficulty.nextIncrement) rate,
        difficulty.loosen
          (difficulty.law.loosened difficulty.ceiling difficulty.nextIncrement)
          difficulty.nextIncrement solves) :=
  (if_neg (Nat.not_lt.mpr slow)).trans (if_neg (Nat.not_le.mpr below))

@[simp]
theorem law_revise (rate : Nat) (solves : List Int) :
    (difficulty.revise rate solves).2.law = difficulty.law := by
  rcases Nat.lt_or_ge difficulty.law.desired.toNat rate with fast | slow
  · rw [revise_of_fast fast, law_tighten]
  · rcases Nat.lt_or_ge difficulty.ceiling.toNat difficulty.law.initial.toNat with below | top
    · rw [revise_of_below slow below, law_loosen]
    · rw [revise_of_top slow top, law_retain]

@[simp]
theorem solves_revise (rate : Nat) (solves : List Int) :
    (difficulty.revise rate solves).2.solves = solves := by
  rcases Nat.lt_or_ge difficulty.law.desired.toNat rate with fast | slow
  · rw [revise_of_fast fast, solves_tighten]
  · rcases Nat.lt_or_ge difficulty.ceiling.toNat difficulty.law.initial.toNat with below | top
    · rw [revise_of_below slow below, solves_loosen]
    · rw [revise_of_top slow top, solves_retain]

/-- The adjustment reports the rate it was made for. -/
@[simp]
theorem rate_revise (rate : Nat) (solves : List Int) :
    (difficulty.revise rate solves).1.rate = rate := by
  rcases Nat.lt_or_ge difficulty.law.desired.toNat rate with fast | slow
  · rw [revise_of_fast fast, Adjustment.rate]
  · rcases Nat.lt_or_ge difficulty.ceiling.toNat difficulty.law.initial.toNat with below | top
    · rw [revise_of_below slow below, Adjustment.rate]
    · rw [revise_of_top slow top, Adjustment.rate]

@[simp]
theorem law_step (operation : Operation) : (difficulty.step operation).law = difficulty.law := by
  cases operation with
  | record time count => rfl
  | evaluate time =>
      show (difficulty.evaluate time).2.law = difficulty.law
      rw [evaluate_eq_revise, law_revise]

@[simp]
theorem law_run (operations : List Operation) :
    (difficulty.run operations).law = difficulty.law := by
  induction operations generalizing difficulty with
  | nil => rfl
  | cons operation operations induction => exact induction.trans (law_step operation)

/-! ## The invariant -/

/-- The ceiling lies in its range, and a pending increment closes the gap in time. -/
structure InRange (difficulty : Difficulty) : Prop where
  one_le_ceiling : 1 ≤ difficulty.ceiling.toNat
  ceiling_le_initial : difficulty.ceiling.toNat ≤ difficulty.law.initial.toNat
  one_le_pending (increment : HashValue) :
    difficulty.pending = some increment → 1 ≤ increment.toNat
  initial_le_of_pending (increment : HashValue) :
    difficulty.pending = some increment →
      difficulty.law.initial.toNat ≤
        difficulty.ceiling.toNat + difficulty.law.recoveryTicks.toNat * increment.toNat

namespace InRange

theorem start (law : Law) : (Difficulty.start law).InRange where
  one_le_ceiling := law.initial_pos
  ceiling_le_initial := Nat.le_refl _
  one_le_pending _ pending := nomatch pending
  initial_le_of_pending _ pending := nomatch pending

theorem retain (inRange : difficulty.InRange) (solves : List Int) :
    (difficulty.retain solves).InRange where
  one_le_ceiling := inRange.one_le_ceiling
  ceiling_le_initial := inRange.ceiling_le_initial
  one_le_pending := inRange.one_le_pending
  initial_le_of_pending := inRange.initial_le_of_pending

theorem record (inRange : difficulty.InRange) (time : Int) (count : Nat) :
    (difficulty.record time count).InRange :=
  inRange.retain _

theorem tighten
    (inRange : difficulty.InRange)
    (positive : 1 ≤ current.toNat)
    (lower : current.toNat ≤ difficulty.ceiling.toNat)
    (solves : List Int) :
    (difficulty.tighten current solves).InRange where
  one_le_ceiling := positive
  ceiling_le_initial := Nat.le_trans lower inRange.ceiling_le_initial
  one_le_pending _ pending := nomatch pending
  initial_le_of_pending _ pending := nomatch pending

/-- A higher ceiling leaves less of the gap to close. -/
theorem loosen
    (inRange : difficulty.InRange)
    (higher : difficulty.ceiling.toNat ≤ current.toNat)
    (within : current.toNat ≤ difficulty.law.initial.toNat)
    (positive : 1 ≤ increment.toNat)
    (covers :
      difficulty.law.initial.toNat ≤
        difficulty.ceiling.toNat + difficulty.law.recoveryTicks.toNat * increment.toNat)
    (solves : List Int) :
    (difficulty.loosen current increment solves).InRange where
  one_le_ceiling := Nat.le_trans inRange.one_le_ceiling higher
  ceiling_le_initial := within
  one_le_pending := by
    rintro _ ⟨⟩
    exact positive
  initial_le_of_pending := by
    rintro _ ⟨⟩
    exact Nat.le_trans covers (Nat.add_le_add_right higher _)

theorem one_le_nextIncrement
    (inRange : difficulty.InRange)
    (below : difficulty.ceiling.toNat < difficulty.law.initial.toNat) :
    1 ≤ difficulty.nextIncrement.toNat := by
  unfold nextIncrement
  cases pending : difficulty.pending with
  | some increment => exact inRange.one_le_pending increment pending
  | none => exact Law.one_le_increment below

theorem initial_le_of_nextIncrement (inRange : difficulty.InRange) :
    difficulty.law.initial.toNat ≤
      difficulty.ceiling.toNat +
        difficulty.law.recoveryTicks.toNat * difficulty.nextIncrement.toNat := by
  unfold nextIncrement
  cases pending : difficulty.pending with
  | some increment => exact inRange.initial_le_of_pending increment pending
  | none =>
      rw [Nat.add_comm]
      exact Nat.sub_le_iff_le_add.mp Law.gap_le_ticks_mul_increment

/-- An evaluation keeps the range, whatever number of solves it counts. -/
theorem revise (inRange : difficulty.InRange) (rate : Nat) (solves : List Int) :
    (difficulty.revise rate solves).2.InRange := by
  rcases Nat.lt_or_ge difficulty.law.desired.toNat rate with fast | slow
  · rw [revise_of_fast fast]
    exact
      inRange.tighten Law.one_le_tightened (Law.tightened_le inRange.one_le_ceiling) solves
  · rcases Nat.lt_or_ge difficulty.ceiling.toNat difficulty.law.initial.toNat with below | top
    · rw [revise_of_below slow below]
      apply inRange.loosen
      · exact Nat.le_min.mpr ⟨Nat.le_add_right _ _, inRange.ceiling_le_initial⟩
      · exact Nat.min_le_right _ _
      · exact inRange.one_le_nextIncrement below
      · exact inRange.initial_le_of_nextIncrement
    · rw [revise_of_top slow top]
      exact inRange.retain solves

theorem step (inRange : difficulty.InRange) (operation : Operation) :
    (difficulty.step operation).InRange := by
  cases operation with
  | record time count => exact inRange.record time count
  | evaluate time =>
      show (difficulty.evaluate time).2.InRange
      rw [evaluate_eq_revise]
      exact inRange.revise _ _

theorem run (inRange : difficulty.InRange) (operations : List Operation) :
    (difficulty.run operations).InRange := by
  induction operations generalizing difficulty with
  | nil => exact inRange
  | cons operation operations induction => exact induction (inRange.step operation)

end InRange

end WorkGate.Difficulty
