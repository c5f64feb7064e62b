import WorkGate.Proofs.Difficulty.Range
import WorkGate.Proofs.Word

/-!
# The difficulty in machine arithmetic

`Difficulty` computes with exact natural numbers.  Here the same computations are written with
words of 256 and 512 bits, where every operation that would overflow, underflow or divide by zero
gives nothing.  A target that does not fit into 256 bits gives nothing as well, although it could be
replaced by the ceiling; so the replacement is never needed.  The number of solves is counted in 64
bits and loses its high bits.

In range, every computation gives a result, and it is the exact one.
-/

namespace WorkGate.Difficulty

namespace Law

/-- The overshoot ratio, scaled by a million. -/
def overshoot? (law : Law) (rate : UInt64) : Option (BitVec 512) := do
  let scaled ← Word.fullMul? (Word.ofUInt64 256 rate) (BitVec.ofNat 256 ratioScale)
  Word.div? scaled (Word.ofUInt64 512 law.desired)

/-- The ceiling that a full correction would reach. -/
def quotient? (ceiling : HashValue) (ratio : BitVec 512) : Option (BitVec 256) := do
  let scaled ← Word.fullMul? ceiling.toWord (BitVec.ofNat 256 ratioScale)
  let quotient ← Word.div? scaled ratio
  Word.convert? 256 quotient

def tightened? (law : Law) (ceiling : HashValue) (rate : UInt64) : Option HashValue := do
  let current := ceiling.toWord
  let ratio ← law.overshoot? rate
  let quotient ← quotient? ceiling ratio
  let gap ← Word.sub? current (Word.least quotient current)
  let step ← Word.div? gap (Word.ofUInt64 256 law.evaluationsPerMinute)
  let one := BitVec.ofNat 256 1
  let step := if step.toNat = 0 ∧ one.toNat < current.toNat then one else step
  return .ofWord (Word.greatest one (Word.saturatingSub current step))

def increment? (law : Law) (ceiling : HashValue) : Option HashValue := do
  let ticks := Word.ofUInt64 256 law.recoveryTicks
  let gap ← Word.sub? law.initial.toWord ceiling.toWord
  let quotient ← Word.div? gap ticks
  let remainder ← Word.rem? gap ticks
  let increment ←
    if remainder.toNat = 0 then some quotient else Word.add? quotient (BitVec.ofNat 256 1)
  return .ofWord increment

def saturated (law : Law) (ceiling increment : HashValue) : HashValue :=
  .ofWord
    (Word.least (Word.saturatingAdd ceiling.toWord increment.toWord) law.initial.toWord)

variable {law : Law} {ceiling : HashValue} {rate : UInt64} {ratio : BitVec 512}

theorem toNat_ofNat_ratioScale : (BitVec.ofNat 256 ratioScale).toNat = ratioScale := by
  decide

theorem toNat_ofNat_one : (BitVec.ofNat 256 1).toNat = 1 := by
  decide

theorem exists_overshoot?_eq_some (law : Law) (rate : UInt64) :
    ∃ ratio, law.overshoot? rate = some ratio ∧ ratio.toNat = law.overshoot rate.toNat := by
  obtain ⟨scaled, multiplied, exact_scaled⟩ :=
    Word.exists_fullMul?_eq_some (Word.ofUInt64 256 rate) (BitVec.ofNat 256 ratioScale)
  obtain ⟨ratio, divided, exact_ratio⟩ :=
    Word.exists_div?_ofUInt64_eq_some (by decide) scaled law.desired_pos
  refine ⟨ratio, by rw [overshoot?, Word.bind_of_eq_some multiplied, divided], ?_⟩
  rw [exact_ratio, exact_scaled, toNat_ofNat_ratioScale, Word.toNat_ofUInt64 (by decide),
    overshoot]

theorem exists_quotient?_eq_some
    (known : ratio.toNat = law.overshoot rate.toNat)
    (fast : law.desired.toNat ≤ rate.toNat)
    (ceiling : HashValue) :
    ∃ quotient,
      quotient? ceiling ratio = some quotient ∧
        quotient.toNat = ceiling.toNat * ratioScale / law.overshoot rate.toNat := by
  obtain ⟨scaled, multiplied, exact_scaled⟩ :=
    Word.exists_fullMul?_eq_some ceiling.toWord (BitVec.ofNat 256 ratioScale)
  have positive : 0 < ratio.toNat := by
    rw [known]
    exact overshoot_pos fast
  obtain ⟨wide, divided, exact_wide⟩ := Word.exists_div?_eq_some scaled positive
  rw [exact_scaled, known, toNat_ofNat_ratioScale, HashValue.toNat_toWord] at exact_wide
  have small : wide.toNat ≤ ceiling.toWord.toNat := by
    rw [exact_wide, HashValue.toNat_toWord]
    exact quotient_le fast
  obtain ⟨quotient, converted, exact_quotient⟩ := Word.exists_convert?_eq_some small
  have computed : quotient? ceiling ratio = some quotient := by
    rw [quotient?, Word.bind_of_eq_some multiplied, Word.bind_of_eq_some divided, converted]
  exact ⟨quotient, computed, exact_quotient.trans exact_wide⟩

/-- A tightening gives a result, and it is the exact one. -/
theorem tightened?_eq_some
    (fast : law.desired.toNat ≤ rate.toNat)
    (ceiling : HashValue) :
    law.tightened? ceiling rate = some (law.tightened ceiling rate.toNat) := by
  obtain ⟨ratio, measured, exact_ratio⟩ := law.exists_overshoot?_eq_some rate
  obtain ⟨quotient, corrected, exact_quotient⟩ :=
    exists_quotient?_eq_some exact_ratio fast ceiling
  have target_eq :
      (Word.least quotient ceiling.toWord).toNat = law.target ceiling rate.toNat := by
    rw [Word.toNat_least, exact_quotient, HashValue.toNat_toWord, target]
  have ordered : (Word.least quotient ceiling.toWord).toNat ≤ ceiling.toWord.toNat := by
    rw [Word.toNat_least]
    exact Nat.min_le_right _ _
  obtain ⟨gap, subtracted, exact_gap⟩ := Word.exists_sub?_eq_some ordered
  obtain ⟨step, divided, exact_step⟩ :=
    Word.exists_div?_ofUInt64_eq_some (by decide) gap law.evaluations_pos
  rw [exact_gap, target_eq, HashValue.toNat_toWord] at exact_step
  have step_eq :
      (if step.toNat = 0 ∧ (BitVec.ofNat 256 1).toNat < ceiling.toWord.toNat then
          BitVec.ofNat 256 1
        else step).toNat =
        law.tighteningStep ceiling rate.toNat := by
    rw [apply_ite BitVec.toNat, toNat_ofNat_one, HashValue.toNat_toWord, exact_step,
      tighteningStep]
  rw [tightened?, Word.bind_of_eq_some measured, Word.bind_of_eq_some corrected,
    Word.bind_of_eq_some subtracted, Word.bind_of_eq_some divided]
  apply congrArg some
  apply HashValue.ext
  rw [HashValue.toNat_ofWord, Word.toNat_greatest, Word.toNat_saturatingSub, step_eq,
    toNat_ofNat_one, HashValue.toNat_toWord, toNat_tightened]

/-- Up to the highest ceiling the increment gives a result, and it is the exact one. -/
theorem increment?_eq_some (within : ceiling.toNat ≤ law.initial.toNat) :
    law.increment? ceiling = some (law.increment ceiling) := by
  have ordered : ceiling.toWord.toNat ≤ law.initial.toWord.toNat := by
    rw [HashValue.toNat_toWord, HashValue.toNat_toWord]
    exact within
  obtain ⟨gap, subtracted, exact_gap⟩ := Word.exists_sub?_eq_some ordered
  rw [HashValue.toNat_toWord, HashValue.toNat_toWord] at exact_gap
  obtain ⟨quotient, divided, exact_quotient⟩ :=
    Word.exists_div?_ofUInt64_eq_some (by decide) gap law.ticks_pos
  obtain ⟨remainder, reduced, exact_remainder⟩ :=
    Word.exists_rem?_ofUInt64_eq_some (by decide) gap law.ticks_pos
  rw [exact_gap] at exact_quotient exact_remainder
  have increment_eq :
      (law.increment ceiling).toNat =
        quotient.toNat + if remainder.toNat = 0 then 0 else 1 := by
    rw [exact_quotient, exact_remainder, toNat_increment, ceilDiv]
  rw [increment?, Word.bind_of_eq_some subtracted, Word.bind_of_eq_some divided,
    Word.bind_of_eq_some reduced]
  by_cases whole : remainder.toNat = 0
  · rw [if_pos whole]
    rw [if_pos whole] at increment_eq
    exact congrArg some (HashValue.ext increment_eq.symm)
  · rw [if_neg whole]
    rw [if_neg whole] at increment_eq
    have fits : ¬ quotient.uaddOverflow (BitVec.ofNat 256 1) := by
      have incrementSmall := (law.increment ceiling).toNat_lt
      rw [increment_eq] at incrementSmall
      simp only [BitVec.uaddOverflow, toNat_ofNat_one, ge_iff_le, decide_eq_true_eq, Nat.not_le]
      exact incrementSmall
    obtain ⟨sum, added, exact_sum⟩ := Word.exists_add?_eq_some fits
    rw [toNat_ofNat_one] at exact_sum
    rw [added]
    exact congrArg some (HashValue.ext (exact_sum.trans increment_eq.symm))

theorem saturated_eq_loosened (law : Law) (ceiling increment : HashValue) :
    law.saturated ceiling increment = law.loosened ceiling increment := by
  apply HashValue.ext
  rw [saturated, HashValue.toNat_ofWord, Word.toNat_least, Word.min_toNat_saturatingAdd,
    HashValue.toNat_toWord, HashValue.toNat_toWord, HashValue.toNat_toWord, toNat_loosened]

end Law

variable {difficulty : Difficulty}

def nextIncrement? (difficulty : Difficulty) : Option HashValue :=
  match difficulty.pending with
  | some increment => some increment
  | none => difficulty.law.increment? difficulty.ceiling

def evaluate? (now : Int) (difficulty : Difficulty) : Option (Adjustment × Difficulty) :=
  let solves := difficulty.recent now
  let rate := UInt64.ofNat solves.length
  let ceiling := difficulty.ceiling
  if difficulty.law.desired < rate then do
    let current ← difficulty.law.tightened? ceiling rate
    return (.tightened ceiling current rate.toNat, difficulty.tighten current solves)
  else if difficulty.law.initial ≤ ceiling then
    some (.unchanged ceiling rate.toNat, difficulty.retain solves)
  else do
    let increment ← difficulty.nextIncrement?
    let current := difficulty.law.saturated ceiling increment
    return (.loosened ceiling current rate.toNat, difficulty.loosen current increment solves)

def step? (difficulty : Difficulty) : Operation → Option Difficulty
  | .record time count => some (difficulty.record time count)
  | .evaluate time => (difficulty.evaluate? time).map Prod.snd

def run? (difficulty : Difficulty) (operations : List Operation) : Option Difficulty :=
  operations.foldlM step? difficulty

theorem InRange.nextIncrement?_eq_some (inRange : difficulty.InRange) :
    difficulty.nextIncrement? = some difficulty.nextIncrement := by
  unfold nextIncrement? nextIncrement
  cases difficulty.pending with
  | some increment => rfl
  | none => exact Law.increment?_eq_some inRange.ceiling_le_initial

/-- In range an evaluation gives a result, and it is the exact one for the low bits of the rate. -/
theorem evaluate?_eq_some (inRange : difficulty.InRange) (now : Int) :
    difficulty.evaluate? now =
      some
        (difficulty.revise (UInt64.ofNat (difficulty.recent now).length).toNat
          (difficulty.recent now)) := by
  unfold evaluate?
  by_cases fast : difficulty.law.desired < UInt64.ofNat (difficulty.recent now).length
  · have overshoots := UInt64.lt_iff_toNat_lt.mp fast
    have computed := Law.tightened?_eq_some (Nat.le_of_lt overshoots) difficulty.ceiling
    rw [if_pos fast, Word.bind_of_eq_some computed, revise_of_fast overshoots]
    rfl
  · have slow := Nat.not_lt.mp fun overshoots => fast (UInt64.lt_iff_toNat_lt.mpr overshoots)
    rw [if_neg fast]
    by_cases top : difficulty.law.initial ≤ difficulty.ceiling
    · rw [if_pos top, revise_of_top slow top]
    · have below := Nat.not_le.mp top
      rw [if_neg top, Word.bind_of_eq_some inRange.nextIncrement?_eq_some,
        revise_of_below slow below, ← Law.saturated_eq_loosened]
      rfl

theorem step?_evaluate_eq_some (inRange : difficulty.InRange) (time : Int) :
    difficulty.step? (.evaluate time) =
      some
        (difficulty.revise (UInt64.ofNat (difficulty.recent time).length).toNat
          (difficulty.recent time)).2 :=
  congrArg (Option.map Prod.snd) (evaluate?_eq_some inRange time)

theorem run?_cons (difficulty : Difficulty) (operation : Operation) (operations : List Operation) :
    difficulty.run? (operation :: operations) =
      difficulty.step? operation >>= fun next => next.run? operations :=
  rfl

/-- Operations never fail in range, and they keep the range. -/
theorem exists_run?_eq_some (inRange : difficulty.InRange) (operations : List Operation) :
    ∃ after,
      difficulty.run? operations = some after ∧ after.law = difficulty.law ∧ after.InRange := by
  induction operations generalizing difficulty with
  | nil => exact ⟨difficulty, rfl, rfl, inRange⟩
  | cons operation operations induction =>
      have kept :
          ∃ next,
            difficulty.step? operation = some next ∧
              next.law = difficulty.law ∧ next.InRange := by
        cases operation with
        | record time count => exact ⟨_, rfl, rfl, inRange.record time count⟩
        | evaluate time =>
            exact ⟨_, step?_evaluate_eq_some inRange time, law_revise _ _, inRange.revise _ _⟩
      obtain ⟨next, stepped, sameLaw, nextInRange⟩ := kept
      obtain ⟨after, reached, sameLawAfter, afterInRange⟩ := induction nextInRange
      refine ⟨after, ?_, sameLawAfter.trans sameLaw, afterInRange⟩
      rw [run?_cons, Word.bind_of_eq_some stepped, reached]

/-- The number of solves that operations count. -/
def recorded : List Operation → Nat
  | [] => 0
  | .record _ count :: operations => count + recorded operations
  | .evaluate _ :: operations => recorded operations

/-- As long as the count of solves fits into 64 bits, machine arithmetic is exact. -/
theorem run?_eq_some_run
    (inRange : difficulty.InRange)
    (operations : List Operation)
    (few : difficulty.solves.length + recorded operations < 0x10000000000000000) :
    difficulty.run? operations = some (difficulty.run operations) := by
  induction operations generalizing difficulty with
  | nil => rfl
  | cons operation operations induction =>
      cases operation with
      | record time count =>
          apply induction (inRange.record time count)
          simp only [recorded] at few
          simp only [record, List.length_append, List.length_replicate]
          omega
      | evaluate time =>
          simp only [recorded] at few
          have fewer : (difficulty.recent time).length ≤ difficulty.solves.length :=
            List.length_filter_le _ _
          have counted :
              (UInt64.ofNat (difficulty.recent time).length).toNat =
                (difficulty.recent time).length := by
            apply UInt64.toNat_ofNat_of_lt'
            exact Nat.lt_of_le_of_lt (Nat.le_trans fewer (Nat.le_add_right _ _)) few
          have stepped := step?_evaluate_eq_some inRange time
          rw [counted, ← evaluate_eq_revise] at stepped
          rw [run?_cons, Word.bind_of_eq_some stepped]
          apply induction (inRange.step (.evaluate time))
          show (difficulty.evaluate time).2.solves.length + _ < _
          rw [evaluate_eq_revise, solves_revise]
          exact Nat.lt_of_le_of_lt (Nat.add_le_add_right fewer _) few

/--
Whatever is recorded and evaluated, the ceiling and a pending increment lie in their ranges, and no
operation on machine words fails.
-/
theorem inRange_and_machine_run (law : Law) (operations : List Operation) :
    let exact := (start law).run operations
    exact.law = law ∧ exact.InRange ∧
      ∃ machine,
        (start law).run? operations = some machine ∧
        (recorded operations < 0x10000000000000000 → machine = exact) ∧
        machine.law = law ∧ machine.InRange ∧
        (∀ now, ∃ result, machine.evaluate? now = some result) ∧
        (∃ increment, law.increment? machine.ceiling = some increment) ∧
        ∀ rate, law.desired < rate →
          ∃ ratio quotient current,
            law.overshoot? rate = some ratio ∧ 1000000 ≤ ratio.toNat ∧
            Law.quotient? machine.ceiling ratio = some quotient ∧
            quotient.toNat ≤ machine.ceiling.toNat ∧
            law.tightened? machine.ceiling rate = some current := by
  intro exact
  obtain ⟨machine, reached, sameLaw, inRange⟩ :=
    exists_run?_eq_some (InRange.start law) operations
  refine ⟨law_run operations, (InRange.start law).run operations, machine, reached, ?_, sameLaw,
    inRange, ?_, ?_, ?_⟩
  · intro few
    have reachedExact : (start law).run? operations = some exact :=
      run?_eq_some_run (InRange.start law) operations (by simpa [start] using few)
    exact Option.some.inj (reached.symm.trans reachedExact)
  · intro now
    exact ⟨_, evaluate?_eq_some inRange now⟩
  · have within := inRange.ceiling_le_initial
    rw [sameLaw] at within
    exact ⟨_, Law.increment?_eq_some within⟩
  · intro rate fast
    have overshoots := Nat.le_of_lt (UInt64.lt_iff_toNat_lt.mp fast)
    obtain ⟨ratio, measured, exact_ratio⟩ := law.exists_overshoot?_eq_some rate
    obtain ⟨quotient, corrected, exact_quotient⟩ :=
      Law.exists_quotient?_eq_some exact_ratio overshoots machine.ceiling
    refine ⟨ratio, quotient, _, measured, ?_, corrected, ?_,
      Law.tightened?_eq_some overshoots machine.ceiling⟩
    · rw [exact_ratio]
      exact Law.ratioScale_le_overshoot overshoots
    · rw [exact_quotient]
      exact Law.quotient_le overshoots

end WorkGate.Difficulty
