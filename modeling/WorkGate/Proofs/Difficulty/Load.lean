import Mathlib.Data.List.Forall2
import WorkGate.Proofs.Difficulty.Recovery
import WorkGate.Proofs.Difficulty.Reports

/-!
# More load never eases the work

A tightening keeps the order of ceilings and reverses the order of rates: from a lower ceiling, or
at a higher rate, it leads to a lower ceiling.  Rounding does not spoil this, since the share of the
drop never grows faster than the ceiling, and the forced step of one is applied to any ceiling.

While every evaluation counts too many solves, the ceilings are those of repeated tightening at the
rates that are reported.  So of two runs, the one that starts lower and is loaded more at every
evaluation has the lower ceiling after every evaluation.
-/

namespace WorkGate.Difficulty

namespace Law

variable {law heavyLaw lightLaw : Law} {ceiling lower upper : HashValue} {rate slow fast : Nat}

-- The shares are variables here: `omega` on the shares themselves makes the kernel divide.
/-- A drop that grows no faster than the value it is taken from keeps the order of values. -/
theorem dropped_le_dropped
    {less more lessShare moreShare : Nat}
    (ordered : less ≤ more)
    (shares : moreShare ≤ lessShare + (more - less)) :
    max 1 (less - max 1 lessShare) ≤ max 1 (more - max 1 moreShare) := by
  omega

/-- From a lower ceiling a tightening leads to a lower one. -/
theorem tightened_mono (ordered : lower.toNat ≤ upper.toNat) :
    (law.tightened lower rate).toNat ≤ (law.tightened upper rate).toNat := by
  rw [toNat_tightened_eq, toNat_tightened_eq]
  exact dropped_le_dropped ordered (share_le_add_sub ordered)

/-- At a higher rate a tightening leads to a lower ceiling. -/
theorem tightened_anti (wanted : law.desired.toNat ≤ slow) (faster : slow ≤ fast) :
    (law.tightened ceiling fast).toNat ≤ (law.tightened ceiling slow).toNat := by
  rw [toNat_tightened_eq, toNat_tightened_eq]
  apply dropped_le_dropped (Nat.le_refl _)
  exact Nat.le_add_right_of_le (share_mono wanted faster)

/-- A tightening depends on the wanted rate and on the number of evaluations alone. -/
theorem tightened_congr
    (sameDesired : heavyLaw.desired = lightLaw.desired)
    (sameEvaluations : heavyLaw.evaluationsPerMinute = lightLaw.evaluationsPerMinute) :
    heavyLaw.tightened ceiling rate = lightLaw.tightened ceiling rate := by
  have share_eq : heavyLaw.share ceiling rate = lightLaw.share ceiling rate := by
    simp only [share, fullDrop, target, overshoot, sameDesired, sameEvaluations]
  apply HashValue.ext
  rw [toNat_tightened_eq, toNat_tightened_eq, share_eq]

theorem tightened_le_tightened
    (sameDesired : heavyLaw.desired = lightLaw.desired)
    (sameEvaluations : heavyLaw.evaluationsPerMinute = lightLaw.evaluationsPerMinute)
    (ordered : lower.toNat ≤ upper.toNat)
    (wanted : lightLaw.desired.toNat ≤ slow)
    (faster : slow ≤ fast) :
    (heavyLaw.tightened lower fast).toNat ≤ (lightLaw.tightened upper slow).toNat := by
  rw [tightened_congr sameDesired sameEvaluations]
  exact Nat.le_trans (tightened_anti wanted faster) (tightened_mono ordered)

/-- The ceilings that follow a ceiling if it is tightened at one rate after the other. -/
def descent (law : Law) (ceiling : HashValue) : List Nat → List HashValue
  | [] => []
  | rate :: rates => law.tightened ceiling rate :: law.descent (law.tightened ceiling rate) rates

/-- Higher rates from a lower start lead to lower ceilings all along. -/
theorem descent_le_descent
    (sameDesired : heavyLaw.desired = lightLaw.desired)
    (sameEvaluations : heavyLaw.evaluationsPerMinute = lightLaw.evaluationsPerMinute)
    {heavyRates lightRates : List Nat}
    (loaded :
      List.Forall₂ (fun fast slow => lightLaw.desired.toNat < slow ∧ slow ≤ fast)
        heavyRates lightRates)
    (ordered : lower.toNat ≤ upper.toNat) :
    List.Forall₂ (fun left right : HashValue => left ≤ right)
      (heavyLaw.descent lower heavyRates) (lightLaw.descent upper lightRates) := by
  induction loaded generalizing lower upper with
  | nil => exact .nil
  | cons rates _ induction =>
      have below :=
        tightened_le_tightened sameDesired sameEvaluations ordered (Nat.le_of_lt rates.1) rates.2
      exact .cons below (induction below)

end Law

theorem reports_evaluate_of_fast
    {difficulty : Difficulty}
    {now : Int}
    {later : List Operation}
    (fast : difficulty.law.desired.toNat < (difficulty.recent now).length) :
    difficulty.reports (.evaluate now :: later) =
      .tightened difficulty.ceiling
          (difficulty.law.tightened difficulty.ceiling (difficulty.recent now).length)
          (difficulty.recent now).length ::
        (difficulty.tighten
          (difficulty.law.tightened difficulty.ceiling (difficulty.recent now).length)
          (difficulty.recent now)).reports later := by
  rw [reports, evaluate_of_fast fast]

/-- While every evaluation counts too many solves, the ceilings descend at the reported rates. -/
theorem currents_reports_of_overloaded
    {law : Law}
    {difficulty : Difficulty}
    {operations : List Operation}
    (lawful : difficulty.law = law)
    (overloaded :
      ∀ rate ∈ (difficulty.reports operations).map Adjustment.rate, law.desired.toNat < rate) :
    (difficulty.reports operations).map Adjustment.current =
      law.descent difficulty.ceiling ((difficulty.reports operations).map Adjustment.rate) := by
  induction operations generalizing difficulty with
  | nil => rfl
  | cons operation later induction =>
      cases operation with
      | record time count => exact induction lawful overloaded
      | evaluate time =>
          have fast : difficulty.law.desired.toNat < (difficulty.recent time).length := by
            have counted := overloaded (difficulty.evaluate time).1.rate (by simp [reports])
            rwa [evaluate_eq_revise, rate_revise, ← lawful] at counted
          rw [reports_evaluate_of_fast fast, List.map_cons] at overloaded ⊢
          have descends :=
            induction (law_tighten.trans lawful) (List.forall_mem_cons.mp overloaded).2
          rw [ceiling_tighten] at descends
          rw [descends, lawful]
          rfl

theorem overloaded_of_loaded
    {wanted : Nat}
    {heavyRates lightRates : List Nat}
    (loaded :
      List.Forall₂ (fun fast slow => wanted < slow ∧ slow ≤ fast) heavyRates lightRates) :
    (∀ rate ∈ heavyRates, wanted < rate) ∧ ∀ rate ∈ lightRates, wanted < rate := by
  induction loaded with
  | nil => exact ⟨nofun, nofun⟩
  | cons rates _ induction =>
      constructor
      · exact List.forall_mem_cons.mpr ⟨Nat.lt_of_lt_of_le rates.1 rates.2, induction.1⟩
      · exact List.forall_mem_cons.mpr ⟨rates.1, induction.2⟩

/--
From a lower ceiling and at a higher rate a tightening leads to a lower ceiling, whatever happened
to either of the two before.  So if every evaluation counts too many solves, and the run with the
lower start never fewer than the other, its ceiling stays below after every evaluation.
-/
theorem more_load_never_eases
    {heavyLaw lightLaw : Law}
    (sameDesired : heavyLaw.desired = lightLaw.desired)
    (sameEvaluations : heavyLaw.evaluationsPerMinute = lightLaw.evaluationsPerMinute)
    (heavyPast lightPast : List Operation)
    (ordered :
      ((start heavyLaw).run heavyPast).ceiling ≤ ((start lightLaw).run lightPast).ceiling) :
    let heavy := (start heavyLaw).run heavyPast
    let light := (start lightLaw).run lightPast
    (∀ fast slow, lightLaw.desired.toNat < slow → slow ≤ fast →
      heavyLaw.tightened heavy.ceiling fast ≤ lightLaw.tightened light.ceiling slow) ∧
    ∀ heavyOperations lightOperations,
      List.Forall₂
          (fun left right => lightLaw.desired.toNat < right.rate ∧ right.rate ≤ left.rate)
          (heavy.reports heavyOperations) (light.reports lightOperations) →
        List.Forall₂ (fun left right => left.current ≤ right.current)
          (heavy.reports heavyOperations) (light.reports lightOperations) := by
  intro heavy light
  constructor
  · intro fast slow wanted faster
    exact
      Law.tightened_le_tightened sameDesired sameEvaluations ordered (Nat.le_of_lt wanted) faster
  · intro heavyOperations lightOperations loaded
    have loadedRates :
        List.Forall₂ (fun fast slow => lightLaw.desired.toNat < slow ∧ slow ≤ fast)
          ((heavy.reports heavyOperations).map Adjustment.rate)
          ((light.reports lightOperations).map Adjustment.rate) :=
      List.forall₂_map_left_iff.mpr (List.forall₂_map_right_iff.mpr loaded)
    obtain ⟨heavyOverloaded, lightOverloaded⟩ := overloaded_of_loaded loadedRates
    rw [← sameDesired] at heavyOverloaded
    have heavyLawful : heavy.law = heavyLaw := law_run heavyPast
    have lightLawful : light.law = lightLaw := law_run lightPast
    have descends := Law.descent_le_descent sameDesired sameEvaluations loadedRates ordered
    rw [← currents_reports_of_overloaded heavyLawful heavyOverloaded,
      ← currents_reports_of_overloaded lightLawful lightOverloaded] at descends
    exact List.forall₂_map_right_iff.mp (List.forall₂_map_left_iff.mp descends)

/-- Three solves where one is wanted keep the ceiling below that of two solves. -/
theorem threefold_rate_stays_below_twofold :
    List.Forall₂ (fun left right => left.current ≤ right.current)
      ((start halvingLaw).reports [.record 0 3, .evaluate 0, .evaluate 1])
      ((start halvingLaw).reports [.record 0 2, .evaluate 0, .evaluate 1]) := by
  apply (more_load_never_eases rfl rfl [] [] (Nat.le_refl _)).2
  decide +kernel

end WorkGate.Difficulty
