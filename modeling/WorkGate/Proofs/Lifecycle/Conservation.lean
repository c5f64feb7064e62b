import WorkGate.Proofs.Lifecycle.Challenges
import WorkGate.Proofs.Lifecycle.Nonces

/-!
# Nothing is lost and nothing is counted twice

A gatekeeper keeps two collections with a life cycle: challenges that are issued, redeemed and
swept, and response nonces that are spent and forgotten.  Whatever is asked of either, at any clock
readings, the answers account for all that is in it and all that has left it.
-/

namespace WorkGate

/-- Both collections are conserved, the challenges as long as no nonce is issued twice. -/
theorem lifecycles_are_conserved
    {Source : Type} [RandomSource Source]
    (lifetime retention : Int)
    (source : Source)
    (calls later : List OpenChallenges.Call)
    (spendings : List SpentNonces.Call)
    (distinct :
      OpenChallenges.DistinctIssues
        (OpenChallenges.historyOf lifetime source (calls ++ later))) :
    OpenChallenges.Conserved lifetime source calls later ∧
      SpentNonces.Conserved retention spendings :=
  ⟨OpenChallenges.conserved distinct, SpentNonces.conserved retention spendings⟩

/-! ## A run of each -/

/-- A source whose first nonce is all zeros and whose second is not. -/
def sampleSource : Entropy where
  queue := List.replicate 32 0 ++ List.replicate 32 1

def sampleChallenge : Challenge where
  nonce := Hex.encode (List.replicate 32 0)
  issuedAt := 0

/-- A redemption is refused by its test, then one passes, while the clock runs back. -/
def sampleCalls : List OpenChallenges.Call :=
  [.issue 0, .issue 10, .redeem sampleChallenge.nonce 30 fun _ => .error .insufficientWork,
    .redeem sampleChallenge.nonce 20 fun _ => .ok ()]

def sampleLater : List OpenChallenges.Call :=
  [.sweep 300011, .redeem sampleChallenge.nonce 20 fun _ => .ok ()]

/-- A nonce is spent, forgotten and spent again in the other case. -/
def sampleSpendings : List SpentNonces.Call :=
  [.spend (String.ofList (List.replicate 64 'A')) 0, .sweep 300001,
    .spendWith (String.ofList (List.replicate 64 'a')) 5 fun _ => .ok ()]

/-- The redeemed challenge stays redeemed; a sweep forgot the nonce before it was spent again. -/
theorem sample_lifecycles_are_conserved :
    OpenChallenges.DistinctIssues
        (OpenChallenges.historyOf 300000 sampleSource (sampleCalls ++ sampleLater)) ∧
      (∀ phase : OpenChallenges.Phase,
        phase.Holds sampleChallenge
            (OpenChallenges.historyOf 300000 sampleSource (sampleCalls ++ sampleLater))
            (OpenChallenges.stateAfter 300000 sampleSource (sampleCalls ++ sampleLater)) ↔
          phase = .redeemed) ∧
        ∃ sweep ∈ ((SpentNonces.historyOf 300000 sampleSpendings).drop 1).take 1,
          sweep.Outdates 300000 0 := by
  have distinct :
      OpenChallenges.DistinctIssues
        (OpenChallenges.historyOf 300000 sampleSource (sampleCalls ++ sampleLater)) := by
    decide +kernel
  obtain ⟨challenges, nonces⟩ :=
    lifecycles_are_conserved 300000 300000 sampleSource sampleCalls sampleLater sampleSpendings
      distinct
  refine ⟨distinct, ?_, ?_⟩
  · have issued :
        sampleChallenge ∈
          OpenChallenges.issuedIn (OpenChallenges.historyOf 300000 sampleSource sampleCalls) := by
      decide +kernel
    have redeemed :
        OpenChallenges.redemptionsOf sampleChallenge.nonce
            (OpenChallenges.historyOf 300000 sampleSource sampleCalls) ≠
          [] := by
      decide +kernel
    exact challenges.final sampleChallenge issued .redeemed (by decide) redeemed
  · exact nonces.outdated [] _ _ _ [] rfl _ _ _ _ ⟨rfl, by decide +kernel⟩
      ⟨rfl, by decide +kernel⟩ (by decide +kernel)

end WorkGate
