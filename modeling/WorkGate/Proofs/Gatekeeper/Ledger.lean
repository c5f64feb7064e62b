import WorkGate.Proofs.Difficulty.Law
import WorkGate.Proofs.Gatekeeper.Operations
import WorkGate.Proofs.Gatekeeper.Session

/-!
# The tables of a gatekeeper stand for its history

Whatever is done to a gatekeeper and whatever its clock shows, its tables hold exactly what the
history says they should: a challenge is open since it was issued if it was neither issued again
nor redeemed nor swept out of date, and a response nonce is remembered since it was spent if no
sweep has found it out of date.  The ceiling in force is that of the last revision.

`Ledger` states this.  There is one lemma for each operation, and from them the statement for every
session by induction over the run.
-/

namespace WorkGate.Gatekeeper

variable {lifetime issuedAt spentAt now : Int} {nonce key : String}
variable {history : List Entry} {entry : Entry}

/-- A challenge was issued at this time and neither replaced nor redeemed nor swept since. -/
def OpenSince (lifetime : Int) (nonce : String) (issuedAt : Int) : List Entry → Prop :=
  Since
    (fun entry =>
      ¬ entry.Issues nonce ∧ ¬ entry.Redeems nonce ∧ ¬ entry.Outdates lifetime issuedAt)
    (fun entry => entry.Issues nonce ∧ entry.now = issuedAt)

/-- A response nonce was spent at this time and no sweep has found it out of date since. -/
def SpentSince (lifetime : Int) (key : String) (spentAt : Int) : List Entry → Prop :=
  Since
    (fun entry => ¬ entry.Outdates lifetime spentAt)
    (fun entry => entry.Spends key ∧ entry.now = spentAt)

theorem openSince_concat_iff :
    OpenSince lifetime nonce issuedAt (history ++ [entry]) ↔
      (entry.Issues nonce ∧ entry.now = issuedAt) ∨
        (OpenSince lifetime nonce issuedAt history ∧
          ¬ entry.Issues nonce ∧ ¬ entry.Redeems nonce ∧
            ¬ entry.Outdates lifetime issuedAt) :=
  since_concat_iff

theorem spentSince_concat_iff :
    SpentSince lifetime key spentAt (history ++ [entry]) ↔
      (entry.Spends key ∧ entry.now = spentAt) ∨
        (SpentSince lifetime key spentAt history ∧ ¬ entry.Outdates lifetime spentAt) :=
  since_concat_iff

/-- The gatekeeper remembers exactly what its history says. -/
structure Ledger
    (first : HashValue)
    (lifetime : Int)
    (history : List Entry)
    (keeper : Gatekeeper) :
    Prop where
  lifetime_eq : keeper.challenges.lifetime = lifetime
  retention_eq : keeper.spent.retention = lifetime
  issued_iff (nonce : String) (issuedAt : Int) :
    keeper.challenges.issued.get? nonce = some issuedAt ↔
      OpenSince lifetime nonce issuedAt history
  spent_iff (key : String) (spentAt : Int) :
    keeper.spent.spent.get? key = some spentAt ↔ SpentSince lifetime key spentAt history
  ceiling_eq : keeper.ceiling = ceilingAfter first history

namespace Ledger

variable {first : HashValue} {keeper : Gatekeeper}

/-- A new gatekeeper has an empty history. -/
theorem of_create
    {policy : Policy}
    (created : create policy = .ok keeper) :
    Ledger policy.initialCeiling policy.lifetimeMillis [] keeper := by
  obtain ⟨law, lawful, rfl⟩ := exists_law_of_create created
  exact
    { lifetime_eq := by dsimp only
      retention_eq := by dsimp only
      issued_iff := fun nonce issuedAt => by simp [OpenSince, not_since_nil]
      spent_iff := fun key spentAt => by simp [SpentSince, not_since_nil]
      ceiling_eq := Difficulty.Law.initial_ofPolicy lawful }

theorem issue
    {Source : Type} [RandomSource Source]
    (ledger : Ledger first lifetime history keeper)
    (source : Source) :
    Ledger first lifetime
      (history ++ [{ now, deed := .issued (keeper.issue now source).1 }])
      (keeper.issue now source).2.1 where
  lifetime_eq := ledger.lifetime_eq
  retention_eq := ledger.retention_eq
  issued_iff nonce issuedAt := by
    rw [openSince_concat_iff, ← ledger.issued_iff]
    simp only [Gatekeeper.issue, OpenChallenges.issue, OpenChallenges.insert,
      Table.get?_insert_eq_some_iff, Entry.Issues, Entry.Redeems, Entry.Outdates, Entry.Sweeps]
    grind
  spent_iff key spentAt := by
    rw [spentSince_concat_iff, ← ledger.spent_iff]
    simp [Gatekeeper.issue, Entry.Spends, Entry.Outdates, Entry.Sweeps]
  ceiling_eq := by
    rw [ceilingAfter_concat, ← ledger.ceiling_eq]
    rfl

/-- An accepted submission was not remembered before, so its key stands for this entry alone. -/
theorem accept
    (ledger : Ledger first lifetime history keeper)
    (submission : Submission)
    (unspent : keeper.spent.isSpent submission.responseNonce = false) :
    Ledger first lifetime
      (history ++ [{ now, deed := .verified submission (.ok ()) }])
      (keeper.accept submission now) where
  lifetime_eq := ledger.lifetime_eq
  retention_eq := ledger.retention_eq
  issued_iff nonce issuedAt := by
    rw [openSince_concat_iff, ← ledger.issued_iff]
    simp only [Gatekeeper.accept, Table.get?_erase_eq_some_iff, Entry.Issues, Entry.Redeems,
      Entry.Outdates, Entry.Sweeps]
    grind
  spent_iff key spentAt := by
    rw [spentSince_concat_iff, ← ledger.spent_iff]
    have absent := Table.contains_eq_false_iff.mp unspent
    simp only [Gatekeeper.accept, SpentNonces.insert, Table.get?_insert_eq_some_iff, Entry.Spends,
      Entry.Outdates, Entry.Sweeps]
    grind
  ceiling_eq := by
    rw [ceilingAfter_concat, ← ledger.ceiling_eq]
    rfl

/-- Entries that touch neither table leave a ledger as it is. -/
theorem of_silent
    (ledger : Ledger first lifetime history keeper)
    {after : Gatekeeper}
    (silent : entry.IsSilent)
    (sameChallenges : after.challenges = keeper.challenges)
    (sameSpent : after.spent = keeper.spent)
    (revised : after.ceiling = entry.revise keeper.ceiling) :
    Ledger first lifetime (history ++ [entry]) after where
  lifetime_eq := by rw [sameChallenges, ledger.lifetime_eq]
  retention_eq := by rw [sameSpent, ledger.retention_eq]
  issued_iff nonce issuedAt := by
    rw [sameChallenges, openSince_concat_iff, ← ledger.issued_iff]
    obtain ⟨noIssue, noRedemption, -, noSweep⟩ := silent.inert
    simp [noIssue, noRedemption, Entry.Outdates, noSweep]
  spent_iff key spentAt := by
    rw [sameSpent, spentSince_concat_iff, ← ledger.spent_iff]
    obtain ⟨-, -, noSpending, noSweep⟩ := silent.inert
    simp [noSpending, Entry.Outdates, noSweep]
  ceiling_eq := by rw [revised, ceilingAfter_concat, ledger.ceiling_eq]

theorem verify
    (ledger : Ledger first lifetime history keeper)
    (submission : Submission) :
    Ledger first lifetime
      (history ++
        [{ now, deed := .verified submission ((keeper.verify submission now).map fun _ => ()) }])
      (match keeper.verify submission now with
        | .ok accepted => accepted
        | .error _ => keeper) := by
  cases verdict : keeper.verify submission now with
  | error refusal =>
      exact ledger.of_silent (by simp [Entry.IsSilent, Except.map]) rfl rfl rfl
  | ok accepted =>
      obtain ⟨-, unspent, -, -, rfl⟩ := verify_eq_ok_iff.mp verdict
      exact ledger.accept submission unspent

theorem sweep (ledger : Ledger first lifetime history keeper) :
    Ledger first lifetime
      (history ++ [{ now, deed := .swept (keeper.sweep now).1 }])
      (keeper.sweep now).2 where
  lifetime_eq := ledger.lifetime_eq
  retention_eq := ledger.retention_eq
  issued_iff nonce issuedAt := by
    rw [openSince_concat_iff, ← ledger.issued_iff, ← ledger.lifetime_eq]
    simp only [Gatekeeper.sweep, OpenChallenges.get?_sweep_eq_some_iff, Entry.Issues,
      Entry.Redeems, Entry.Outdates, Entry.Sweeps]
    grind
  spent_iff key spentAt := by
    rw [spentSince_concat_iff, ← ledger.spent_iff, ← ledger.retention_eq]
    simp only [Gatekeeper.sweep, SpentNonces.get?_sweep_eq_some_iff, Entry.Spends,
      Entry.Outdates, Entry.Sweeps]
    grind
  ceiling_eq := by
    rw [ceilingAfter_concat, ← ledger.ceiling_eq]
    rfl

theorem evaluate (ledger : Ledger first lifetime history keeper) :
    Ledger first lifetime
      (history ++ [{ now, deed := .evaluated (keeper.evaluate now).1 }])
      (keeper.evaluate now).2 :=
  ledger.of_silent trivial rfl rfl (ceiling_evaluate now keeper)

theorem recordSolves (ledger : Ledger first lifetime history keeper) (count : Nat) :
    Ledger first lifetime
      (history ++ [{ now, deed := .recorded count }])
      (keeper.recordSolves now count) :=
  ledger.of_silent trivial rfl rfl rfl

end Ledger

namespace Session

variable {Source : Type} [RandomSource Source] {first : HashValue} {session : Session Source}

/-- Every action keeps the tables in line with the history. -/
theorem ledger_step
    (ledger : Ledger first lifetime session.history session.keeper)
    (action : Action) :
    Ledger first lifetime (session.step action).history (session.step action).keeper := by
  cases action with
  | issue => exact ledger.issue session.source
  | verify submission => exact ledger.verify submission
  | sweep => exact ledger.sweep
  | evaluate => exact ledger.evaluate
  | recordSolves count => exact ledger.recordSolves count
  | setClock reading => exact ledger

theorem ledger_run
    (ledger : Ledger first lifetime session.history session.keeper)
    (actions : List Action) :
    Ledger first lifetime (session.run actions).history (session.run actions).keeper := by
  induction actions using List.reverseRecOn with
  | nil => exact ledger
  | append_singleton actions action induction =>
      rw [run_concat]
      exact ledger_step induction action

/-- Whatever is done to a new gatekeeper, its tables stand for the history of what was done. -/
theorem ledger_run_of_create
    {policy : Policy}
    {keeper : Gatekeeper}
    (created : create policy = .ok keeper)
    (reading : Int)
    (source : Source)
    (actions : List Action) :
    Ledger policy.initialCeiling policy.lifetimeMillis
      (Session.run { keeper, reading, source } actions).history
      (Session.run { keeper, reading, source } actions).keeper := by
  apply ledger_run
  exact Ledger.of_create created

end Session

end WorkGate.Gatekeeper
