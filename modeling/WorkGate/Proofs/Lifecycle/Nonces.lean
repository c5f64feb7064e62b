import WorkGate.Proofs.Gatekeeper.Operations
import WorkGate.Proofs.Hex
import WorkGate.Proofs.Since
import WorkGate.Proofs.Trace
import WorkGate.SpentNonces

/-!
# The memory of spent nonces

Response nonces are spent, on their own or together with an inner step that may fail in any way, and
forgotten by sweeps, at any clock readings.  What is remembered is what was spent and not forgotten:
the number of entries is the number of successes less what the sweeps report.  Every entry is an
upper-case spelling of 64 digits, and between two successes whose nonces differ at most in case
there is a sweep that found the first of them out of date.
-/

namespace WorkGate

/-! ## Upper-case spellings -/

namespace Nonce

/-- A text of 64 digits without lower-case letters. -/
def Folded (key : String) : Prop :=
  key.toList.length = 64 ∧ ∀ char ∈ key.toList, Hex.IsUpperDigit char

theorem folded_fold {nonce : String} (formed : WellFormed nonce) : Folded (fold nonce) := by
  constructor
  · simp only [fold, String.toList_ofList, List.length_map]
    exact formed.1
  · intro char member
    simp only [fold, String.toList_ofList, List.mem_map] at member
    obtain ⟨original, written, rfl⟩ := member
    exact Hex.isUpperDigit_toUpper (formed.2 original written)

end Nonce

namespace SpentNonces

/-! ## Calls -/

/-- What can be asked of the memory, with the clock reading it is asked at. -/
inductive Call where
  | spend (nonce : String) (now : Int)
  | spendWith (nonce : String) (now : Int) (inner : Unit → Except WorkError Unit)
  | sweep (now : Int)

inductive Reply where
  | spent (verdict : Except WorkError Unit)
  | swept (count : Nat)

/-- The nonce that a call tries to spend, and the reading. -/
def Call.spending? : Call → Option (String × Int)
  | spend nonce now => some (nonce, now)
  | spendWith nonce now _ => some (nonce, now)
  | sweep _ => none

/-- Answers a call; a nonce that is refused leaves the memory as it was. -/
def answer (nonces : SpentNonces) : Call → Reply × SpentNonces
  | .spend nonce now =>
      match nonces.spend nonce now with
      | .ok after => (.spent (.ok ()), after)
      | .error refusal => (.spent (.error refusal), nonces)
  | .spendWith nonce now inner =>
      match nonces.spendWith nonce now inner with
      | .ok (_, after) => (.spent (.ok ()), after)
      | .error refusal => (.spent (.error refusal), nonces)
  | .sweep now =>
      let (count, after) := nonces.sweep now
      (.swept count, after)

/-- An entry of a trace of calls. -/
abbrev Entry := Trace.Entry SpentNonces Call Reply

namespace Entry

def succeeded (entry : Entry) : Bool :=
  match entry.reply with
  | .spent (.ok ()) => true
  | _ => false

/-- The entry is a success at spending this nonce at this reading. -/
def Spends (nonce : String) (now : Int) (entry : Entry) : Prop :=
  entry.call.spending? = some (nonce, now) ∧ entry.succeeded

/-- The entry is a sweep, at a reading that exceeds a moment by more than the retention time. -/
def Outdates (retention moment : Int) (entry : Entry) : Prop :=
  ∃ now, entry.call = .sweep now ∧ retention < now - moment

/-- The count that a sweep returned. -/
def sweptCount (entry : Entry) : Nat :=
  match entry.reply with
  | .swept count => count
  | _ => 0

end Entry

variable {history : List Entry} {entry : Entry} {retention : Int}

def successesIn (history : List Entry) : Nat :=
  history.countP Entry.succeeded

/-- The sum of what the sweeps returned. -/
def sweptIn (history : List Entry) : Nat :=
  history.foldl (fun total entry => total + entry.sweptCount) 0

theorem successesIn_concat :
    successesIn (history ++ [entry]) = successesIn history + entry.succeeded.toNat := by
  cases succeeded : entry.succeeded <;> simp [successesIn, succeeded]

theorem sweptIn_concat : sweptIn (history ++ [entry]) = sweptIn history + entry.sweptCount := by
  simp [sweptIn]

/-! ## The moves -/

/-- What a call can do, and what it tells of it. -/
inductive Move (entry : Entry) : Prop where
  | silent
      (refusal : WorkError)
      (told : entry.reply = .spent (.error refusal))
      (same : entry.after = entry.before)
  | spend (nonce : String) (now : Int)
      (called : entry.call.spending? = some (nonce, now))
      (told : entry.reply = .spent (.ok ()))
      (formed : Nonce.WellFormed nonce)
      (unspent : entry.before.isSpent nonce = false)
      (recorded : entry.after = entry.before.insert nonce now)
  | sweep (now : Int)
      (called : entry.call = .sweep now)
      (told : entry.reply = .swept (entry.before.sweep now).1)
      (swept : entry.after = (entry.before.sweep now).2)

/-- A nonce that is spent is well formed and new, and it is remembered. -/
theorem of_spendWith_eq_ok
    {Result : Type}
    {nonce : String}
    {now : Int}
    {inner : Unit → Except WorkError Result}
    {result : Result}
    {nonces after : SpentNonces}
    (spent : nonces.spendWith nonce now inner = .ok (result, after)) :
    Nonce.WellFormed nonce ∧ nonces.isSpent nonce = false ∧ after = nonces.insert nonce now := by
  simp only [spendWith, inspect] at spent
  by_cases formed : Nonce.WellFormed nonce
  · by_cases reused : nonces.isSpent nonce
    · simp [formed, reused] at spent
    · cases outcome : inner () with
      | error refusal => simp [formed, reused, outcome] at spent
      | ok found =>
          simp only [formed, reused, outcome, if_true, Bool.false_eq_true, if_false,
            Except.ok.injEq, Prod.mk.injEq] at spent
          exact ⟨formed, by simpa using reused, spent.2.symm⟩
  · simp [formed] at spent

/-- A sweep counts what it drops. -/
theorem size_sweep_add_count (nonces : SpentNonces) (now : Int) :
    (nonces.sweep now).2.size + (nonces.sweep now).1 = nonces.size :=
  Nat.add_sub_cancel' (Table.size_filter_le _)

theorem answer_spend (nonces : SpentNonces) (nonce : String) (now : Int) :
    nonces.answer (.spend nonce now) = nonces.answer (.spendWith nonce now fun () => .ok ()) := by
  simp only [answer, spend]
  cases nonces.spendWith nonce now fun () => .ok () <;> rfl

theorem move_entry_of_spendWith
    {nonces : SpentNonces}
    {call : Call}
    {nonce : String}
    {now : Int}
    {inner : Unit → Except WorkError Unit}
    (called : call.spending? = some (nonce, now))
    (same : nonces.answer call = nonces.answer (.spendWith nonce now inner)) :
    Move (Trace.entry answer nonces call) := by
  cases outcome : nonces.spendWith nonce now inner with
  | error refusal =>
      have answered : nonces.answer call = (.spent (.error refusal), nonces) := by
        rw [same]
        simp only [answer, outcome]
      exact .silent refusal (congrArg Prod.fst answered) (congrArg Prod.snd answered)
  | ok spent =>
      have answered : nonces.answer call = (.spent (.ok ()), spent.2) := by
        rw [same]
        simp only [answer, outcome]
      obtain ⟨formed, unspent, recorded⟩ := of_spendWith_eq_ok outcome
      exact .spend nonce now called (congrArg Prod.fst answered) formed unspent
        ((congrArg Prod.snd answered).trans recorded)

theorem move_entry (nonces : SpentNonces) (call : Call) :
    Move (Trace.entry answer nonces call) := by
  cases call with
  | spend nonce now => exact move_entry_of_spendWith rfl (nonces.answer_spend nonce now)
  | spendWith nonce now inner => exact move_entry_of_spendWith rfl rfl
  | sweep now => exact .sweep now rfl rfl rfl

/-- A nonce that is spent was not remembered in any spelling. -/
theorem Move.unspent_of_spends
    (move : Move entry)
    {nonce : String}
    {now : Int}
    (spends : entry.Spends nonce now) :
    entry.before.isSpent nonce = false := by
  obtain ⟨tried, succeeded⟩ := spends
  cases move with
  | silent refusal told same => simp [Entry.succeeded, told] at succeeded
  | spend spent moment called told formed unspent recorded =>
      obtain ⟨rfl, -⟩ : spent = nonce ∧ moment = now := by simpa [called] using tried
      exact unspent
  | sweep moment called told swept => simp [Entry.succeeded, told] at succeeded

/-! ## What is remembered -/

/-- A nonce was spent at a reading and no sweep has found it out of date since. -/
def SpentSince (retention : Int) (nonce : String) (now : Int) : List Entry → Prop :=
  Since (fun entry => ¬ entry.Outdates retention now) (fun entry => entry.Spends nonce now)

/-- What a history tells of the memory that it led to. -/
structure Ledger (retention : Int) (history : List Entry) (nonces : SpentNonces) : Prop where
  retention_eq : nonces.retention = retention
  folded : ∀ key spentAt, nonces.spent.get? key = some spentAt → Nonce.Folded key
  remembered :
    ∀ nonce now, SpentSince retention nonce now history →
      nonces.spent.get? (Nonce.fold nonce) = some now
  balance : successesIn history = nonces.size + sweptIn history

namespace Ledger

theorem nil (retention : Int) : Ledger retention [] { retention } where
  retention_eq := rfl
  folded key spentAt found := by simp at found
  remembered nonce now since := absurd since not_since_nil
  balance := rfl

/-- An entry that tells of no success keeps what it found. -/
theorem of_not_succeeded
    {nonce : String}
    {now : Int}
    (since : SpentSince retention nonce now (history ++ [entry]))
    (failed : entry.succeeded = false) :
    SpentSince retention nonce now history ∧ ¬ entry.Outdates retention now := by
  rcases since_concat_iff.mp since with ⟨-, succeeds⟩ | kept
  · rw [failed] at succeeds
    cases succeeds
  · exact kept

theorem silent
    (ledger : Ledger retention history entry.before)
    {refusal : WorkError}
    (told : entry.reply = .spent (.error refusal))
    (same : entry.after = entry.before) :
    Ledger retention (history ++ [entry]) entry.after where
  retention_eq := by rw [same, ledger.retention_eq]
  folded key spentAt found := ledger.folded key spentAt (by rw [← same, found])
  remembered nonce now since := by
    rw [same]
    exact ledger.remembered nonce now (of_not_succeeded since (by simp [Entry.succeeded, told])).1
  balance := by
    rw [successesIn_concat, sweptIn_concat, ledger.balance, same]
    simp [Entry.succeeded, Entry.sweptCount, told]

theorem spend
    (ledger : Ledger retention history entry.before)
    {nonce : String}
    {now : Int}
    (called : entry.call.spending? = some (nonce, now))
    (told : entry.reply = .spent (.ok ()))
    (formed : Nonce.WellFormed nonce)
    (unspent : entry.before.isSpent nonce = false)
    (recorded : entry.after = entry.before.insert nonce now) :
    Ledger retention (history ++ [entry]) entry.after where
  retention_eq := by
    rw [recorded]
    exact ledger.retention_eq
  folded key spentAt found := by
    rw [recorded] at found
    rcases Table.get?_insert_eq_some_iff.mp found with ⟨rfl, -⟩ | ⟨-, older⟩
    · exact Nonce.folded_fold formed
    · exact ledger.folded key spentAt older
  remembered other moment since := by
    rw [recorded]
    apply Table.get?_insert_eq_some_iff.mpr
    rcases since_concat_iff.mp since with ⟨calledOther, -⟩ | ⟨older, -⟩
    · obtain ⟨rfl, rfl⟩ : nonce = other ∧ now = moment := by simpa [called] using calledOther
      exact Or.inl ⟨rfl, rfl⟩
    · have found := ledger.remembered other moment older
      refine Or.inr ⟨?_, found⟩
      intro same
      exact Table.contains_eq_false_iff.mp unspent moment (same ▸ found)
  balance := by
    have absent : entry.before.spent.get? (Nonce.fold nonce) = none := by
      simpa [isSpent, Table.contains] using unspent
    have grown : entry.after.size = entry.before.size + 1 := by
      rw [recorded]
      exact Table.size_insert_of_get?_eq_none absent
    rw [successesIn_concat, sweptIn_concat, ledger.balance, grown]
    simp only [Entry.succeeded, Entry.sweptCount, told, Bool.toNat_true]
    omega

theorem sweep
    (ledger : Ledger retention history entry.before)
    {now : Int}
    (called : entry.call = .sweep now)
    (told : entry.reply = .swept (entry.before.sweep now).1)
    (swept : entry.after = (entry.before.sweep now).2) :
    Ledger retention (history ++ [entry]) entry.after where
  retention_eq := by
    rw [swept]
    exact ledger.retention_eq
  folded key spentAt found := by
    rw [swept, get?_sweep_eq_some_iff] at found
    exact ledger.folded key spentAt found.1
  remembered nonce moment since := by
    obtain ⟨older, young⟩ := of_not_succeeded since (by simp [Entry.succeeded, told])
    rw [swept, get?_sweep_eq_some_iff]
    refine ⟨ledger.remembered nonce moment older, ?_⟩
    rw [ledger.retention_eq]
    exact Int.not_lt.mp fun late => young ⟨now, called, late⟩
  balance := by
    have split := entry.before.size_sweep_add_count now
    rw [successesIn_concat, sweptIn_concat, ledger.balance, swept]
    simp only [Entry.succeeded, Entry.sweptCount, told, Bool.toNat_false]
    omega

theorem step (ledger : Ledger retention history entry.before) (move : Move entry) :
    Ledger retention (history ++ [entry]) entry.after := by
  cases move with
  | silent refusal told same => exact ledger.silent told same
  | spend nonce now called told formed unspent recorded =>
      exact ledger.spend called told formed unspent recorded
  | sweep now called told swept => exact ledger.sweep called told swept

end Ledger

/-! ## Runs -/

/-- The entries that calls leave on a memory that is empty at first. -/
def historyOf (retention : Int) (calls : List Call) : List Entry :=
  Trace.history answer { retention } calls

/-- The memory that the calls lead to. -/
def stateAfter (retention : Int) (calls : List Call) : SpentNonces :=
  Trace.run answer { retention } calls

theorem ledger_run (retention : Int) (calls : List Call) :
    Ledger retention (historyOf retention calls) (stateAfter retention calls) := by
  apply Trace.invariant (motive := Ledger retention)
  · exact Ledger.nil retention
  · intro history nonces call ledger
    exact ledger.step (nonces.move_entry call)

/-- Between two successes under one spelling a sweep has forgotten the first. -/
theorem exists_outdating_between
    {calls : List Call}
    {earlier between later : List Entry}
    {first second : Entry}
    (split : historyOf retention calls = earlier ++ first :: between ++ second :: later)
    {nonce again : String}
    {now nowAgain : Int}
    (spends : first.Spends nonce now)
    (spendsAgain : second.Spends again nowAgain)
    (sameFold : Nonce.fold nonce = Nonce.fold again) :
    ∃ sweep ∈ between, sweep.Outdates retention now := by
  by_contra none
  obtain ⟨before, call, former, rfl⟩ := Trace.exists_call_of_split split
  have since : SpentSince retention nonce now (earlier ++ first :: between) :=
    ⟨earlier, first, between, rfl, spends, fun entry member outdates =>
      none ⟨entry, member, outdates⟩⟩
  rw [former] at since
  have found := (ledger_run retention before).remembered nonce now since
  -- The memory still held the spelling when it was spent again.
  have unspent := (move_entry (stateAfter retention before) call).unspent_of_spends spendsAgain
  exact Table.contains_eq_false_iff.mp unspent now (sameFold ▸ found)

/--
Spent nonces are conserved by calls: each success is remembered or was forgotten by one sweep, each
key is a folded spelling, and what is spent again was out of date for a sweep in between.
-/
structure Conserved (retention : Int) (calls : List Call) : Prop where
  balance :
    successesIn (historyOf retention calls) =
      (stateAfter retention calls).size + sweptIn (historyOf retention calls)
  folded : ∀ key ∈ (stateAfter retention calls).spent.keys, Nonce.Folded key
  outdated :
    ∀ earlier first between second later,
      historyOf retention calls = earlier ++ first :: between ++ second :: later →
        ∀ nonce now again nowAgain, first.Spends nonce now → second.Spends again nowAgain →
          Nonce.fold nonce = Nonce.fold again →
            ∃ sweep ∈ between, sweep.Outdates retention now

theorem conserved (retention : Int) (calls : List Call) : Conserved retention calls where
  balance := (ledger_run retention calls).balance
  folded key member := by
    obtain ⟨spentAt, found⟩ := Table.mem_keys_iff.mp member
    exact (ledger_run retention calls).folded key spentAt found
  outdated earlier first between second later split nonce now again nowAgain :=
    exists_outdating_between split

end SpentNonces

end WorkGate
