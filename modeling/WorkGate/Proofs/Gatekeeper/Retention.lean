import WorkGate.Proofs.Gatekeeper.Replay

/-!
# What is remembered is young

Anyone may ask for a challenge, so what a gatekeeper remembers grows with the requests it gets.  It
is the sweeps that keep it bounded: if the last sweep, or the start, lies at most a grace period
back, then everything remembered is younger than a lifetime and that period together.  The tables
are therefore no larger than the number of challenges issued, and of response nonces spent, within
that time.  A sweep that has just passed leaves what is younger than a lifetime.

The clock may stand still or jump ahead, but it must not go back: an entry that is older than the
last sweep by the clock and younger in the run would escape it.
-/

namespace WorkGate.Gatekeeper

/-! ## What a history tells of the last while -/

namespace Entry

/-- The nonce of the challenge that the entry issues. -/
def issued? (entry : Entry) : Option String :=
  match entry.deed with
  | .issued ticket => some ticket.challengeNonce
  | _ => none

/-- The upper-case spelling of the response nonce that the entry spends. -/
def spent? (entry : Entry) : Option String :=
  match entry.deed with
  | .verified submission (.ok ()) => some (Nonce.fold submission.responseNonce)
  | _ => none

variable {entry : Entry}

theorem issues_iff {nonce : String} : entry.Issues nonce ↔ entry.issued? = some nonce := by
  unfold Issues issued?
  split <;> simp_all

theorem spends_iff_spent? {key : String} : entry.Spends key ↔ entry.spent? = some key := by
  unfold Spends spent?
  split <;> simp_all

end Entry

/-- The entries of a history that are at most so old. -/
def lately (span now : Int) (history : List Entry) : List Entry :=
  history.filter fun entry => now - entry.now ≤ span

/-- The nonces of the challenges that were issued within the span, one for each issue. -/
def issuedLately (span now : Int) (history : List Entry) : List String :=
  (lately span now history).filterMap Entry.issued?

/-- The response nonces that were spent within the span, one for each success. -/
def spentLately (span now : Int) (history : List Entry) : List String :=
  (lately span now history).filterMap Entry.spent?

variable {span now : Int} {history : List Entry} {entry : Entry}

theorem mem_lately_iff :
    entry ∈ lately span now history ↔ entry ∈ history ∧ now - entry.now ≤ span := by
  simp [lately]

namespace Session

variable {Source : Type} [RandomSource Source] {start grace : Int} {session : Session Source}

/-- The clock readings of a session, from the one at its start to the present one. -/
def readings (start : Int) (session : Session Source) : List Int :=
  (start :: session.history.map Entry.now) ++ [session.reading]

/-- The clock has never gone back. -/
def InOrder (start : Int) (session : Session Source) : Prop :=
  (session.readings start).Pairwise (· ≤ ·)

/-- A sweep, or else the start, lies at most the grace period back. -/
def SweptWithin (grace start : Int) (session : Session Source) : Prop :=
  session.reading - start ≤ grace ∨
    ∃ entry ∈ session.history, entry.Sweeps ∧ session.reading - entry.now ≤ grace

/-- All that is remembered was issued or spent within the span, and there is no more of it. -/
structure KeepsWithin (span : Int) (session : Session Source) : Prop where
  challenge_age (nonce : String) (issuedAt : Int) :
    session.keeper.challenges.issued.get? nonce = some issuedAt →
      session.reading - issuedAt ≤ span ∧
        ∃ entry ∈ session.history, entry.Issues nonce ∧ entry.now = issuedAt
  nonce_age (key : String) (spentAt : Int) :
    session.keeper.spent.spent.get? key = some spentAt →
      session.reading - spentAt ≤ span ∧
        ∃ entry ∈ session.history, entry.Spends key ∧ entry.now = spentAt
  challenge_count :
    session.keeper.challenges.size ≤
      (issuedLately span session.reading session.history).length
  nonce_count :
    session.keeper.spent.size ≤ (spentLately span session.reading session.history).length

omit [RandomSource Source] in
/-- What was begun before the last sweep is spared by it, and what was begun later is younger. -/
theorem age_le
    {lifetime : Int}
    (nonneg : 0 ≤ lifetime)
    (inOrder : session.InOrder start)
    (swept : session.SweptWithin grace start)
    {earlier later : List Entry}
    (split : session.history = earlier ++ entry :: later)
    (spared : ∀ next ∈ later, ¬ next.Outdates lifetime entry.now) :
    session.reading - entry.now ≤ lifetime + grace := by
  have member : entry.now ∈ session.history.map Entry.now :=
    List.mem_map_of_mem (by simp [split])
  obtain ⟨fromStart, sorted⟩ := List.pairwise_cons.mp (List.pairwise_append.mp inOrder).1
  rcases swept with recent | ⟨sweep, swept, sweeps, recent⟩
  · have started : start ≤ entry.now := fromStart _ member
    omega
  · rw [split] at swept sorted
    simp only [List.map_append, List.map_cons] at sorted
    rcases List.mem_append.mp swept with before | after
    · have sweptBefore : sweep.now ≤ entry.now :=
        (List.pairwise_append.mp sorted).2.2 _ (List.mem_map_of_mem before) _ List.mem_cons_self
      omega
    · rcases List.mem_cons.mp after with rfl | sweptLater
      · omega
      · have onTime : ¬ lifetime < sweep.now - entry.now := fun late =>
          spared sweep sweptLater ⟨sweeps, late⟩
        omega

omit [RandomSource Source] in
/-- The tables that stand for a history are as young as the last sweep makes them. -/
theorem keepsWithin_of_ledger
    {first : HashValue}
    {lifetime : Int}
    (ledger : Ledger first lifetime session.history session.keeper)
    (nonneg : 0 ≤ lifetime)
    (inOrder : session.InOrder start)
    (swept : session.SweptWithin grace start) :
    session.KeepsWithin (lifetime + grace) := by
  have challengeAge (nonce : String) (issuedAt : Int)
      (found : session.keeper.challenges.issued.get? nonce = some issuedAt) :
      session.reading - issuedAt ≤ lifetime + grace ∧
        ∃ entry ∈ session.history, entry.Issues nonce ∧ entry.now = issuedAt := by
    obtain ⟨earlier, entry, later, split, ⟨issues, rfl⟩, kept⟩ :=
      (ledger.issued_iff nonce issuedAt).mp found
    exact ⟨age_le nonneg inOrder swept split fun next member => (kept next member).2.2,
      entry, by simp [split], issues, rfl⟩
  have nonceAge (key : String) (spentAt : Int)
      (found : session.keeper.spent.spent.get? key = some spentAt) :
      session.reading - spentAt ≤ lifetime + grace ∧
        ∃ entry ∈ session.history, entry.Spends key ∧ entry.now = spentAt := by
    obtain ⟨earlier, entry, later, split, ⟨spends, rfl⟩, kept⟩ :=
      (ledger.spent_iff key spentAt).mp found
    exact ⟨age_le nonneg inOrder swept split kept, entry, by simp [split], spends, rfl⟩
  -- Different keys were named by different entries, all of them recent.
  refine ⟨challengeAge, nonceAge, ?_, ?_⟩
  · apply Table.size_le_length_of_listed
    intro nonce issuedAt found
    obtain ⟨young, entry, member, issues, rfl⟩ := challengeAge nonce issuedAt found
    exact List.mem_filterMap.mpr
      ⟨entry, mem_lately_iff.mpr ⟨member, young⟩, Entry.issues_iff.mp issues⟩
  · apply Table.size_le_length_of_listed
    intro key spentAt found
    obtain ⟨young, entry, member, spends, rfl⟩ := nonceAge key spentAt found
    exact List.mem_filterMap.mpr
      ⟨entry, mem_lately_iff.mpr ⟨member, young⟩, Entry.spends_iff_spent?.mp spends⟩

/-- A sweep takes its reading from the present. -/
theorem InOrder.sweep (inOrder : session.InOrder start) : (session.step .sweep).InOrder start := by
  obtain ⟨sorted, -, upToNow⟩ := List.pairwise_append.mp inOrder
  have reached : (session.step .sweep).readings start =
      session.readings start ++ [session.reading] := by
    simp [readings, step, note]
  rw [InOrder, reached]
  refine List.pairwise_append.mpr ⟨inOrder, List.pairwise_singleton _ _, ?_⟩
  intro earlier member last present
  rw [List.mem_singleton.mp present]
  rcases List.mem_append.mp member with before | now
  · exact upToNow earlier before _ (List.mem_singleton_self _)
  · exact Int.le_of_eq (List.mem_singleton.mp now)

theorem sweptWithin_sweep (session : Session Source) (start : Int) :
    (session.step .sweep).SweptWithin 0 start := by
  right
  refine ⟨_, List.mem_append_right _ (List.mem_singleton_self _), trivial, ?_⟩
  exact Int.sub_nonpos_of_le (Int.le_refl _)

/--
Wherever a run has come to, what is remembered is younger than a lifetime and the time since the
last sweep or the start, and right after a sweep it is younger than a lifetime.
-/
theorem retention_is_bounded
    {policy : Policy}
    {keeper : Gatekeeper}
    (created : create policy = .ok keeper)
    (nonneg : 0 ≤ policy.lifetimeMillis)
    (start : Int)
    (source : Source)
    (actions : List Action)
    (inOrder : (Session.run { keeper, reading := start, source } actions).InOrder start) :
    let session := Session.run { keeper, reading := start, source } actions
    (∀ grace, session.SweptWithin grace start →
        session.KeepsWithin (policy.lifetimeMillis + grace)) ∧
      (session.step .sweep).KeepsWithin policy.lifetimeMillis := by
  intro session
  have ledger := ledger_run_of_create created start source actions
  constructor
  · intro grace swept
    exact keepsWithin_of_ledger ledger nonneg inOrder swept
  · have kept :=
      keepsWithin_of_ledger (ledger_step ledger .sweep) nonneg inOrder.sweep
        (sweptWithin_sweep session start)
    rwa [Int.add_zero] at kept

/-! ## A challenge as old as it can be -/

/-- A challenge that a sweep has just spared is open until another sweep comes. -/
def sparedActions : List Action :=
  [.issue, .setClock 300000, .sweep, .issue, .setClock 375000]

/-- A challenge is kept for a lifetime and the time to the next sweep, and not a moment longer. -/
theorem oldest_challenge_is_a_lifetime_and_a_grace_old :
    let session := Session.run { keeper := openKeeper, reading := 0, source := zerosAndOnes }
      sparedActions
    session.InOrder 0 ∧ session.SweptWithin 75000 0 ∧
      session.keeper.challenges.issued.get? zeroSubmission.challengeNonce = some 0 ∧
        session.reading - 0 = openPolicy.lifetimeMillis + 75000 ∧
          session.KeepsWithin (openPolicy.lifetimeMillis + 75000) ∧
            (session.step .sweep).keeper.challenges.size ≤ 1 := by
  intro session
  have inOrder : session.InOrder 0 := by
    simp [session, sparedActions, run, step, InOrder, readings, note]
  have swept : session.SweptWithin 75000 0 := by
    right
    exact ⟨_, List.mem_cons_of_mem _ List.mem_cons_self, trivial, by decide⟩
  have nonneg : 0 ≤ openPolicy.lifetimeMillis := by decide +kernel
  obtain ⟨within, afterSweep⟩ :=
    retention_is_bounded create_openPolicy nonneg 0 zerosAndOnes sparedActions inOrder
  refine ⟨inOrder, swept, by decide +kernel, by decide +kernel, within 75000 swept, ?_⟩
  exact afterSweep.challenge_count

end Session

end WorkGate.Gatekeeper
