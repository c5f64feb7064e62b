import WorkGate.OpenChallenges
import WorkGate.Proofs.Gatekeeper.Operations
import WorkGate.Proofs.Trace

/-!
# The fate of a challenge

Challenges are issued, validated, redeemed under any test and swept, at any clock readings, also
readings that run backwards.  As long as no nonce is issued twice, each challenge that was issued is
in exactly one of three phases: it is live, or it was redeemed once and came back as it was issued,
or a sweep has dropped it.  The last two are final, and the three account for every challenge that
was ever issued.

`Fate` is the invariant for one challenge and `Ledger` the one for the whole collection.  A call
makes one of four moves: it changes nothing, or it issues, redeems or sweeps.
-/

namespace WorkGate.OpenChallenges

/-- What can be asked of a collection of challenges, with the clock reading it is asked at. -/
inductive Call where
  | issue (now : Int)
  | validate (nonce : String) (now : Int)
  | redeem (nonce : String) (now : Int) (test : Challenge → Except WorkError Unit)
  | sweep (now : Int)

inductive Reply where
  | issued (challenge : Challenge)
  | validated (verdict : Except WorkError Challenge)
  | redeemed (verdict : Except WorkError Challenge)
  | swept (count : Nat)

/-- A collection of challenges with its random source. -/
abbrev Stocked (Source : Type) := OpenChallenges × Source

section

variable {Source : Type} [RandomSource Source]

/-- Answers a call; a redemption that is refused leaves the collection as it was. -/
def answer (stocked : Stocked Source) : Call → Reply × Stocked Source
  | .issue now =>
      let (challenge, challenges, source) := stocked.1.issue now stocked.2
      (.issued challenge, challenges, source)
  | .validate nonce now => (.validated (stocked.1.validate nonce now), stocked)
  | .redeem nonce now test =>
      match stocked.1.redeem nonce now test with
      | .ok (challenge, challenges) => (.redeemed (.ok challenge), challenges, stocked.2)
      | .error refusal => (.redeemed (.error refusal), stocked)
  | .sweep now =>
      let (count, challenges) := stocked.1.sweep now
      (.swept count, challenges, stocked.2)

end

/-- An entry of a trace of calls. -/
abbrev Entry (Source : Type) := Trace.Entry (Stocked Source) Call Reply

namespace Entry

variable {Source : Type}

def issued? (entry : Entry Source) : Option Challenge :=
  match entry.reply with
  | .issued challenge => some challenge
  | _ => none

/-- The challenge that a successful redemption returned. -/
def redeemed? (entry : Entry Source) : Option Challenge :=
  match entry.reply with
  | .redeemed (.ok challenge) => some challenge
  | _ => none

/-- The count that a sweep returned. -/
def sweptCount (entry : Entry Source) : Nat :=
  match entry.reply with
  | .swept count => count
  | _ => 0

theorem sweptCount_eq_zero
    {entry : Entry Source}
    (notSwept : ∀ count, entry.reply ≠ .swept count) :
    entry.sweptCount = 0 := by
  cases told : entry.reply with
  | swept count => exact absurd told (notSwept count)
  | issued challenge => simp only [sweptCount, told]
  | validated verdict => simp only [sweptCount, told]
  | redeemed verdict => simp only [sweptCount, told]

/-- The entry is a sweep after which a challenge that was open before is no longer open. -/
def Drops (nonce : String) (entry : Entry Source) : Prop :=
  (∃ count, entry.reply = .swept count) ∧
    entry.before.1.issued.contains nonce = true ∧ entry.after.1.issued.contains nonce = false

end Entry

/-! ## The moves -/

/-- What a call can do, and what it tells of it. -/
inductive Move {Source : Type} (entry : Entry Source) : Prop where
  | silent
      (same : entry.after.1 = entry.before.1)
      (issuesNone : entry.issued? = none)
      (redeemsNone : entry.redeemed? = none)
      (notSwept : ∀ count, entry.reply ≠ .swept count)
  | issue (challenge : Challenge)
      (told : entry.reply = .issued challenge)
      (opened : entry.after.1 = entry.before.1.insert challenge)
  | redeem (challenge : Challenge)
      (told : entry.reply = .redeemed (.ok challenge))
      (found : entry.before.1.issued.get? challenge.nonce = some challenge.issuedAt)
      (closed :
        entry.after.1 =
          { entry.before.1 with issued := entry.before.1.issued.erase challenge.nonce })
  | sweep (now : Int)
      (told : entry.reply = .swept (entry.before.1.sweep now).1)
      (swept : entry.after.1 = (entry.before.1.sweep now).2)

/-- A redemption that succeeds returns the challenge as it was issued, and closes it. -/
theorem of_redeem_eq_ok
    {challenges closed : OpenChallenges}
    {nonce : String}
    {now : Int}
    {test : Challenge → Except WorkError Unit}
    {challenge : Challenge}
    (redeemed : challenges.redeem nonce now test = .ok (challenge, closed)) :
    challenges.issued.get? challenge.nonce = some challenge.issuedAt ∧
      closed = { challenges with issued := challenges.issued.erase challenge.nonce } := by
  by_cases fresh : challenges.IsFresh nonce now
  · obtain ⟨issuedAt, found, young⟩ := fresh
    simp only [redeem, validate_eq_ok found young] at redeemed
    split at redeemed
    · cases redeemed
    · cases redeemed
      exact ⟨found, rfl⟩
  · simp only [redeem, validate_of_not_isFresh fresh] at redeemed
    cases redeemed

/-- A sweep counts what it drops. -/
theorem size_sweep_add_count (challenges : OpenChallenges) (now : Int) :
    (challenges.sweep now).2.size + (challenges.sweep now).1 = challenges.size :=
  Nat.add_sub_cancel' (Table.size_filter_le _)

theorem move_entry
    {Source : Type} [RandomSource Source]
    (stocked : Stocked Source)
    (call : Call) :
    Move (Trace.entry answer stocked call) := by
  cases call with
  | issue now => exact .issue _ rfl rfl
  | validate nonce now => exact .silent rfl rfl rfl fun count => Reply.noConfusion
  | redeem nonce now test =>
      cases outcome : stocked.1.redeem nonce now test with
      | error refusal =>
          have made : Trace.entry answer stocked (.redeem nonce now test) =
              { before := stocked
                call := .redeem nonce now test
                reply := .redeemed (.error refusal)
                after := stocked } := by
            simp only [Trace.entry, answer, outcome]
          rw [made]
          exact .silent rfl rfl rfl fun count => Reply.noConfusion
      | ok closed =>
          obtain ⟨found, same⟩ := of_redeem_eq_ok outcome
          have made : Trace.entry answer stocked (.redeem nonce now test) =
              { before := stocked
                call := .redeem nonce now test
                reply := .redeemed (.ok closed.1)
                after := (closed.2, stocked.2) } := by
            simp only [Trace.entry, answer, outcome]
          rw [made]
          exact .redeem closed.1 rfl found same
  | sweep now => exact .sweep now rfl rfl

variable {Source : Type} {history : List (Entry Source)} {entry : Entry Source}

/-! ## What a history tells -/

/-- The challenges that were issued, the earliest first. -/
def issuedIn (history : List (Entry Source)) : List Challenge :=
  history.filterMap Entry.issued?

/-- The challenges that successful redemptions returned. -/
def redeemedIn (history : List (Entry Source)) : List Challenge :=
  history.filterMap Entry.redeemed?

/-- The sum of what the sweeps returned. -/
def sweptIn (history : List (Entry Source)) : Nat :=
  history.foldl (fun total entry => total + entry.sweptCount) 0

/-- The successful redemptions of one nonce. -/
def redemptionsOf (nonce : String) (history : List (Entry Source)) : List Challenge :=
  (redeemedIn history).filter fun challenge => challenge.nonce = nonce

theorem issuedIn_concat :
    issuedIn (history ++ [entry]) = issuedIn history ++ entry.issued?.toList := by
  cases issued : entry.issued? <;> simp [issuedIn, issued]

theorem redeemedIn_concat :
    redeemedIn (history ++ [entry]) = redeemedIn history ++ entry.redeemed?.toList := by
  cases redeemed : entry.redeemed? <;> simp [redeemedIn, redeemed]

theorem sweptIn_concat : sweptIn (history ++ [entry]) = sweptIn history + entry.sweptCount := by
  simp [sweptIn]

theorem redemptionsOf_append {nonce : String} {later : List (Entry Source)} :
    redemptionsOf nonce (history ++ later) =
      redemptionsOf nonce history ++ redemptionsOf nonce later := by
  simp [redemptionsOf, redeemedIn]

/-! ## One challenge -/

/-- What has become of a challenge that was issued. -/
inductive Fate
    (challenge : Challenge)
    (history : List (Entry Source))
    (challenges : OpenChallenges) :
    Prop where
  | live
      (found : challenges.issued.get? challenge.nonce = some challenge.issuedAt)
      (unredeemed : redemptionsOf challenge.nonce history = [])
      (undropped : ∀ entry ∈ history, ¬ entry.Drops challenge.nonce)
  | redeemed
      (absent : challenges.issued.get? challenge.nonce = none)
      (once : redemptionsOf challenge.nonce history = [challenge])
      (undropped : ∀ entry ∈ history, ¬ entry.Drops challenge.nonce)
  | swept
      (absent : challenges.issued.get? challenge.nonce = none)
      (unredeemed : redemptionsOf challenge.nonce history = [])
      (dropped : ∃ entry ∈ history, entry.Drops challenge.nonce)

theorem undropped_concat
    {nonce : String}
    (undropped : ∀ earlier ∈ history, ¬ earlier.Drops nonce)
    (keeps : ¬ entry.Drops nonce) :
    ∀ earlier ∈ history ++ [entry], ¬ earlier.Drops nonce := by
  intro earlier member
  rcases List.mem_append.mp member with old | new
  · exact undropped earlier old
  · rw [List.mem_singleton.mp new]
    exact keeps

theorem dropped_concat
    {nonce : String}
    (dropped : ∃ earlier ∈ history, earlier.Drops nonce) :
    ∃ earlier ∈ history ++ [entry], earlier.Drops nonce := by
  obtain ⟨earlier, member, drops⟩ := dropped
  exact ⟨earlier, List.mem_append_left _ member, drops⟩

/-- An entry that neither redeems nor drops a challenge and finds it as before keeps its fate. -/
theorem Fate.keep
    {challenge : Challenge}
    (fate : Fate challenge history entry.before.1)
    (same :
      entry.after.1.issued.get? challenge.nonce = entry.before.1.issued.get? challenge.nonce)
    (unredeemed : redemptionsOf challenge.nonce [entry] = [])
    (keeps : ¬ entry.Drops challenge.nonce) :
    Fate challenge (history ++ [entry]) entry.after.1 := by
  have redemptions :
      redemptionsOf challenge.nonce (history ++ [entry]) =
        redemptionsOf challenge.nonce history := by
    rw [redemptionsOf_append, unredeemed, List.append_nil]
  cases fate with
  | live found none undropped =>
      exact .live (same.trans found) (redemptions.trans none) (undropped_concat undropped keeps)
  | redeemed absent once undropped =>
      exact .redeemed (same.trans absent) (redemptions.trans once)
        (undropped_concat undropped keeps)
  | swept absent none dropped =>
      exact .swept (same.trans absent) (redemptions.trans none) (dropped_concat dropped)

theorem not_drops_of_reply
    {nonce : String}
    (notSwept : ∀ count, entry.reply ≠ .swept count) :
    ¬ entry.Drops nonce := by
  rintro ⟨⟨count, told⟩, -⟩
  exact notSwept count told

theorem not_drops_of_absent
    {nonce : String}
    (absent : entry.before.1.issued.get? nonce = none) :
    ¬ entry.Drops nonce := by
  rintro ⟨-, held, -⟩
  simp [Table.contains, absent] at held

/-- A live challenge is kept by a sweep, or dropped. -/
theorem Fate.sweep
    {challenge : Challenge}
    (fate : Fate challenge history entry.before.1)
    {now : Int}
    (told : entry.reply = .swept (entry.before.1.sweep now).1)
    (swept : entry.after.1 = (entry.before.1.sweep now).2) :
    Fate challenge (history ++ [entry]) entry.after.1 := by
  have unredeemed : redemptionsOf challenge.nonce [entry] = [] := by
    simp [redemptionsOf, redeemedIn, Entry.redeemed?, told]
  cases found : entry.before.1.issued.get? challenge.nonce with
  | none =>
      apply fate.keep _ unredeemed (not_drops_of_absent found)
      rw [found, swept, Option.eq_none_iff_forall_ne_some]
      intro issuedAt kept
      rw [get?_sweep_eq_some_iff, found] at kept
      cases kept.1
  | some issuedAt =>
      cases kept : entry.after.1.issued.get? challenge.nonce with
      | some still =>
          have stays := kept
          rw [swept, get?_sweep_eq_some_iff] at stays
          apply fate.keep _ unredeemed
          · rintro ⟨-, -, gone⟩
            simp [Table.contains, kept] at gone
          · rw [kept, stays.1]
      | none =>
          have drops : entry.Drops challenge.nonce :=
            ⟨⟨_, told⟩, by simp [Table.contains, found], by simp [Table.contains, kept]⟩
          cases fate with
          | live foundHere none undropped =>
              refine .swept kept ?_ ⟨entry, by simp, drops⟩
              rw [redemptionsOf_append, none, unredeemed, List.append_nil]
          | redeemed absent once undropped =>
              rw [found] at absent
              cases absent
          | swept absent none dropped =>
              rw [found] at absent
              cases absent

/-- A redemption closes the challenge that it returns, and no other. -/
theorem Fate.redeem
    {challenge redeemed : Challenge}
    (fate : Fate challenge history entry.before.1)
    (told : entry.reply = .redeemed (.ok redeemed))
    (found : entry.before.1.issued.get? redeemed.nonce = some redeemed.issuedAt)
    (closed :
      entry.after.1 =
        { entry.before.1 with issued := entry.before.1.issued.erase redeemed.nonce }) :
    Fate challenge (history ++ [entry]) entry.after.1 := by
  have keeps : ¬ entry.Drops challenge.nonce := not_drops_of_reply (by simp [told])
  by_cases same : challenge.nonce = redeemed.nonce
  · cases fate with
    | live foundHere none undropped =>
        have whole : redeemed = challenge := by
          obtain ⟨nonce, issuedAt⟩ := challenge
          obtain ⟨_, _⟩ := redeemed
          obtain rfl : nonce = _ := same
          rw [found] at foundHere
          cases foundHere
          rfl
        refine .redeemed ?_ ?_ (undropped_concat undropped keeps)
        · rw [closed, same]
          exact Table.get?_erase_self _ _
        · rw [redemptionsOf_append, none]
          simp [redemptionsOf, redeemedIn, Entry.redeemed?, told, whole]
    | redeemed absent once undropped =>
        rw [same, found] at absent
        cases absent
    | swept absent none dropped =>
        rw [same, found] at absent
        cases absent
  · apply fate.keep _ _ keeps
    · rw [closed]
      exact Table.get?_erase_of_ne same _
    · have differs : redeemed.nonce ≠ challenge.nonce := fun equal => same equal.symm
      simp [redemptionsOf, redeemedIn, Entry.redeemed?, told, differs]

/-- What one call does to the fate of a challenge that was issued before. -/
theorem Fate.step
    {challenge : Challenge}
    (fate : Fate challenge history entry.before.1)
    (move : Move entry)
    (fresh : ∀ issued, entry.issued? = some issued → challenge.nonce ≠ issued.nonce) :
    Fate challenge (history ++ [entry]) entry.after.1 := by
  cases move with
  | silent same issuesNone redeemsNone notSwept =>
      apply fate.keep
      · rw [same]
      · simp [redemptionsOf, redeemedIn, redeemsNone]
      · exact not_drops_of_reply notSwept
  | issue issued told opened =>
      have differs : challenge.nonce ≠ issued.nonce := fresh issued (by simp [Entry.issued?, told])
      apply fate.keep
      · rw [opened]
        exact Table.get?_insert_of_ne differs _ _
      · simp [redemptionsOf, redeemedIn, Entry.redeemed?, told]
      · exact not_drops_of_reply (by simp [told])
  | redeem redeemed told found closed => exact fate.redeem told found closed
  | sweep now told swept => exact fate.sweep told swept

/-! ## The whole collection -/

/-- What a history tells of the collection that it led to. -/
structure Ledger (history : List (Entry Source)) (challenges : OpenChallenges) : Prop where
  issued_of_open :
    ∀ nonce issuedAt, challenges.issued.get? nonce = some issuedAt →
      { nonce, issuedAt } ∈ issuedIn history
  issued_of_redeemed : ∀ challenge ∈ redeemedIn history, challenge ∈ issuedIn history
  issued_of_dropped :
    ∀ entry ∈ history, ∀ nonce, entry.Drops nonce →
      ∃ challenge ∈ issuedIn history, challenge.nonce = nonce
  fate : ∀ challenge ∈ issuedIn history, Fate challenge history challenges
  balance :
    (issuedIn history).length =
      challenges.size + (redeemedIn history).length + sweptIn history

namespace Ledger

theorem nil (lifetime : Int) : Ledger ([] : List (Entry Source)) { lifetime } where
  issued_of_open nonce issuedAt found := by simp at found
  issued_of_redeemed challenge member := by simp [redeemedIn] at member
  issued_of_dropped entry member := by simp at member
  fate challenge member := by simp [issuedIn] at member
  balance := rfl

/-- A move that tells of an issue has opened what was issued. -/
theorem opened_of_issued?
    (move : Move entry)
    {issued : Challenge}
    (told : entry.issued? = some issued) :
    entry.reply = .issued issued ∧ entry.after.1 = entry.before.1.insert issued := by
  cases move with
  | silent same issuesNone redeemsNone notSwept =>
      rw [issuesNone] at told
      cases told
  | issue challenge reply opened =>
      obtain rfl : challenge = issued := by simpa [Entry.issued?, reply] using told
      exact ⟨reply, opened⟩
  | redeem returned reply found closed => simp [Entry.issued?, reply] at told
  | sweep now reply swept => simp [Entry.issued?, reply] at told

/-- A challenge that is issued under a fresh nonce is live. -/
theorem live_of_issued?
    (ledger : Ledger history entry.before.1)
    (move : Move entry)
    {issued : Challenge}
    (issues : entry.issued? = some issued)
    (fresh : ∀ challenge ∈ issuedIn history, challenge.nonce ≠ issued.nonce) :
    Fate issued (history ++ [entry]) entry.after.1 := by
  obtain ⟨told, opened⟩ := opened_of_issued? move issues
  apply Fate.live
  · rw [opened]
    exact Table.get?_insert_self _ _ _
  · apply List.filter_eq_nil_iff.mpr
    intro redeemed member
    rw [redeemedIn_concat] at member
    simp only [Entry.redeemed?, told, Option.toList_none, List.append_nil] at member
    simpa using fresh redeemed (ledger.issued_of_redeemed redeemed member)
  · refine undropped_concat ?_ (not_drops_of_reply (by simp [told]))
    intro earlier member drops
    obtain ⟨challenge, issuedBefore, same⟩ :=
      ledger.issued_of_dropped earlier member issued.nonce drops
    exact fresh challenge issuedBefore same

/-- What is redeemed was issued. -/
theorem issued_of_redeemed?
    (ledger : Ledger history entry.before.1)
    (move : Move entry)
    {challenge : Challenge}
    (redeemed : entry.redeemed? = some challenge) :
    challenge ∈ issuedIn history := by
  cases move with
  | silent same issuesNone redeemsNone notSwept =>
      rw [redeemsNone] at redeemed
      cases redeemed
  | issue issued told opened => simp [Entry.redeemed?, told] at redeemed
  | redeem returned told found closed =>
      obtain rfl : returned = challenge := by simpa [Entry.redeemed?, told] using redeemed
      exact ledger.issued_of_open _ _ found
  | sweep now told swept => simp [Entry.redeemed?, told] at redeemed

/-- A call changes the number of open challenges by what it reports. -/
theorem balance_concat
    (ledger : Ledger history entry.before.1)
    (move : Move entry)
    (fresh :
      ∀ issued, entry.issued? = some issued →
        ∀ challenge ∈ issuedIn history, challenge.nonce ≠ issued.nonce) :
    (issuedIn (history ++ [entry])).length =
      entry.after.1.size + (redeemedIn (history ++ [entry])).length +
        sweptIn (history ++ [entry]) := by
  have balance := ledger.balance
  rw [issuedIn_concat, redeemedIn_concat, sweptIn_concat]
  cases move with
  | silent same issuesNone redeemsNone notSwept =>
      have idle := Entry.sweptCount_eq_zero notSwept
      simpa [same, issuesNone, redeemsNone, idle] using balance
  | issue issued told opened =>
      have absent : entry.before.1.issued.get? issued.nonce = none := by
        rw [Option.eq_none_iff_forall_ne_some]
        intro issuedAt found
        exact fresh issued (by simp [Entry.issued?, told]) _
          (ledger.issued_of_open _ _ found) rfl
      have grown : entry.after.1.size = entry.before.1.size + 1 := by
        rw [opened]
        exact Table.size_insert_of_get?_eq_none absent
      simp only [Entry.issued?, Entry.redeemed?, Entry.sweptCount, told, Option.toList_some,
        Option.toList_none, List.length_append, List.length_singleton, List.length_nil]
      omega
  | redeem redeemed told found closed =>
      have shrunk : entry.after.1.size + 1 = entry.before.1.size := by
        rw [closed]
        exact Table.size_erase_of_get?_eq_some found
      simp only [Entry.issued?, Entry.redeemed?, Entry.sweptCount, told, Option.toList_some,
        Option.toList_none, List.length_append, List.length_singleton, List.length_nil]
      omega
  | sweep now told swept =>
      have split := entry.before.1.size_sweep_add_count now
      simp only [Entry.issued?, Entry.redeemed?, Entry.sweptCount, told, swept,
        Option.toList_none, List.length_append, List.length_nil]
      omega

/-- A call under which no nonce is issued again keeps the ledger. -/
theorem step
    (ledger : Ledger history entry.before.1)
    (move : Move entry)
    (fresh :
      ∀ issued, entry.issued? = some issued →
        ∀ challenge ∈ issuedIn history, challenge.nonce ≠ issued.nonce) :
    Ledger (history ++ [entry]) entry.after.1 where
  issued_of_open nonce issuedAt found := by
    rw [issuedIn_concat]
    cases move with
    | silent same issuesNone redeemsNone notSwept =>
        rw [same] at found
        exact List.mem_append_left _ (ledger.issued_of_open nonce issuedAt found)
    | issue issued told opened =>
        rw [opened] at found
        rcases Table.get?_insert_eq_some_iff.mp found with ⟨rfl, rfl⟩ | ⟨-, older⟩
        · simp [Entry.issued?, told]
        · exact List.mem_append_left _ (ledger.issued_of_open nonce issuedAt older)
    | redeem redeemed told foundRedeemed closed =>
        rw [closed] at found
        obtain ⟨-, older⟩ := Table.get?_erase_eq_some_iff.mp found
        exact List.mem_append_left _ (ledger.issued_of_open nonce issuedAt older)
    | sweep now told swept =>
        rw [swept, get?_sweep_eq_some_iff] at found
        exact List.mem_append_left _ (ledger.issued_of_open nonce issuedAt found.1)
  issued_of_redeemed challenge member := by
    rw [redeemedIn_concat, List.mem_append, Option.mem_toList] at member
    rw [issuedIn_concat]
    rcases member with old | new
    · exact List.mem_append_left _ (ledger.issued_of_redeemed challenge old)
    · exact List.mem_append_left _ (ledger.issued_of_redeemed? move new)
  issued_of_dropped earlier member nonce drops := by
    rw [issuedIn_concat]
    rcases List.mem_append.mp member with old | new
    · obtain ⟨challenge, issued, same⟩ := ledger.issued_of_dropped earlier old nonce drops
      exact ⟨challenge, List.mem_append_left _ issued, same⟩
    · obtain rfl := List.mem_singleton.mp new
      obtain ⟨issuedAt, found⟩ := Option.isSome_iff_exists.mp drops.2.1
      exact ⟨_, List.mem_append_left _ (ledger.issued_of_open nonce issuedAt found), rfl⟩
  fate challenge member := by
    rw [issuedIn_concat, List.mem_append, Option.mem_toList] at member
    rcases member with old | new
    · exact (ledger.fate challenge old).step move fun issued told => fresh issued told challenge old
    · exact ledger.live_of_issued? move new (fresh challenge new)
  balance := ledger.balance_concat move fresh

end Ledger

/-! ## Phases -/

/-- What a challenge that was issued may be. -/
inductive Phase where
  | live
  | redeemed
  | swept
deriving DecidableEq

/--
The nonce of a challenge is open, or it was redeemed at least once, or a sweep has dropped it.
Nothing in the three excludes the others.
-/
def Phase.Holds
    (challenge : Challenge)
    (history : List (Entry Source))
    (challenges : OpenChallenges) :
    Phase → Prop
  | live => challenges.find? challenge.nonce ≠ none
  | redeemed => redemptionsOf challenge.nonce history ≠ []
  | swept => ∃ entry ∈ history, entry.Drops challenge.nonce

/-- A redemption and a sweep stay in the history. -/
theorem Phase.holds_append
    {challenge : Challenge}
    {later : List (Entry Source)}
    {challenges challengesLater : OpenChallenges}
    {phase : Phase}
    (left : phase ≠ .live)
    (holds : phase.Holds challenge history challenges) :
    phase.Holds challenge (history ++ later) challengesLater := by
  cases phase with
  | live => exact absurd rfl left
  | redeemed =>
      simp only [Holds, redemptionsOf_append] at holds ⊢
      exact List.append_ne_nil_of_left_ne_nil holds _
  | swept =>
      obtain ⟨entry, member, drops⟩ := holds
      exact ⟨entry, List.mem_append_left _ member, drops⟩

namespace Fate

variable {challenge : Challenge} {challenges : OpenChallenges}

/-- A fate is a phase, and rules out the others. -/
theorem existsUnique_phase (fate : Fate challenge history challenges) :
    ∃! phase : Phase, phase.Holds challenge history challenges := by
  cases fate with
  | live found unredeemed undropped =>
      refine ⟨.live, by simp [Phase.Holds, find?, found], ?_⟩
      rintro (_ | _ | _) holds
      · rfl
      · exact absurd unredeemed holds
      · obtain ⟨entry, member, drops⟩ := holds
        exact absurd drops (undropped entry member)
  | redeemed absent once undropped =>
      refine ⟨.redeemed, by simp [Phase.Holds, once], ?_⟩
      rintro (_ | _ | _) holds
      · simp [Phase.Holds, find?, absent] at holds
      · rfl
      · obtain ⟨entry, member, drops⟩ := holds
        exact absurd drops (undropped entry member)
  | swept absent unredeemed dropped =>
      refine ⟨.swept, dropped, ?_⟩
      rintro (_ | _ | _) holds
      · simp [Phase.Holds, find?, absent] at holds
      · exact absurd unredeemed holds
      · rfl

theorem find?_of_live
    (fate : Fate challenge history challenges)
    (live : Phase.live.Holds challenge history challenges) :
    challenges.find? challenge.nonce = some challenge := by
  cases fate with
  | live found unredeemed undropped => simp [find?, found]
  | redeemed absent once undropped => simp [Phase.Holds, find?, absent] at live
  | swept absent unredeemed dropped => simp [Phase.Holds, find?, absent] at live

theorem redemptionsOf_of_redeemed
    (fate : Fate challenge history challenges)
    (redeemed : Phase.redeemed.Holds challenge history challenges) :
    redemptionsOf challenge.nonce history = [challenge] := by
  cases fate with
  | live found unredeemed undropped => exact absurd unredeemed redeemed
  | redeemed absent once undropped => exact once
  | swept absent unredeemed dropped => exact absurd unredeemed redeemed

end Fate

/-! ## Runs -/

/-- No nonce was issued twice. -/
def DistinctIssues (history : List (Entry Source)) : Prop :=
  ((issuedIn history).map Challenge.nonce).Nodup

instance : Decidable (DistinctIssues history) :=
  inferInstanceAs (Decidable (List.Nodup _))

theorem DistinctIssues.of_append
    {later : List (Entry Source)}
    (distinct : DistinctIssues (history ++ later)) :
    DistinctIssues history := by
  simp only [DistinctIssues, issuedIn, List.filterMap_append, List.map_append] at distinct
  exact (List.nodup_append.mp distinct).1

theorem DistinctIssues.fresh_of_concat
    (distinct : DistinctIssues (history ++ [entry]))
    {issued : Challenge}
    (told : entry.issued? = some issued) :
    ∀ challenge ∈ issuedIn history, challenge.nonce ≠ issued.nonce := by
  simp only [DistinctIssues, issuedIn_concat, told, Option.toList_some, List.map_append,
    List.map_singleton] at distinct
  intro challenge member
  have apart := (List.nodup_append.mp distinct).2.2
  exact apart _ (List.mem_map_of_mem member) _ (List.mem_singleton_self _)

section

variable [RandomSource Source] (lifetime : Int) (source : Source) (calls : List Call)

/-- The entries that calls leave on a collection that is empty at first. -/
def historyOf : List (Entry Source) :=
  Trace.history answer ({ lifetime }, source) calls

/-- The collection that the calls lead to. -/
def stateAfter : OpenChallenges :=
  (Trace.run answer ({ lifetime }, source) calls).1

theorem historyOf_append (later : List Call) :
    ∃ rest, historyOf lifetime source (calls ++ later) = historyOf lifetime source calls ++ rest :=
  ⟨_, Trace.history_append answer _ calls later⟩

variable {lifetime source calls}

/-- As long as no nonce is issued twice, the collection is what its history tells. -/
theorem ledger_run (distinct : DistinctIssues (historyOf lifetime source calls)) :
    Ledger (historyOf lifetime source calls) (stateAfter lifetime source calls) := by
  revert distinct
  apply Trace.invariant
    (motive := fun history stocked => DistinctIssues history → Ledger history stocked.1)
  · intro distinct
    exact Ledger.nil lifetime
  · intro history stocked call ledger distinct
    exact (ledger distinct.of_append).step (move_entry stocked call) fun issued told =>
      distinct.fresh_of_concat told

variable (lifetime source calls) in
/--
Challenges are conserved by calls, and by others that follow them: each that was issued is in one
phase, does not leave it unless it is live, and is counted once.
-/
structure Conserved (later : List Call) : Prop where
  one_phase :
    ∀ challenge ∈ issuedIn (historyOf lifetime source calls),
      ∃! phase : Phase,
        phase.Holds challenge (historyOf lifetime source calls) (stateAfter lifetime source calls)
  live_unchanged :
    ∀ challenge ∈ issuedIn (historyOf lifetime source calls),
      Phase.live.Holds challenge (historyOf lifetime source calls)
          (stateAfter lifetime source calls) →
        (stateAfter lifetime source calls).find? challenge.nonce = some challenge
  redeemed_once :
    ∀ challenge ∈ issuedIn (historyOf lifetime source calls),
      Phase.redeemed.Holds challenge (historyOf lifetime source calls)
          (stateAfter lifetime source calls) →
        redemptionsOf challenge.nonce (historyOf lifetime source calls) = [challenge]
  final :
    ∀ challenge ∈ issuedIn (historyOf lifetime source calls), ∀ phase : Phase, phase ≠ .live →
      phase.Holds challenge (historyOf lifetime source calls)
          (stateAfter lifetime source calls) →
        ∀ other : Phase,
          other.Holds challenge (historyOf lifetime source (calls ++ later))
              (stateAfter lifetime source (calls ++ later)) ↔
            other = phase
  balance :
    (issuedIn (historyOf lifetime source calls)).length =
      (stateAfter lifetime source calls).size +
        (redeemedIn (historyOf lifetime source calls)).length +
        sweptIn (historyOf lifetime source calls)

theorem conserved
    {later : List Call}
    (distinct : DistinctIssues (historyOf lifetime source (calls ++ later))) :
    Conserved lifetime source calls later := by
  have ledgerLater := ledger_run distinct
  obtain ⟨rest, appended⟩ := historyOf_append lifetime source calls later
  rw [appended] at distinct ledgerLater
  have ledger := ledger_run distinct.of_append
  constructor
  case one_phase => exact fun challenge issued => (ledger.fate challenge issued).existsUnique_phase
  case live_unchanged => exact fun challenge issued => (ledger.fate challenge issued).find?_of_live
  case redeemed_once =>
    exact fun challenge issued => (ledger.fate challenge issued).redemptionsOf_of_redeemed
  case final =>
    intro challenge issued phase left holds other
    have issuedLater : challenge ∈ issuedIn (historyOf lifetime source calls ++ rest) := by
      rw [issuedIn, List.filterMap_append]
      exact List.mem_append_left _ issued
    have onePhase := (ledgerLater.fate challenge issuedLater).existsUnique_phase
    have stays :
        phase.Holds challenge (historyOf lifetime source calls ++ rest)
          (stateAfter lifetime source (calls ++ later)) :=
      Phase.holds_append left holds
    rw [appended]
    constructor
    · intro holdsLater
      exact onePhase.unique holdsLater stays
    · rintro rfl
      exact stays
  case balance => exact ledger.balance

end

end WorkGate.OpenChallenges
