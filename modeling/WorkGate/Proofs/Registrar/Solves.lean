import WorkGate.Proofs.Registrar.Session
import WorkGate.Proofs.Since

/-!
# The rate that an evaluation reports

The solves that are held are those of the admitted requests that no evaluation has found outside
the window: a solve that was outside it once is not counted again, whatever the clock reads later.
The rate that an evaluation reports is therefore a count over the history before it.  While the
clock does not run back, it is the number of admitted requests in the window.
-/

namespace WorkGate.Registrar

variable {window : Int} {history earlier : List Entry} {entry tick : Entry}

namespace Entry

/-- The entry is not an evaluation that finds a solve of this time outside the window. -/
def Spares (window solved : Int) (entry : Entry) : Prop :=
  entry.Evaluates → entry.now - solved ≤ window

instance (window solved : Int) (entry : Entry) : Decidable (entry.Spares window solved) :=
  inferInstanceAs (Decidable (_ → _))

theorem Registers.admits
    {data : RegistrationData}
    (registers : entry.Registers data) :
    entry.Admits := by
  rw [Registers] at registers
  simp [Admits, registers]

/-- An evaluation admits nothing. -/
theorem Evaluates.not_admits (evaluates : entry.Evaluates) : ¬ entry.Admits := by
  obtain ⟨now, deed⟩ := entry
  cases deed with
  | evaluated adjustment => simp [Admits, admission?]
  | answered request response => cases evaluates
  | issued ticket => cases evaluates
  | registered request outcome => cases evaluates
  | termsUpdated terms => cases evaluates
  | swept swept => cases evaluates
  | clockSet reading => cases evaluates
  | outage reads writes => cases evaluates

end Entry

/-- The entries that admit a request, if no later evaluation finds its solve outside the window. -/
def lasting (window : Int) : List Entry → List Entry
  | [] => []
  | entry :: later =>
      if entry.Admits ∧ ∀ next ∈ later, next.Spares window entry.now then
        entry :: lasting window later
      else lasting window later

/-- One more entry drops what it finds outside the window and adds what it admits. -/
theorem lasting_concat :
    lasting window (history ++ [entry]) =
      (lasting window history).filter (fun solved => entry.Spares window solved.now) ++
        if entry.Admits then [entry] else [] := by
  induction history with
  | nil => by_cases admits : entry.Admits <;> simp [lasting, admits]
  | cons first later induction =>
      have spared_iff :
          (∀ next ∈ later ++ [entry], next.Spares window first.now) ↔
            (∀ next ∈ later, next.Spares window first.now) ∧ entry.Spares window first.now := by
        simp only [List.forall_mem_append, List.forall_mem_singleton]
      simp only [List.cons_append, lasting, induction, spared_iff]
      by_cases counts : first.Admits ∧ ∀ next ∈ later, next.Spares window first.now
      · rw [if_pos counts]
        by_cases spared : entry.Spares window first.now
        · rw [if_pos ⟨counts.1, counts.2, spared⟩, List.filter_cons_of_pos (by simpa using spared),
            List.cons_append]
        · rw [if_neg fun held => spared held.2.2, List.filter_cons_of_neg (by simpa using spared)]
      · rw [if_neg counts, if_neg fun held => counts ⟨held.1, held.2.1⟩]

/-- Only admitted requests count, and each of them at most once. -/
theorem lasting_sublist : (lasting window history).Sublist (history.filter (·.Admits)) := by
  induction history with
  | nil => exact List.Sublist.refl _
  | cons entry later induction =>
      by_cases admits : entry.Admits
      · rw [List.filter_cons_of_pos (by simpa using admits), lasting]
        split
        · exact induction.cons_cons entry
        · exact induction.cons entry
      · rw [List.filter_cons_of_neg (by simpa using admits), lasting,
          if_neg fun counts => admits counts.1]
        exact induction

/-- An evaluation counts what lasts before it and is in the window at its own reading. -/
theorem lasting_concat_of_evaluates (evaluates : tick.Evaluates) :
    lasting window (earlier ++ [tick]) =
      (lasting window earlier).filter fun solved => tick.now - solved.now ≤ window := by
  rw [lasting_concat, if_neg evaluates.not_admits, List.append_nil]
  apply List.filter_congr
  intro solved _
  simp [Entry.Spares, evaluates]

/-- What is in the window at the latest reading was in it at every evaluation before. -/
theorem filter_lasting_of_latest {latest : Int} (ordered : ∀ entry ∈ earlier, entry.now ≤ latest) :
    ((lasting window earlier).filter fun solved => latest - solved.now ≤ window) =
      earlier.filter fun entry => entry.Admits ∧ latest - entry.now ≤ window := by
  induction earlier with
  | nil => rfl
  | cons entry later induction =>
      obtain ⟨-, laterOrdered⟩ := List.forall_mem_cons.mp ordered
      have spared :
          latest - entry.now ≤ window → ∀ next ∈ later, next.Spares window entry.now := by
        intro young next member _
        have before := laterOrdered next member
        omega
      rw [lasting]
      by_cases counts : entry.Admits ∧ latest - entry.now ≤ window
      · rw [if_pos ⟨counts.1, spared counts.2⟩,
          List.filter_cons_of_pos (by simpa using counts.2),
          List.filter_cons_of_pos (by simpa using counts), induction laterOrdered]
      · rw [List.filter_cons_of_neg (by simpa using counts), ← induction laterOrdered]
        split
        · next lasts =>
            rw [List.filter_cons_of_neg (by simpa using fun young => counts ⟨lasts.1, young⟩)]
        · rfl

/-- The solves that are held, and the rates that were reported, are counts over the history. -/
structure Counts (window : Int) (history : List Entry) (registrar : Registrar) : Prop where
  window_eq : registrar.gatekeeper.difficulty.law.window = window
  solves_eq :
    registrar.gatekeeper.difficulty.solves = ((lasting window history).map Entry.now).reverse
  rate_eq :
    ∀ earlier tick later adjustment,
      history = earlier ++ tick :: later → tick.adjustment? = some adjustment →
        adjustment.rate = (lasting window (earlier ++ [tick])).length

namespace Counts

variable {before after : Registrar}

theorem of_create
    {policy : Policy}
    {terms : Option Terms}
    {store : TenantStore}
    {registrar : Registrar}
    (created : create policy terms store = .ok registrar) :
    Counts policy.windowMillis [] registrar := by
  obtain ⟨gatekeeper, made, rfl⟩ := exists_gatekeeper_of_create created
  obtain ⟨law, lawful, rfl⟩ := Gatekeeper.exists_law_of_create made
  refine ⟨Difficulty.Law.window_ofPolicy lawful, rfl, ?_⟩
  intro earlier tick later adjustment split
  simp at split

/-- The solves after one more entry. -/
theorem solves_concat
    (counts : Counts window history before)
    (explains : entry.Explains before after) :
    after.gatekeeper.difficulty.solves =
      ((lasting window (history ++ [entry])).map Entry.now).reverse := by
  rw [explains.solves_eq, counts.window_eq, counts.solves_eq, Entry.solves]
  by_cases evaluates : entry.Evaluates
  · rw [if_pos evaluates, lasting_concat_of_evaluates evaluates, List.filter_reverse,
      List.filter_map]
    rfl
  · have spared (solved : Entry) : entry.Spares window solved.now :=
      fun evaluated => absurd evaluated evaluates
    rw [if_neg evaluates, lasting_concat]
    by_cases admits : entry.Admits <;> simp [admits, spared]

theorem concat
    (counts : Counts window history before)
    (explains : entry.Explains before after) :
    Counts window (history ++ [entry]) after := by
  have solves_eq := counts.solves_concat explains
  refine ⟨by rw [explains.law_eq, counts.window_eq], solves_eq, ?_⟩
  intro earlier tick later adjustment split reported
  rcases concat_eq_append_cons_iff.mp split with
    ⟨-, rfl, rfl⟩ | ⟨between, -, older⟩
  · rw [explains.rate_eq adjustment reported, solves_eq, List.length_reverse, List.length_map]
  · exact counts.rate_eq earlier tick between adjustment older reported

end Counts

namespace Session

variable {Source : Type} [RandomSource Source]

theorem counts_run
    {policy : Policy}
    {terms : Option Terms}
    {store : TenantStore}
    {registrar : Registrar}
    (created : create policy terms store = .ok registrar)
    (reading : Int)
    (source : Source)
    (actions : List Action) :
    let start : Session Source := { registrar, reading, source }
    Counts policy.windowMillis (start.history actions) (start.run actions).registrar := by
  apply run_induction (motive := Counts policy.windowMillis) (Counts.of_create created)
  intro history entry before after counts explains
  exact counts.concat explains

/--
The rate of an evaluation is the number of admitted requests before it that neither it nor an
earlier evaluation found outside the window.  If no reading before is later than its own, these are
the admitted requests in the window.
-/
theorem rate_of_history
    {policy : Policy}
    {terms : Option Terms}
    {store : TenantStore}
    {registrar : Registrar}
    (created : create policy terms store = .ok registrar)
    (reading : Int)
    (source : Source)
    (actions : List Action)
    {earlier later : List Entry}
    {tick : Entry}
    {adjustment : Difficulty.Adjustment}
    (split : Session.history { registrar, reading, source } actions = earlier ++ tick :: later)
    (reported : tick.adjustment? = some adjustment) :
    let counted := lasting policy.windowMillis (earlier ++ [tick])
    adjustment.rate = counted.length ∧
      counted.Sublist (earlier.filter (·.Admits)) ∧
        ((∀ entry ∈ earlier, entry.now ≤ tick.now) →
          adjustment.rate =
            earlier.countP fun entry =>
              entry.Admits ∧ tick.now - entry.now ≤ policy.windowMillis) := by
  intro counted
  have counts := counts_run created reading source actions
  have rate_eq : adjustment.rate = counted.length :=
    counts.rate_eq earlier tick later adjustment split reported
  have evaluates : tick.Evaluates := Option.isSome_iff_exists.mpr ⟨adjustment, reported⟩
  have counted_eq : counted = _ := lasting_concat_of_evaluates evaluates
  refine ⟨rate_eq, ?_, ?_⟩
  · rw [counted_eq]
    exact List.filter_sublist.trans lasting_sublist
  · intro ordered
    rw [rate_eq, counted_eq, filter_lasting_of_latest ordered, List.countP_eq_length_filter]

/-- A request that is admitted is counted by the next evaluation. -/
theorem rate_evaluate_of_zeroRequest :
    let registered := askedSession.step (.register zeroRequest)
    (registered.entry .evaluate).adjustment?.map Difficulty.Adjustment.rate = some 1 := by
  intro registered
  have split :
      openSession.history [.issue, .register zeroRequest, .evaluate] =
        [openSession.entry .issue, askedSession.entry (.register zeroRequest)] ++
          registered.entry .evaluate :: [] :=
    rfl
  have askedReading : askedSession.reading = openSession.reading :=
    reading_step_of_ne (by simp)
  have registeredReading : registered.reading = openSession.reading :=
    (reading_step_of_ne (by simp)).trans askedReading
  have issueNow := now_entry openSession .issue
  have admittedNow := (now_entry askedSession (.register zeroRequest)).trans askedReading
  have tickNow := (now_entry registered .evaluate).trans registeredReading
  have idle := not_admits_issue openSession
  have admits : (askedSession.entry (.register zeroRequest)).Admits :=
    (registers_of_admissible admissible_zeroRequest rfl).admits
  have windowed : (0 : Int) ≤ Gatekeeper.Session.openPolicy.windowMillis := by decide +kernel
  have rate :=
    (rate_of_history create_openPolicy openSession.reading openSession.source _ split
      (adjustment?_evaluate registered)).2.2 (by simp [issueNow, admittedNow, tickNow])
  rw [List.countP_cons_of_neg (by simp [idle]),
    List.countP_cons_of_pos (by simp [admits, admittedNow, tickNow, windowed]),
    List.countP_nil] at rate
  rw [adjustment?_evaluate, Option.map_some, rate]

end Session

end WorkGate.Registrar
