import Mathlib.Data.List.Induction
import WorkGate.Gatekeeper
import WorkGate.Proofs.Since

/-!
# Sessions with a gatekeeper

A session is a gatekeeper with a clock and a random source, together with the history of what has
been done to it.  Any operation may follow any other, and the clock may be set to any reading in
between.  Each operation leaves one entry in the history: the clock reading it was performed at and
what it answered.

The history alone determines what the gatekeeper has to answer; the predicates on entries below
are what such statements are made of.
-/

namespace WorkGate.Gatekeeper

/-- What can be done to a gatekeeper and to its clock. -/
inductive Action where
  | issue
  | verify (submission : Submission)
  | sweep
  | evaluate
  | recordSolves (count : Nat)
  | setClock (reading : Int)
deriving DecidableEq

/-- What was done, with the answer it got. -/
inductive Deed where
  | issued (ticket : Ticket)
  | verified (submission : Submission) (verdict : Except WorkError Unit)
  | swept (swept : Swept)
  | evaluated (adjustment : Difficulty.Adjustment)
  | recorded (count : Nat)

/-- One line of a history: a deed and the clock reading at which it was done. -/
structure Entry where
  now : Int
  deed : Deed

namespace Entry

def Issues (nonce : String) (entry : Entry) : Prop :=
  match entry.deed with
  | .issued ticket => ticket.challengeNonce = nonce
  | _ => False

/-- The entry accepts a submission for this challenge. -/
def Redeems (nonce : String) (entry : Entry) : Prop :=
  match entry.deed with
  | .verified submission (.ok ()) => submission.challengeNonce = nonce
  | _ => False

/-- The entry accepts a submission whose response nonce has this upper-case spelling. -/
def Spends (key : String) (entry : Entry) : Prop :=
  match entry.deed with
  | .verified submission (.ok ()) => Nonce.fold submission.responseNonce = key
  | _ => False

def Sweeps (entry : Entry) : Prop :=
  match entry.deed with
  | .swept _ => True
  | _ => False

/-- The entry is a sweep more than a lifetime after a moment. -/
def Outdates (lifetime moment : Int) (entry : Entry) : Prop :=
  entry.Sweeps ∧ lifetime < entry.now - moment

/-- The entry neither opens nor closes nor sweeps anything. -/
def IsSilent (entry : Entry) : Prop :=
  match entry.deed with
  | .issued _ => False
  | .verified _ (.ok ()) => False
  | .verified _ (.error _) => True
  | .swept _ => False
  | .evaluated _ => True
  | .recorded _ => True

/-- The ceiling in force after the entry. -/
def revise (ceiling : HashValue) (entry : Entry) : HashValue :=
  match entry.deed with
  | .evaluated adjustment => adjustment.current
  | _ => ceiling

variable {entry : Entry}

theorem redeems_iff {nonce : String} :
    entry.Redeems nonce ↔
      ∃ submission,
        entry.deed = .verified submission (.ok ()) ∧ submission.challengeNonce = nonce := by
  unfold Redeems
  split <;> simp_all

theorem spends_iff {key : String} :
    entry.Spends key ↔
      ∃ submission,
        entry.deed = .verified submission (.ok ()) ∧
          Nonce.fold submission.responseNonce = key := by
  unfold Spends
  split <;> simp_all

theorem IsSilent.inert (silent : entry.IsSilent) :
    (∀ nonce, ¬ entry.Issues nonce) ∧ (∀ nonce, ¬ entry.Redeems nonce) ∧
      (∀ key, ¬ entry.Spends key) ∧ ¬ entry.Sweeps := by
  obtain ⟨now, deed⟩ := entry
  cases deed with
  | issued ticket => exact silent.elim
  | verified submission verdict =>
      cases verdict with
      | ok _ => exact silent.elim
      | error refusal => exact ⟨fun _ => id, fun _ => id, fun _ => id, id⟩
  | swept swept => exact silent.elim
  | evaluated adjustment => exact ⟨fun _ => id, fun _ => id, fun _ => id, id⟩
  | recorded count => exact ⟨fun _ => id, fun _ => id, fun _ => id, id⟩

end Entry

/-- The ceiling in force after a history: that of the last revision, or else the first one. -/
def ceilingAfter (first : HashValue) (history : List Entry) : HashValue :=
  history.foldl Entry.revise first

@[simp]
theorem ceilingAfter_concat (first : HashValue) (history : List Entry) (entry : Entry) :
    ceilingAfter first (history ++ [entry]) = entry.revise (ceilingAfter first history) := by
  simp [ceilingAfter]

/-- A gatekeeper with its clock, its random source and its history, the earliest entry first. -/
structure Session (Source : Type) where
  keeper : Gatekeeper
  reading : Int
  source : Source
  history : List Entry := []

namespace Session

variable {Source : Type} [RandomSource Source]

/-- The history with one more deed at the present clock reading. -/
def note (deed : Deed) (session : Session Source) : List Entry :=
  session.history ++ [{ now := session.reading, deed }]

def step (session : Session Source) : Action → Session Source
  | .issue =>
      let (ticket, keeper, source) := session.keeper.issue session.reading session.source
      { session with keeper, source, history := session.note (.issued ticket) }
  | .verify submission =>
      let verdict := session.keeper.verify submission session.reading
      { session with
        keeper :=
          match verdict with
          | .ok keeper => keeper
          | .error _ => session.keeper
        history := session.note (.verified submission (verdict.map fun _ => ())) }
  | .sweep =>
      let (swept, keeper) := session.keeper.sweep session.reading
      { session with keeper, history := session.note (.swept swept) }
  | .evaluate =>
      let (adjustment, keeper) := session.keeper.evaluate session.reading
      { session with keeper, history := session.note (.evaluated adjustment) }
  | .recordSolves count =>
      { session with
        keeper := session.keeper.recordSolves session.reading count
        history := session.note (.recorded count) }
  | .setClock reading => { session with reading }

def run (session : Session Source) (actions : List Action) : Session Source :=
  actions.foldl step session

/-- The clock has not gone back behind a reading of the history. -/
def OnTime (session : Session Source) : Prop :=
  ∀ entry ∈ session.history, entry.now ≤ session.reading

@[simp]
theorem run_nil (session : Session Source) : session.run [] = session :=
  rfl

theorem run_cons (session : Session Source) (action : Action) (actions : List Action) :
    session.run (action :: actions) = (session.step action).run actions :=
  rfl

@[simp]
theorem run_concat (session : Session Source) (actions : List Action) (action : Action) :
    session.run (actions ++ [action]) = (session.run actions).step action := by
  simp [run]

theorem step_verify_of_eq_ok
    {session : Session Source}
    {submission : Submission}
    {accepted : Gatekeeper}
    (passed : session.keeper.verify submission session.reading = .ok accepted) :
    session.step (.verify submission) =
      { session with
        keeper := accepted
        history := session.note (.verified submission (.ok ())) } := by
  simp [step, passed, Except.map]

/-- An action leaves at most one entry, at the clock reading it is performed at. -/
theorem history_step (session : Session Source) (action : Action) :
    (session.step action).history = session.history ∨
      ∃ deed, (session.step action).history = session.note deed := by
  cases action with
  | setClock reading => exact Or.inl rfl
  | issue => exact Or.inr ⟨_, rfl⟩
  | verify submission => exact Or.inr ⟨_, rfl⟩
  | sweep => exact Or.inr ⟨_, rfl⟩
  | evaluate => exact Or.inr ⟨_, rfl⟩
  | recordSolves count => exact Or.inr ⟨_, rfl⟩

/-- Every entry was left by an action that found exactly the entries before it. -/
theorem exists_action_of_history_run
    {session : Session Source}
    (fresh : session.history = [])
    {actions : List Action}
    {earlier later : List Entry}
    {entry : Entry}
    (split : (session.run actions).history = earlier ++ entry :: later) :
    ∃ before action after,
      actions = before ++ action :: after ∧
        (session.run before).history = earlier ∧
          (session.run before).reading = entry.now ∧
            ((session.run before).step action).history = earlier ++ [entry] := by
  induction actions using List.reverseRecOn generalizing later with
  | nil => simp [fresh] at split
  | append_singleton actions last induction =>
      rw [run_concat] at split
      rcases (session.run actions).history_step last with silent | ⟨deed, noted⟩
      · rw [silent] at split
        obtain ⟨before, action, after, rfl, found⟩ := induction split
        exact ⟨before, action, after ++ [last], by simp, found⟩
      · have appended := split
        rw [noted, note] at split
        rcases concat_eq_append_cons_iff.mp split with
          ⟨rfl, same, sameEntry⟩ | ⟨between, rfl, shorter⟩
        · exact ⟨actions, last, [], rfl, same, by rw [← sameEntry], appended⟩
        · obtain ⟨before, action, after, rfl, found⟩ := induction shorter
          exact ⟨before, action, after ++ [last], by simp, found⟩

end Session

end WorkGate.Gatekeeper
