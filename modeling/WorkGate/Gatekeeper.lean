import WorkGate.Agenda
import WorkGate.Difficulty
import WorkGate.OpenChallenges
import WorkGate.SpentNonces
import WorkGate.Work

/-!
# The gatekeeper

The gatekeeper issues challenges, verifies submissions against the ceiling in force, revises the
ceiling, and sweeps what has expired.  It is a value: every operation takes the clock reading it is
performed at and returns what it answers together with the gatekeeper after it.

A submission passes if its response nonce is well formed and unspent, its challenge is open and
fresh, and its digest is within the ceiling; the first of these that fails is the refusal.  A
refused submission changes nothing, so `verify` returns a new gatekeeper only on success.  Solves
are counted by whoever accepts the submission, not by the verification itself.

Two background chores, the evaluation of the difficulty and the expiry sweep, run as periodic tasks
while the gatekeeper is attended.
-/

namespace WorkGate

/-- A challenge handed to a client, with the ceiling in force at that moment. -/
structure Ticket where
  challengeNonce : String
  ceiling : HashValue
deriving DecidableEq

/-- An attempt to prove work. -/
structure Submission where
  challengeNonce : String
  responseNonce : String
  bound : Option Bytes
deriving DecidableEq

inductive Chore where
  | evaluation
  | sweep
deriving DecidableEq

/-- The name under which a chore is reported. -/
def Chore.name : Chore → String
  | evaluation => "pow-difficulty-evaluation"
  | sweep => "pow-expiry-sweep"

/-- Everything the proof-of-work service remembers. -/
structure Gatekeeper where
  policy : Policy
  difficulty : Difficulty
  challenges : OpenChallenges
  spent : SpentNonces
  tasks : Agenda Chore

namespace Difficulty.Adjustment

def event (desired : Nat) : Adjustment → Event
  | tightened previous current rate => .difficultyIncreased rate desired previous current
  | loosened previous current rate => .difficultyDecreased rate previous current
  | unchanged _ rate => .difficultyAtInitial rate

end Difficulty.Adjustment

namespace Ticket

def event (ticket : Ticket) : Event :=
  .challengeIssued ticket.challengeNonce ticket.ceiling

end Ticket

namespace Submission

/-- The verdict on the work of a submission, whatever else is wrong with it. -/
def work (ceiling : HashValue) (submission : Submission) : Except WorkError Unit :=
  Work.check submission.challengeNonce submission.responseNonce submission.bound ceiling

def event {Result : Type} (submission : Submission) : Except WorkError Result → Event
  | .ok _ => .workAccepted submission.challengeNonce
  | .error refusal => .workRefused submission.challengeNonce refusal

end Submission

namespace Gatekeeper

/-- A gatekeeper without challenges, for a policy that passes both checks. -/
def create (policy : Policy) : Except WorkError Gatekeeper :=
  match policy.validate with
  | .error fault => .error fault.toWorkError
  | .ok () =>
      match Difficulty.ofPolicy policy with
      | .error fault => .error fault.toWorkError
      | .ok difficulty =>
          .ok
            { policy
              difficulty
              challenges := { lifetime := policy.lifetimeMillis }
              spent := { retention := policy.lifetimeMillis }
              tasks := [] }

def ceiling (keeper : Gatekeeper) : HashValue :=
  keeper.difficulty.ceiling

def issue
    {Source : Type} [RandomSource Source]
    (now : Int)
    (keeper : Gatekeeper)
    (source : Source) :
    Ticket × Gatekeeper × Source :=
  let (challenge, challenges, rest) := keeper.challenges.issue now source
  ({ challengeNonce := challenge.nonce, ceiling := keeper.ceiling },
    { keeper with challenges }, rest)

/-- Spends the response nonce and redeems the challenge of a submission that passes every check. -/
def verify
    (submission : Submission)
    (now : Int)
    (keeper : Gatekeeper) :
    Except WorkError Gatekeeper :=
  let redeem := fun () =>
    keeper.challenges.redeem submission.challengeNonce now fun _ =>
      submission.work keeper.ceiling
  match keeper.spent.spendWith submission.responseNonce now redeem with
  | .error refusal => .error refusal
  | .ok ((_, challenges), spent) => .ok { keeper with challenges, spent }

def recordSolves (now : Int) (count : Nat) (keeper : Gatekeeper) : Gatekeeper :=
  { keeper with difficulty := keeper.difficulty.record now count }

def evaluate (now : Int) (keeper : Gatekeeper) : Difficulty.Adjustment × Gatekeeper :=
  let (adjustment, difficulty) := keeper.difficulty.evaluate now
  (adjustment, { keeper with difficulty })

def adjustmentEvent (adjustment : Difficulty.Adjustment) (keeper : Gatekeeper) : Event :=
  adjustment.event keeper.difficulty.law.desired.toNat

structure Swept where
  challenges : Nat
  nonces : Nat
deriving DecidableEq

def Swept.event (swept : Swept) : Event :=
  .expiredSwept swept.challenges swept.nonces

/-- Drops the expired challenges, then the response nonces past their retention. -/
def sweep (now : Int) (keeper : Gatekeeper) : Swept × Gatekeeper :=
  let (challengesDropped, challenges) := keeper.challenges.sweep now
  let (noncesDropped, spent) := keeper.spent.sweep now
  ({ challenges := challengesDropped, nonces := noncesDropped },
    { keeper with challenges, spent })

/-! ## Background tasks -/

def isRunning (keeper : Gatekeeper) : Bool :=
  ¬ keeper.tasks.isEmpty

/-- Starts both background tasks, unless they run already. -/
def start (timer : Timer) (elapsed : Nat) (keeper : Gatekeeper) : List Event × Gatekeeper :=
  if keeper.isRunning then ([.alreadyRunning], keeper)
  else
    let task := fun chore period => PeriodicTask.start timer chore chore.name period elapsed none
    let tasks :=
      [task Chore.evaluation keeper.policy.evaluationInterval,
       task Chore.sweep keeper.policy.sweepInterval]
    (tasks.map fun task => .taskStarted task.name task.period, { keeper with tasks })

/-- The order in which tasks were started: the evaluation before the sweep. -/
def startOrder (tasks : Agenda Chore) : Agenda Chore :=
  tasks.filter (·.job = .evaluation) ++ tasks.filter (·.job = .sweep)

/-- Stops the background tasks, one after the other. -/
def stop (keeper : Gatekeeper) : List Event × Gatekeeper :=
  let report := fun task : PeriodicTask Chore => [.stoppingTask task.name, task.stopReport]
  ((startOrder keeper.tasks).flatMap report, { keeper with tasks := [] })

def perform (chore : Chore) (now : Int) (keeper : Gatekeeper) : Event × Gatekeeper :=
  match chore with
  | .evaluation =>
      let (adjustment, after) := keeper.evaluate now
      (keeper.adjustmentEvent adjustment, after)
  | .sweep =>
      let (swept, after) := keeper.sweep now
      (swept.event, after)

/--
Performs the chores that come due until `elapsed` milliseconds have passed.  Each is performed at
the clock reading `reading` gives for the milliseconds passed by then.
-/
def attend
    (reading : Nat → Int)
    (elapsed : Nat)
    (keeper : Gatekeeper) :
    List Event × Gatekeeper :=
  let (runs, tasks) := keeper.tasks.advance elapsed
  let (events, after) :=
    runs.foldl
      (fun (events, keeper) run =>
        let (event, after) := keeper.perform run.job (reading run.elapsed)
        (event :: events, after))
      ([], keeper)
  (events.reverse, { after with tasks })

end Gatekeeper

end WorkGate
