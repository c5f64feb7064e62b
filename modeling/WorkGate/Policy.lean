import WorkGate.Duration
import WorkGate.HashValue
import WorkGate.WorkError

/-!
# The proof-of-work policy

A policy fixes how long challenges live, how often the difficulty is evaluated, over which window
solves are counted, how long a full recovery takes, how many solves per minute are wanted, and how
high the ceiling may rise.  `Policy.validate` refuses a policy that names a zero where none makes
sense; the first fault in the order below is reported.

The derived counts divide durations and keep 64 bits of the quotient.  Evaluations per minute are
counted in whole milliseconds of the interval, recovery ticks in nanoseconds.
-/

namespace WorkGate

/-- Why a policy is refused. -/
inductive PolicyFault where
  | zeroCeiling
  | zeroRate
  | zeroDuration
  /-- A quarter of the challenge lifetime is less than a nanosecond. -/
  | lifetimeTooShort
  | nonpositiveTiming
deriving DecidableEq

namespace PolicyFault

def reason : PolicyFault → String
  | zeroCeiling => "initial maximum allowed hash value must be at least 1"
  | zeroRate => "desired solve rate per minute must be at least 1"
  | zeroDuration => "durations must be non-zero"
  | lifetimeTooShort => "challenge TTL too short for an expiry sweep period"
  | nonpositiveTiming =>
      "evaluation frequency, recovery period and solve window must be positive"

def toWorkError (fault : PolicyFault) : WorkError :=
  .invalidPolicy fault.reason

end PolicyFault

/-- The parameters of the proof-of-work service. -/
structure Policy where
  challengeLifetime : Duration := .ofSeconds 300
  evaluationInterval : Duration := .ofSeconds 10
  /-- The window over which solves are counted. -/
  solveWindow : Duration := .ofSeconds 60
  recoveryPeriod : Duration := .ofSeconds 600
  desiredRate : UInt64 := 10
  /-- The highest ceiling, which is also the first. -/
  initialCeiling : HashValue := .leadingZeros 8
deriving DecidableEq

namespace Policy

/-- The policy with a highest ceiling read from its digits. -/
def withCeilingHex (policy : Policy) (text : String) : Except WorkError Policy :=
  match HashValue.ofHex? text with
  | some ceiling => .ok { policy with initialCeiling := ceiling }
  | none => .error (.invalidHashValue text)

/-- The period of the expiry sweep: a quarter of the challenge lifetime. -/
def sweepInterval (policy : Policy) : Duration :=
  policy.challengeLifetime.divided 4

/-- Evaluations in one minute, at least one. -/
def evaluationsPerMinute (policy : Policy) : UInt64 :=
  .ofNat (max 1 (low64 (60000 / max 1 policy.evaluationInterval.millis)))

/-- Evaluations in one recovery period, at least one. -/
def recoveryTicks (policy : Policy) : UInt64 :=
  .ofNat (max 1 (low64 (policy.recoveryPeriod.nanos / max 1 policy.evaluationInterval.nanos)))

/-- The challenge lifetime as a signed count of milliseconds. -/
def lifetimeMillis (policy : Policy) : Int :=
  low64Signed policy.challengeLifetime.millis

/-- The solve window as a signed count of milliseconds. -/
def windowMillis (policy : Policy) : Int :=
  low64Signed policy.solveWindow.millis

/-- Refuses a policy with a zero ceiling, rate or duration, or too short a lifetime. -/
def validate (policy : Policy) : Except PolicyFault Unit :=
  if policy.initialCeiling.toNat = 0 then .error .zeroCeiling
  else if policy.desiredRate = 0 then .error .zeroRate
  else if policy.challengeLifetime.IsZero ∨ policy.evaluationInterval.IsZero ∨
      policy.solveWindow.IsZero ∨ policy.recoveryPeriod.IsZero then
    .error .zeroDuration
  else if policy.sweepInterval.IsZero then .error .lifetimeTooShort
  else .ok ()

end Policy

end WorkGate
