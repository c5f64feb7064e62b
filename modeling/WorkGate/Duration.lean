/-!
# Durations and their conversion to machine words

A duration is an exact number of nanoseconds, at most `2 ^ 64 - 1` seconds and a fraction.
Timestamps are milliseconds; they are compared as integers.

Where a duration or a quotient of durations is turned into a 64-bit count or timestamp, the low 64
bits are kept.  `low64` and `low64Signed` say so by name, so that the places where a large value
loses its high bits can be found.
-/

namespace WorkGate

/-- The low 64 bits of a number. -/
def low64 (value : Nat) : Nat :=
  value % 0x10000000000000000

/-- The low 64 bits of a number, read as a signed word. -/
def low64Signed (value : Int) : Int :=
  Int.bmod value 0x10000000000000000

theorem low64_eq_self
    {value : Nat}
    (small : value < 0x10000000000000000) :
    low64 value = value :=
  Nat.mod_eq_of_lt small

theorem low64_lt (value : Nat) : low64 value < 0x10000000000000000 :=
  Nat.mod_lt _ (by decide)

theorem low64Signed_eq_self
    {value : Int}
    (lower : -0x8000000000000000 ≤ value)
    (upper : value < 0x8000000000000000) :
    low64Signed value = value := by
  simp only [low64Signed, Int.bmod]
  split <;> omega

/-- A span of time in nanoseconds. -/
structure Duration where
  /-- The number of nanoseconds. -/
  nanos : Nat
  nanos_lt : nanos < 0x10000000000000000 * 1000000000
deriving DecidableEq

namespace Duration

/-- Whole seconds and a fraction in nanoseconds. -/
def ofParts (seconds : UInt64) (fraction : Fin 1000000000) : Duration where
  nanos := seconds.toNat * 1000000000 + fraction
  nanos_lt := by
    have secondsSmall := seconds.toNat_lt
    have fractionSmall := fraction.isLt
    omega

def ofSeconds (seconds : UInt64) : Duration :=
  ofParts seconds 0

def ofMillis (millis : UInt64) : Duration where
  nanos := millis.toNat * 1000000
  nanos_lt := by
    have millisSmall := millis.toNat_lt
    omega

def millis (duration : Duration) : Nat :=
  duration.nanos / 1000000

def seconds (duration : Duration) : Nat :=
  duration.nanos / 1000000000

/-- The duration divided by a whole number, rounded down to a nanosecond. -/
def divided (duration : Duration) (parts : Nat) : Duration where
  nanos := duration.nanos / parts
  nanos_lt := Nat.lt_of_le_of_lt (Nat.div_le_self _ _) duration.nanos_lt

def IsZero (duration : Duration) : Prop :=
  duration.nanos = 0

instance (duration : Duration) : Decidable duration.IsZero :=
  inferInstanceAs (Decidable (duration.nanos = 0))

@[simp]
theorem nanos_ofMillis (millis : UInt64) : (ofMillis millis).nanos = millis.toNat * 1000000 :=
  rfl

@[simp]
theorem millis_ofMillis (count : UInt64) : (ofMillis count).millis = count.toNat := by
  simp [millis]

@[simp]
theorem nanos_divided (duration : Duration) (parts : Nat) :
    (duration.divided parts).nanos = duration.nanos / parts :=
  rfl

end Duration

end WorkGate
