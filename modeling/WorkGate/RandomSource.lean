import WorkGate.Bytes

/-!
# Sources of random bytes

A random source hands out one byte at a time and is replaced by its successor.  Everything that
draws randomness is written against the class, so statements about it hold for every source.

`Entropy` is the source that a deployment runs on: a queue of bytes that are handed out first, and
a 64-bit mixing generator that refills the queue with eight bytes whenever it is empty.
-/

namespace WorkGate

/-- A type whose values hand out bytes. -/
class RandomSource (Source : Type) where
  nextByte : Source → UInt8 × Source

namespace RandomSource

variable {Source : Type} [RandomSource Source]

/-- Draws `count` bytes, in the order they are handed out. -/
def draw (count : Nat) (source : Source) : Bytes × Source :=
  go count [] source
where
  /-- Draws `count` further bytes after those already drawn, latest first. -/
  go : (count : Nat) → (drawn : Bytes) → Source → Bytes × Source
    | 0, drawn, source => (drawn.reverse, source)
    | count + 1, drawn, source =>
        let (byte, rest) := nextByte source
        go count (byte :: drawn) rest

@[simp]
theorem draw_zero (source : Source) : draw 0 source = ([], source) :=
  rfl

theorem draw.go_eq
    (count : Nat)
    (drawn : Bytes)
    (source : Source) :
    draw.go count drawn source =
      (drawn.reverse ++ (draw count source).1, (draw count source).2) := by
  induction count generalizing drawn source with
  | zero => simp [draw.go]
  | succ count induction =>
      simp only [draw, draw.go]
      rw [induction, induction [_]]
      simp

theorem draw_succ (count : Nat) (source : Source) :
    draw (count + 1) source =
      ((nextByte source).1 :: (draw count (nextByte source).2).1,
        (draw count (nextByte source).2).2) := by
  simp only [draw, draw.go]
  rw [draw.go_eq]
  simp [draw]

@[simp]
theorem length_draw (count : Nat) (source : Source) : (draw count source).1.length = count := by
  induction count generalizing source with
  | zero => rfl
  | succ count induction => simp [draw_succ, induction]

end RandomSource

/-- A queue of bytes and the generator state that refills it. -/
structure Entropy where
  queue : Bytes := []
  state : UInt64 := 0
deriving DecidableEq

namespace Entropy

/-- The increment between generator states: the fraction of the golden ratio in 64 bits. -/
def increment : UInt64 := 0x9E3779B97F4A7C15

def scramble (state : UInt64) : UInt64 :=
  let first := (state ^^^ (state >>> 30)) * 0xBF58476D1CE4E5B9
  let second := (first ^^^ (first >>> 27)) * 0x94D049BB133111EB
  second ^^^ (second >>> 31)

/-- The eight bytes of a word, most significant byte first. -/
def wordBytes (word : UInt64) : Bytes :=
  [(word >>> 56).toUInt8, (word >>> 48).toUInt8, (word >>> 40).toUInt8, (word >>> 32).toUInt8,
   (word >>> 24).toUInt8, (word >>> 16).toUInt8, (word >>> 8).toUInt8, word.toUInt8]

def seeded (seed : UInt64) : Entropy where
  state := seed

def withQueue (entropy : Entropy) (bytes : Bytes) : Entropy :=
  { entropy with queue := bytes }

/-- The first byte of the queue, refilled from the generator when it is empty. -/
def nextByte (entropy : Entropy) : UInt8 × Entropy :=
  match entropy.queue with
  | byte :: rest => (byte, { entropy with queue := rest })
  | [] =>
      let state := entropy.state + increment
      match wordBytes (scramble state) with
      | byte :: rest => (byte, { queue := rest, state })
      | [] => (0, { queue := [], state })

instance : RandomSource Entropy :=
  ⟨nextByte⟩

end Entropy

end WorkGate
