import WorkGate.Hex

/-!
# SHA-256

The message is padded to a multiple of 64 bytes, cut into blocks of sixteen words, and folded into
a state of eight words by the compression function.  The digest is the final state; it is read as
32 bytes or as text.

Words are 32-bit machine words, since their arithmetic is the domain here.  `absorb` walks the
padded message four bytes at a time, so no block has to be cut out beforehand.
-/

namespace WorkGate.Sha256

abbrev Word := UInt32

/-- The eight words of the hash state. -/
structure Digest where
  a : Word
  b : Word
  c : Word
  d : Word
  e : Word
  f : Word
  g : Word
  h : Word
deriving DecidableEq

/-- The state before the first block: fractional parts of the square roots of the first primes. -/
def initial : Digest :=
  ⟨0x6a09e667, 0xbb67ae85, 0x3c6ef372, 0xa54ff53a, 0x510e527f, 0x9b05688c, 0x1f83d9ab, 0x5be0cd19⟩

/-- The round constants: fractional parts of the cube roots of the first 64 primes. -/
def constants : List Word :=
  [0x428a2f98, 0x71374491, 0xb5c0fbcf, 0xe9b5dba5, 0x3956c25b, 0x59f111f1, 0x923f82a4, 0xab1c5ed5,
   0xd807aa98, 0x12835b01, 0x243185be, 0x550c7dc3, 0x72be5d74, 0x80deb1fe, 0x9bdc06a7, 0xc19bf174,
   0xe49b69c1, 0xefbe4786, 0x0fc19dc6, 0x240ca1cc, 0x2de92c6f, 0x4a7484aa, 0x5cb0a9dc, 0x76f988da,
   0x983e5152, 0xa831c66d, 0xb00327c8, 0xbf597fc7, 0xc6e00bf3, 0xd5a79147, 0x06ca6351, 0x14292967,
   0x27b70a85, 0x2e1b2138, 0x4d2c6dfc, 0x53380d13, 0x650a7354, 0x766a0abb, 0x81c2c92e, 0x92722c85,
   0xa2bfe8a1, 0xa81a664b, 0xc24b8b70, 0xc76c51a3, 0xd192e819, 0xd6990624, 0xf40e3585, 0x106aa070,
   0x19a4c116, 0x1e376c08, 0x2748774c, 0x34b0bcb5, 0x391c0cb3, 0x4ed8aa4a, 0x5b9cca4f, 0x682e6ff3,
   0x748f82ee, 0x78a5636f, 0x84c87814, 0x8cc70208, 0x90befffa, 0xa4506ceb, 0xbef9a3f7, 0xc67178f2]

/-- Rotates a word to the right; the count lies between 1 and 31. -/
@[inline]
def rotate (word count : Word) : Word :=
  (word >>> count) ||| (word <<< (32 - count))

/-- Extends the message schedule by `count` words. -/
def extend : (count : Nat) → (schedule : Array Word) → Array Word
  | 0, schedule => schedule
  | count + 1, schedule =>
      let length := schedule.size
      let early := schedule.getD (length - 15) 0
      let late := schedule.getD (length - 2) 0
      let small := rotate early 7 ^^^ rotate early 18 ^^^ (early >>> 3)
      let large := rotate late 17 ^^^ rotate late 19 ^^^ (late >>> 10)
      extend count
        (schedule.push
          (schedule.getD (length - 16) 0 + small + schedule.getD (length - 7) 0 + large))

/-- One round, with the round constant and the schedule word already added. -/
@[inline]
def round (state : Digest) (addend : Word) : Digest :=
  let ⟨a, b, c, d, e, f, g, h⟩ := state
  let large := rotate e 6 ^^^ rotate e 11 ^^^ rotate e 25
  let choice := (e &&& f) ^^^ (~~~e &&& g)
  let first := h + large + choice + addend
  let small := rotate a 2 ^^^ rotate a 13 ^^^ rotate a 22
  let majority := (a &&& b) ^^^ (a &&& c) ^^^ (b &&& c)
  ⟨first + small + majority, a, b, c, d + first, e, f, g⟩

/-- Runs one round for each constant, taking schedule words from position `index` on. -/
def rounds (schedule : Array Word) : List Word → (index : Nat) → Digest → Digest
  | [], _, state => state
  | constant :: rest, index, state =>
      rounds schedule rest (index + 1) (round state (constant + schedule.getD index 0))

/-- Folds one block of sixteen words into the state. -/
def compress (state : Digest) (block : Array Word) : Digest :=
  let mixed := rounds (extend 48 block) constants 0 state
  ⟨state.a + mixed.a, state.b + mixed.b, state.c + mixed.c, state.d + mixed.d,
   state.e + mixed.e, state.f + mixed.f, state.g + mixed.g, state.h + mixed.h⟩

/-- The word made of four bytes, most significant byte first. -/
@[inline]
def word (first second third fourth : UInt8) : Word :=
  (first.toUInt32 <<< 24) ||| (second.toUInt32 <<< 16) ||| (third.toUInt32 <<< 8) |||
    fourth.toUInt32

/-- Collects the words of a padded message into blocks and folds each full block into the state. -/
def absorb : Bytes → (block : Array Word) → Digest → Digest
  | first :: second :: third :: fourth :: rest, block, state =>
      let filled := block.push (word first second third fourth)
      if filled.size = 16 then absorb rest #[] (compress state filled)
      else absorb rest filled state
  | _, _, state => state

/-- A one bit, zeros up to eight bytes short of a full block, and the length in bits. -/
def padding (length : Nat) : Bytes :=
  0x80 :: (List.replicate ((119 - length % 64) % 64) 0 ++ Bytes.ofNat 8 (length * 8))

def hash (message : Bytes) : Digest :=
  absorb (message ++ padding message.length) #[] initial

/-- The four bytes of a word, most significant byte first. -/
def wordBytes (word : Word) : Bytes :=
  [(word >>> 24).toUInt8, (word >>> 16).toUInt8, (word >>> 8).toUInt8, word.toUInt8]

namespace Digest

def toBytes (digest : Digest) : Bytes :=
  wordBytes digest.a ++ wordBytes digest.b ++ wordBytes digest.c ++ wordBytes digest.d ++
    wordBytes digest.e ++ wordBytes digest.f ++ wordBytes digest.g ++ wordBytes digest.h

@[simp]
theorem length_toBytes (digest : Digest) : digest.toBytes.length = 32 := by
  simp [toBytes, wordBytes]

def toHex (digest : Digest) : String :=
  Hex.encode digest.toBytes

end Digest

end WorkGate.Sha256
