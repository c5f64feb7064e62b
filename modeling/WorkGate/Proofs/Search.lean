import Mathlib.Data.Stream.Init
import Mathlib.Order.Bounds.Defs
import WorkGate.Proofs.HexCodec
import WorkGate.Work

/-!
# The search of the client and the check of the server

A client knows the rule for response nonces as a rule about texts: the digest, written in
hexadecimal and read as a number, is at most the ceiling.  The server compares the bytes of the
digest and never writes them.  Both agree on every attempt, and a digest is always readable.

The search of a client goes on until a nonce passes.  On a stream of bytes, cut into draws of 32, it
ends if and only if the nonce of some draw qualifies; then it returns the nonce of the first such
draw and leaves the stream behind this draw.  The search with a limit on its attempts is the same
search, cut off.
-/

namespace WorkGate

/-! ## Streams of bytes -/

/-- An infinite stream hands out its bytes in their order. -/
instance : RandomSource (Stream' UInt8) where
  nextByte stream := (stream.head, stream.tail)

namespace RandomSource

theorem draw_stream (count : Nat) (stream : Stream' UInt8) :
    draw count stream = (stream.take count, stream.drop count) := by
  induction count generalizing stream with
  | zero => rfl
  | succ count induction =>
      rw [draw_succ, induction]
      rfl

variable {Source : Type} [RandomSource Source]

/-- The bytes that a source hands out if it is asked again and again. -/
def bytes (source : Source) : Stream' UInt8 :=
  Stream'.corec (fun source => (nextByte source).1) (fun source => (nextByte source).2) source

theorem nextByte_bytes (source : Source) :
    nextByte (bytes source) = ((nextByte source).1, bytes (nextByte source).2) := by
  conv_lhs => rw [bytes, Stream'.corec_eq]
  rfl

/-- Drawing from a source is drawing from the stream of its bytes. -/
theorem draw_bytes (count : Nat) (source : Source) :
    draw count (bytes source) = ((draw count source).1, bytes (draw count source).2) := by
  induction count generalizing source with
  | zero => rfl
  | succ count induction => rw [draw_succ, draw_succ, nextByte_bytes, induction]

end RandomSource

namespace Work

/-! ## The rule for clients -/

/--
The rule that is published for clients: the digest in hexadecimal digits, read as a number, is at
most the ceiling.
-/
def Qualifies
    (challengeNonce responseNonce : String)
    (bound : Option Bytes)
    (ceiling : HashValue) :
    Prop :=
  ∃ value,
    score? (digest challengeNonce responseNonce bound).toHex = .ok value ∧ value ≤ ceiling

variable {challengeNonce responseNonce : String} {bound : Option Bytes} {ceiling : HashValue}

/-- A digest is written as the number that it is scored with. -/
theorem toHex_eq_toHex_score (digest : Sha256.Digest) : digest.toHex = (score digest).toHex :=
  HashValue.encode_eq_toHex (Sha256.Digest.length_toBytes digest) rfl

/-- A digest that was computed is always read, and as the number that the server compares. -/
theorem score?_toHex (digest : Sha256.Digest) : score? digest.toHex = .ok (score digest) := by
  rw [toHex_eq_toHex_score]
  apply score?_eq_ok_iff.mpr
  constructor
  · rw [HashValue.utf8_toHex, Hex.bytes, List.length_map, Hex.length_digits]
    rfl
  · exact HashValue.ofHex?_toHex _

theorem qualifies_iff_score_le :
    Qualifies challengeNonce responseNonce bound ceiling ↔
      score (digest challengeNonce responseNonce bound) ≤ ceiling := by
  simp only [Qualifies, score?_toHex]
  constructor
  · rintro ⟨_, ⟨⟩, low⟩
    exact low
  · exact fun low => ⟨_, rfl, low⟩

/-- The server accepts what qualifies. -/
theorem check_eq_ok_iff :
    check challengeNonce responseNonce bound ceiling = .ok () ↔
      Qualifies challengeNonce responseNonce bound ceiling := by
  rw [qualifies_iff_score_le, check]
  split
  · next low => exact iff_of_true rfl low
  · next high => exact iff_of_false nofun high

/-- The server refuses anything else, always for the same reason. -/
theorem check_of_not_qualifies
    (fails : ¬ Qualifies challengeNonce responseNonce bound ceiling) :
    check challengeNonce responseNonce bound ceiling = .error .insufficientWork :=
  if_neg fun low => fails (qualifies_iff_score_le.mpr low)

theorem Qualifies.mono
    {higher : HashValue}
    (qualifies : Qualifies challengeNonce responseNonce bound ceiling)
    (raised : ceiling ≤ higher) :
    Qualifies challengeNonce responseNonce bound higher := by
  obtain ⟨value, read, low⟩ := qualifies
  exact ⟨value, read, Nat.le_trans low raised⟩

/-! ## The search with a limit -/

variable {Source : Type} [RandomSource Source]

/-- A first draw that passes is what the search returns. -/
theorem search_eq_of_check
    {source : Source}
    (passes : check challengeNonce (Nonce.generate source).1 bound ceiling = .ok ())
    (attempts : Nat) :
    search challengeNonce bound ceiling (attempts + 1) source = some (Nonce.generate source) := by
  simp only [search, passes]

/-- After a draw that fails, the search goes on behind it. -/
theorem search_eq_of_check_eq_error
    {source : Source}
    {refusal : WorkError}
    (fails : check challengeNonce (Nonce.generate source).1 bound ceiling = .error refusal)
    (attempts : Nat) :
    search challengeNonce bound ceiling (attempts + 1) source =
      search challengeNonce bound ceiling attempts (Nonce.generate source).2 := by
  simp only [search, fails]

/-- A source is searched as the stream of its bytes is. -/
theorem search_bytes (attempts : Nat) (source : Source) :
    search challengeNonce bound ceiling attempts (RandomSource.bytes source) =
      (search challengeNonce bound ceiling attempts source).map
        (Prod.map id RandomSource.bytes) := by
  have generated (source : Source) :
      Nonce.generate (RandomSource.bytes source) =
        Prod.map id RandomSource.bytes (Nonce.generate source) := by
    simp only [Nonce.generate, RandomSource.draw_bytes]
    rfl
  induction attempts generalizing source with
  | zero => rfl
  | succ attempts induction =>
      simp only [search, generated, Prod.map_fst, Prod.map_snd, id, induction]
      split <;> rfl

/-! ## The search without a limit -/

/--
The search that goes on until a nonce passes: what it returns, if it ever does, with the source that
it leaves.
-/
inductive Finds (challengeNonce : String) (bound : Option Bytes) (ceiling : HashValue) :
    Source → String × Source → Prop
  | hit {source : Source}
      (passes : check challengeNonce (Nonce.generate source).1 bound ceiling = .ok ()) :
      Finds challengeNonce bound ceiling source (Nonce.generate source)
  | miss {source : Source} {refusal : WorkError} {result : String × Source}
      (fails : check challengeNonce (Nonce.generate source).1 bound ceiling = .error refusal)
      (further : Finds challengeNonce bound ceiling (Nonce.generate source).2 result) :
      Finds challengeNonce bound ceiling source result

/-- What is found at all is found within some number of attempts. -/
theorem finds_iff_exists_search {source : Source} {result : String × Source} :
    Finds challengeNonce bound ceiling source result ↔
      ∃ attempts, search challengeNonce bound ceiling attempts source = some result := by
  constructor
  · intro finds
    induction finds with
    | hit passes => exact ⟨1, search_eq_of_check passes 0⟩
    | miss fails _ induction =>
        obtain ⟨attempts, found⟩ := induction
        exact ⟨attempts + 1, (search_eq_of_check_eq_error fails attempts).trans found⟩
  · rintro ⟨attempts, found⟩
    induction attempts generalizing source with
    | zero => cases found
    | succ attempts induction =>
        cases checked : check challengeNonce (Nonce.generate source).1 bound ceiling with
        | ok _ =>
            rw [search_eq_of_check checked] at found
            cases found
            exact .hit checked
        | error refusal =>
            rw [search_eq_of_check_eq_error checked] at found
            exact .miss checked (induction found)

/-- What the search returns is well formed and passes the check of the server. -/
theorem Finds.wellFormed_and_check
    {source : Source}
    {result : String × Source}
    (finds : Finds challengeNonce bound ceiling source result) :
    Nonce.WellFormed result.1 ∧ check challengeNonce result.1 bound ceiling = .ok () := by
  induction finds with
  | hit passes => exact ⟨Nonce.wellFormed_generate _, passes⟩
  | miss _ _ induction => exact induction

/-! ## The first draw that qualifies -/

/-- The nonce of a draw: what the 32 bytes behind all earlier draws are written as. -/
def nonceAt (stream : Stream' UInt8) (index : Nat) : String :=
  Hex.encode ((stream.drop (32 * index)).take 32)

theorem generate_stream (stream : Stream' UInt8) :
    Nonce.generate stream = (nonceAt stream 0, stream.drop 32) := by
  rw [Nonce.generate, RandomSource.draw_stream]
  rfl

theorem nonceAt_drop (stream : Stream' UInt8) (index : Nat) :
    nonceAt (stream.drop 32) index = nonceAt stream (index + 1) := by
  rw [nonceAt, nonceAt, Stream'.drop_drop, Nat.mul_succ, Nat.add_comm]

/-- The first draw of a stream whose nonce qualifies. -/
def IsFirstQualified
    (challengeNonce : String)
    (bound : Option Bytes)
    (ceiling : HashValue)
    (stream : Stream' UInt8)
    (index : Nat) :
    Prop :=
  IsLeast {index | Qualifies challengeNonce (nonceAt stream index) bound ceiling} index

variable {stream : Stream' UInt8}

/-- A stream whose first draw qualifies has no other first. -/
theorem isFirstQualified_iff_of_qualifies
    (qualifies : Qualifies challengeNonce (nonceAt stream 0) bound ceiling)
    {index : Nat} :
    IsFirstQualified challengeNonce bound ceiling stream index ↔ index = 0 := by
  constructor
  · exact fun first => Nat.le_zero.mp (first.2 qualifies)
  · rintro rfl
    exact ⟨qualifies, fun _ _ => Nat.zero_le _⟩

/-- If the first draw does not qualify, the first that does is found behind it. -/
theorem isFirstQualified_iff_of_not_qualifies
    (fails : ¬ Qualifies challengeNonce (nonceAt stream 0) bound ceiling)
    {index : Nat} :
    IsFirstQualified challengeNonce bound ceiling stream index ↔
      ∃ further,
        IsFirstQualified challengeNonce bound ceiling (stream.drop 32) further ∧
          index = further + 1 := by
  simp only [IsFirstQualified, nonceAt_drop]
  constructor
  · rintro ⟨qualifies, least⟩
    cases index with
    | zero => exact absurd qualifies fails
    | succ further =>
        exact ⟨further, ⟨qualifies, fun _ other => Nat.le_of_succ_le_succ (least other)⟩, rfl⟩
  · rintro ⟨further, ⟨qualifies, least⟩, rfl⟩
    refine ⟨qualifies, fun other qualified => ?_⟩
    cases other with
    | zero => exact absurd qualified fails
    | succ other => exact Nat.succ_le_succ (least qualified)

theorem search_stream_of_qualifies
    (qualifies : Qualifies challengeNonce (nonceAt stream 0) bound ceiling)
    (attempts : Nat) :
    search challengeNonce bound ceiling (attempts + 1) stream =
      some (nonceAt stream 0, stream.drop 32) := by
  have passes : check challengeNonce (Nonce.generate stream).1 bound ceiling = .ok () := by
    rw [generate_stream]
    exact check_eq_ok_iff.mpr qualifies
  rw [search_eq_of_check passes, generate_stream]

theorem search_stream_of_not_qualifies
    (fails : ¬ Qualifies challengeNonce (nonceAt stream 0) bound ceiling)
    (attempts : Nat) :
    search challengeNonce bound ceiling (attempts + 1) stream =
      search challengeNonce bound ceiling attempts (stream.drop 32) := by
  have refused :
      check challengeNonce (Nonce.generate stream).1 bound ceiling =
        .error .insufficientWork := by
    rw [generate_stream]
    exact check_of_not_qualifies fails
  rw [search_eq_of_check_eq_error refused, generate_stream]

/-- Within its attempts, the search returns the first draw that qualifies and the bytes after it. -/
theorem search_eq_some_iff {attempts : Nat} {result : String × Stream' UInt8} :
    search challengeNonce bound ceiling attempts stream = some result ↔
      ∃ index < attempts,
        IsFirstQualified challengeNonce bound ceiling stream index ∧
          result = (nonceAt stream index, stream.drop (32 * (index + 1))) := by
  induction attempts generalizing stream with
  | zero => simp [search]
  | succ attempts induction =>
      by_cases qualifies : Qualifies challengeNonce (nonceAt stream 0) bound ceiling
      · simp only [search_stream_of_qualifies qualifies,
          isFirstQualified_iff_of_qualifies qualifies]
        constructor
        · rintro ⟨⟩
          exact ⟨0, Nat.succ_pos attempts, rfl, rfl⟩
        · rintro ⟨_, -, rfl, rfl⟩
          rfl
      · -- Each draw behind the first one is one draw further away from the start of the stream.
        have shifted (further : Nat) :
            (nonceAt (stream.drop 32) further, (stream.drop 32).drop (32 * (further + 1))) =
              (nonceAt stream (further + 1), stream.drop (32 * (further + 1 + 1))) := by
          rw [nonceAt_drop, Stream'.drop_drop, Nat.mul_succ 32 (further + 1), Nat.add_comm 32]
        simp only [search_stream_of_not_qualifies qualifies, induction,
          isFirstQualified_iff_of_not_qualifies qualifies, shifted]
        constructor
        · rintro ⟨further, bounded, first, rfl⟩
          exact ⟨further + 1, Nat.succ_lt_succ bounded, ⟨further, first, rfl⟩, rfl⟩
        · rintro ⟨_, bounded, ⟨further, first, rfl⟩, rfl⟩
          exact ⟨further, Nat.lt_of_succ_lt_succ bounded, first, rfl⟩

/-- The search without a limit returns the first draw that qualifies and the bytes behind it. -/
theorem finds_iff {result : String × Stream' UInt8} :
    Finds challengeNonce bound ceiling stream result ↔
      ∃ index,
        IsFirstQualified challengeNonce bound ceiling stream index ∧
          result = (nonceAt stream index, stream.drop (32 * (index + 1))) := by
  simp only [finds_iff_exists_search, search_eq_some_iff]
  constructor
  · rintro ⟨_, index, -, first⟩
    exact ⟨index, first⟩
  · rintro ⟨index, first⟩
    exact ⟨index + 1, index, Nat.lt_succ_self index, first⟩

/-- The search ends if and only if some draw qualifies. -/
theorem exists_finds_iff :
    (∃ result, Finds challengeNonce bound ceiling stream result) ↔
      ∃ index, Qualifies challengeNonce (nonceAt stream index) bound ceiling := by
  simp only [finds_iff]
  constructor
  · rintro ⟨_, index, first, -⟩
    exact ⟨index, first.1⟩
  · intro qualified
    classical
    exact ⟨_, Nat.find qualified, ⟨Nat.find_spec qualified, fun _ => Nat.find_min' qualified⟩, rfl⟩

/-- What a client gets that searches a stream, with and without a limit on its attempts. -/
structure SearchesFirst
    (challengeNonce : String)
    (bound : Option Bytes)
    (ceiling : HashValue)
    (stream : Stream' UInt8) :
    Prop where
  /-- The search ends if and only if some draw qualifies. -/
  ends_iff :
    (∃ result, Finds challengeNonce bound ceiling stream result) ↔
      ∃ index, Qualifies challengeNonce (nonceAt stream index) bound ceiling
  /-- It returns the first nonce that qualifies, and all bytes behind its draw are left. -/
  finds_iff (result : String × Stream' UInt8) :
    Finds challengeNonce bound ceiling stream result ↔
      ∃ index,
        IsFirstQualified challengeNonce bound ceiling stream index ∧
          result = (nonceAt stream index, stream.drop (32 * (index + 1)))
  /-- With a limit, it returns the same if the draw lies within the limit, and nothing otherwise. -/
  search_eq_some_iff (attempts : Nat) (result : String × Stream' UInt8) :
    search challengeNonce bound ceiling attempts stream = some result ↔
      ∃ index < attempts,
        IsFirstQualified challengeNonce bound ceiling stream index ∧
          result = (nonceAt stream index, stream.drop (32 * (index + 1)))
  /-- What is found is accepted under every ceiling that is not lower. -/
  check_eq_ok (result : String × Stream' UInt8) (higher : HashValue) :
    Finds challengeNonce bound ceiling stream result →
      ceiling ≤ higher → check challengeNonce result.1 bound higher = .ok ()

/--
The search of a client finds the first draw that qualifies by the rule for clients.  By this rule a
digest is always read, and the server accepts exactly what qualifies; so what is accepted under one
ceiling is accepted under every higher one.  Any other source is searched as the stream of its
bytes.
-/
theorem search_agrees_with_check
    (challengeNonce : String)
    (bound : Option Bytes)
    (ceiling : HashValue) :
    (∀ stream : Stream' UInt8, SearchesFirst challengeNonce bound ceiling stream) ∧
    (∀ responseNonce : String,
      (∃ value, score? (digest challengeNonce responseNonce bound).toHex = .ok value) ∧
      (check challengeNonce responseNonce bound ceiling = .ok () ↔
        Qualifies challengeNonce responseNonce bound ceiling) ∧
      (check challengeNonce responseNonce bound ceiling = .error .insufficientWork ↔
        ¬ Qualifies challengeNonce responseNonce bound ceiling) ∧
      ∀ higher,
        ceiling ≤ higher →
          check challengeNonce responseNonce bound ceiling = .ok () →
            check challengeNonce responseNonce bound higher = .ok ()) ∧
    ∀ (Source : Type) [RandomSource Source] (source : Source) (attempts : Nat),
      search challengeNonce bound ceiling attempts (RandomSource.bytes source) =
        (search challengeNonce bound ceiling attempts source).map
          (Prod.map id RandomSource.bytes) := by
  refine ⟨fun stream => ?_, fun responseNonce => ?_, fun Source _ source attempts => ?_⟩
  · refine ⟨exists_finds_iff, fun _ => finds_iff, fun _ _ => search_eq_some_iff, ?_⟩
    intro result higher finds raised
    obtain ⟨index, first, rfl⟩ := finds_iff.mp finds
    have qualifies : Qualifies challengeNonce (nonceAt stream index) bound ceiling := first.1
    exact check_eq_ok_iff.mpr (qualifies.mono raised)
  · refine ⟨⟨_, score?_toHex _⟩, check_eq_ok_iff, ⟨?_, check_of_not_qualifies⟩, ?_⟩
    · intro refused qualifies
      rw [check_eq_ok_iff.mpr qualifies] at refused
      cases refused
    · intro higher raised accepted
      exact check_eq_ok_iff.mpr ((check_eq_ok_iff.mp accepted).mono raised)
  · exact search_bytes attempts source

/-- A draw of ones, then zeros for ever. -/
def sampleStream : Stream' UInt8 :=
  fun index => if index < 32 then 1 else 0

/-- The first draw of the sample misses the ceiling and the second one is returned. -/
theorem sampleStream_is_searched_to_second_draw :
    Finds "C0FFEE" none (.leadingZeros 2) sampleStream
        (String.ofList (List.replicate 64 '0'), sampleStream.drop 64) ∧
      search "C0FFEE" none (.leadingZeros 2) 1 sampleStream = none ∧
        check "C0FFEE" (String.ofList (List.replicate 64 '0')) none (.leadingZeros 0) = .ok () := by
  obtain ⟨searches, -, -⟩ := search_agrees_with_check "C0FFEE" none (.leadingZeros 2)
  obtain ⟨-, finds, within, passes⟩ := searches sampleStream
  have misses : ¬ Qualifies "C0FFEE" (nonceAt sampleStream 0) none (.leadingZeros 2) := by
    rw [qualifies_iff_score_le]
    decide +kernel
  have hits : Qualifies "C0FFEE" (nonceAt sampleStream 1) none (.leadingZeros 2) := by
    rw [qualifies_iff_score_le]
    decide +kernel
  have first : IsFirstQualified "C0FFEE" none (.leadingZeros 2) sampleStream 1 := by
    refine ⟨hits, fun index qualifies => Nat.pos_of_ne_zero ?_⟩
    rintro rfl
    exact misses qualifies
  have written : nonceAt sampleStream 1 = String.ofList (List.replicate 64 '0') := by
    decide +kernel
  have found := (finds _).mpr ⟨1, first, rfl⟩
  rw [written] at found
  have accepted := passes _ (.leadingZeros 0) found (by decide +kernel)
  refine ⟨found, ?_, accepted⟩
  rw [Option.eq_none_iff_forall_ne_some]
  intro result returned
  obtain ⟨index, bounded, ⟨qualifies, -⟩, -⟩ := (within 1 result).mp returned
  obtain rfl := Nat.lt_one_iff.mp bounded
  exact misses qualifies

end Work

end WorkGate
