/-!
# Byte strings and text

Everything that is hashed, received or sent is a list of bytes.  This module fixes the encoding of
text as bytes, its partial inverse, and the reading and writing of a number as bytes, most
significant byte first.

A text is determined by its encoding, and decoding undoes encoding; both come from the definition of
`String` as a valid UTF-8 byte array.  The encoding goes character by character: an ASCII character
is encoded as the byte of its code, and all bytes of any other character lie beyond ASCII.
-/

namespace WorkGate

/-- A string of bytes. -/
abbrev Bytes := List UInt8

/-- The UTF-8 encoding of a text. -/
def utf8 (text : String) : Bytes :=
  text.toByteArray.data.toList

/-- The text whose UTF-8 encoding the bytes are, if they are valid UTF-8. -/
def ofUtf8? (bytes : Bytes) : Option String :=
  String.fromUTF8? ⟨bytes.toArray⟩

@[simp]
theorem ofUtf8?_utf8 (text : String) : ofUtf8? (utf8 text) = some text := by
  simp only [ofUtf8?, utf8, Array.toArray_toList, String.fromUTF8?]
  exact dif_pos text.isValidUTF8

/-- Different texts have different encodings. -/
theorem utf8_injective
    {left right : String}
    (same : utf8 left = utf8 right) :
    left = right := by
  have decoded := congrArg ofUtf8? same
  simpa using decoded

theorem utf8_eq_flatMap (text : String) :
    utf8 text = text.toList.flatMap String.utf8EncodeChar := by
  rw [utf8, ← String.utf8Encode_toList, List.utf8Encode, List.data_toByteArray]

/-- A character is ASCII and one byte, or all its bytes lie beyond ASCII. -/
theorem utf8EncodeChar_cases (char : Char) :
    (char.toNat < 0x80 ∧ String.utf8EncodeChar char = [UInt8.ofNat char.toNat]) ∨
      ∀ byte ∈ String.utf8EncodeChar char, 0x80 ≤ byte.toNat := by
  have code : char.val.toNat = char.toNat := rfl
  simp only [String.utf8EncodeChar, code]
  split
  · next ascii => exact Or.inl ⟨by omega, rfl⟩
  · right
    split
    · simp; omega
    · split
      · simp; omega
      · simp; omega

namespace Bytes

/-- The number the bytes stand for, most significant byte first. -/
def toNat (bytes : Bytes) : Nat :=
  bytes.foldl (fun value byte => value * 256 + byte.toNat) 0

/-- The last `count` bytes of a number, most significant byte first. -/
def ofNat : (count value : Nat) → Bytes
  | 0, _ => []
  | count + 1, value => ofNat count (value / 256) ++ [UInt8.ofNat value]

@[simp]
theorem length_ofNat (count value : Nat) : (ofNat count value).length = count := by
  induction count generalizing value with
  | zero => rfl
  | succ count induction => simp [ofNat, induction]

/-- Reading bytes after a number already read stays below the next power of 256. -/
theorem foldl_lt
    (bytes : Bytes)
    (value bound : Nat)
    (small : value < bound) :
    bytes.foldl (fun value byte => value * 256 + byte.toNat) value <
      bound * Nat.pow 256 bytes.length := by
  induction bytes generalizing value bound with
  | nil => simpa using small
  | cons byte rest induction =>
      have byteSmall : byte.toNat < 256 := byte.toNat_lt
      have next := induction (value * 256 + byte.toNat) (bound * 256) (by omega)
      simpa [Nat.pow_succ, Nat.mul_assoc, Nat.mul_comm 256] using next

/-- A number read from `n` bytes is below `256 ^ n`. -/
theorem toNat_lt (bytes : Bytes) : Bytes.toNat bytes < Nat.pow 256 bytes.length := by
  simpa [toNat] using foldl_lt bytes 0 1 (by omega)

end Bytes

end WorkGate
