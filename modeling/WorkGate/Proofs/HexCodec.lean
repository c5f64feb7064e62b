import WorkGate.Proofs.HashValue
import WorkGate.Proofs.Nonce

/-!
# The hexadecimal codec of 256-bit numbers

Exactly the texts of one to 64 digits are read as hash values, each as the number that it denotes in
base sixteen.  What is written for it is the text in upper case, with zeros before it; so every hash
value has one written form, and written forms are ordered byte by byte as the numbers are.

Digests and nonces use the same form.  A digest is read like a hash value, but only from 64 digits.
A nonce is the written form of the 32 bytes that are drawn for it, so it is well formed, and other
bytes lead to another nonce.
-/

namespace WorkGate

namespace HashValue

/-- A text of one to 64 ASCII hexadecimal digits. -/
def Spelled (text : String) : Prop :=
  1 ≤ text.toList.length ∧ text.toList.length ≤ 64 ∧
    ∀ char ∈ text.toList, Hex.IsUpperDigit char ∨ ('a' ≤ char ∧ char ≤ 'f')

/-- The text in upper case, with zeros before it up to 64 characters. -/
def padded (text : String) : String :=
  String.ofList (List.leftpad 64 '0' (text.toList.map Char.toUpper))

variable {text : String} {value : HashValue}

/-- Exactly the texts of one to 64 digits are read. -/
theorem exists_ofHex?_iff : (∃ value, ofHex? text = some value) ↔ Spelled text := by
  have digits_iff :
      (∃ total, Hex.toNat? text = some total) ↔
        ∀ char ∈ text.toList, Hex.IsUpperDigit char ∨ ('a' ≤ char ∧ char ≤ 'f') := by
    simp only [← Hex.isDigit_iff]
    exact Hex.exists_readFrom_iff
  constructor
  · rintro ⟨value, found⟩
    obtain ⟨⟨some, short⟩, read⟩ := ofHex?_eq_some_iff.mp found
    exact ⟨some, short, digits_iff.mp ⟨_, read⟩⟩
  · rintro ⟨some, short, digits⟩
    obtain ⟨total, read⟩ := digits_iff.mpr digits
    have small : total < Nat.pow 16 width := by
      have bounded := Hex.readFrom_lt (Nat.lt_succ_self 0) read
      rw [Nat.one_mul] at bounded
      exact Nat.lt_of_lt_of_le bounded (Nat.pow_le_pow_right (by decide) short)
    rw [sixteen_pow_width] at small
    exact ⟨⟨total, small⟩, ofHex?_eq_some_iff.mpr ⟨⟨some, short⟩, read⟩⟩

theorem toNat_of_ofHex? (found : ofHex? text = some value) :
    value.toNat = Hex.denoted text.toList :=
  Hex.eq_denoted_of_readFrom (ofHex?_eq_some_iff.mp found).2

/-- What was read is written in upper case and with zeros before it. -/
theorem toHex_of_ofHex? (found : ofHex? text = some value) : value.toHex = padded text := by
  obtain ⟨⟨-, short⟩, read⟩ := ofHex?_eq_some_iff.mp found
  have small : value.toNat < Nat.pow 16 text.toList.length := by
    have bounded := Hex.readFrom_lt (Nat.lt_succ_self 0) read
    rwa [Nat.one_mul] at bounded
  have whole : width - text.toList.length + text.toList.length = width := Nat.sub_add_cancel short
  rw [toHex_eq_digits, padded, ← whole, Hex.digits_add small, Hex.digits_of_readFrom read,
    List.leftpad, List.length_map]
  rfl

theorem utf8_toHex (value : HashValue) : utf8 value.toHex = Hex.bytes width value.toNat := by
  rw [utf8_eq_flatMap, toHex_eq_digits, String.toList_ofList, Hex.bytes]
  exact Hex.flatMap_utf8EncodeChar_of_isDigit fun _ member => Hex.isDigit_of_mem_digits member

/-- Hash values are ordered as the bytes of their written forms. -/
theorem utf8_toHex_lt_iff {left right : HashValue} :
    utf8 left.toHex < utf8 right.toHex ↔ left.toNat < right.toNat := by
  rw [utf8_toHex, utf8_toHex]
  apply Hex.bytes_lt_bytes_iff
  · rw [sixteen_pow_width]
    exact left.toNat_lt
  · rw [sixteen_pow_width]
    exact right.toNat_lt

/-- Thirty-two bytes are written as the hash value that they stand for. -/
theorem encode_eq_toHex
    {bytes : Bytes}
    (length : bytes.length = 32)
    (same : value.toNat = Bytes.toNat bytes) :
    Hex.encode bytes = value.toHex := by
  rw [Hex.encode, Hex.flatMap_pair_eq_digits, length, toHex_eq_digits, same]
  rfl

end HashValue

namespace Work

/-- A digest is read from 64 digits as a hash value is. -/
theorem score?_eq_ok_iff {text : String} {value : HashValue} :
    score? text = .ok value ↔ (utf8 text).length = 64 ∧ HashValue.ofHex? text = some value := by
  rw [score?_eq_ok_iff_toNat?, HashValue.ofHex?_eq_some_iff]
  constructor
  · rintro ⟨whole, read⟩
    have digits := Hex.exists_readFrom_iff.mp ⟨value.toNat, read⟩
    have chars : text.toList.length = 64 := by
      rw [← List.length_map, ← Hex.utf8_of_isDigit digits, whole]
    refine ⟨whole, ⟨?_, ?_⟩, read⟩
    · omega
    · exact Nat.le_of_eq chars
  · rintro ⟨whole, -, read⟩
    exact ⟨whole, read⟩

theorem score?_of_not_spelled
    {text : String}
    (misfit : ¬ ((utf8 text).length = 64 ∧ HashValue.Spelled text)) :
    score? text = .error (.invalidHashValue text) := by
  cases read : score? text with
  | ok value =>
      obtain ⟨whole, found⟩ := score?_eq_ok_iff.mp read
      exact absurd ⟨whole, HashValue.exists_ofHex?_iff.mp ⟨value, found⟩⟩ misfit
  | error refusal =>
      rw [score?] at read
      split at read
      · split at read
        · cases read
        · exact congrArg Except.error (Except.error.inj read).symm
      · exact congrArg Except.error (Except.error.inj read).symm

end Work

namespace Nonce

variable {Source : Type} [RandomSource Source]

/-- A nonce is the written form of the number that the bytes drawn for it stand for. -/
theorem exists_generate_eq_toHex (source : Source) :
    ∃ value : HashValue,
      value.toNat = Bytes.toNat (RandomSource.draw 32 source).1 ∧
        generate source = (value.toHex, (RandomSource.draw 32 source).2) := by
  have length := RandomSource.length_draw 32 source
  let value := HashValue.ofBytes (RandomSource.draw 32 source).1 (Nat.le_of_eq length)
  have written : Hex.encode (RandomSource.draw 32 source).1 = value.toHex :=
    HashValue.encode_eq_toHex length rfl
  exact ⟨value, rfl, Prod.ext written rfl⟩

/-- The bytes that were drawn for a nonce can be told from it. -/
theorem draw_eq_of_generate_eq
    {source other : Source}
    (same : (generate source).1 = (generate other).1) :
    (RandomSource.draw 32 source).1 = (RandomSource.draw 32 other).1 := by
  obtain ⟨value, read, generated⟩ := exists_generate_eq_toHex source
  obtain ⟨otherValue, otherRead, otherGenerated⟩ := exists_generate_eq_toHex other
  have sameText : value.toHex = otherValue.toHex := by
    rwa [generated, otherGenerated] at same
  have sameValue : some value = some otherValue := by
    rw [← HashValue.ofHex?_toHex value, sameText, HashValue.ofHex?_toHex]
  apply Bytes.eq_of_toNat_eq
  · rw [RandomSource.length_draw, RandomSource.length_draw]
  · rw [← read, ← otherRead, Option.some.inj sameValue]

end Nonce

/--
Exactly the texts of one to 64 digits are read, each as the number that it denotes, and what was
read is written in upper case and with zeros before it.  Digests are read in the same way, but only
from 64 bytes.  Written numbers keep their order byte by byte, and a nonce is the written form of
the 32 bytes drawn for it.
-/
theorem hex_codec_is_exact (Source : Type) [RandomSource Source] :
    (∀ text : String,
      ((∃ value, HashValue.ofHex? text = some value) ↔ HashValue.Spelled text) ∧
        ∀ value, HashValue.ofHex? text = some value →
          value.toNat = Hex.denoted text.toList ∧ value.toHex = HashValue.padded text) ∧
    (∀ value : HashValue, HashValue.ofHex? value.toHex = some value) ∧
    (∀ text : String,
      (∀ value,
        Work.score? text = .ok value ↔
          (utf8 text).length = 64 ∧ HashValue.ofHex? text = some value) ∧
        (¬ ((utf8 text).length = 64 ∧ HashValue.Spelled text) →
          Work.score? text = .error (.invalidHashValue text))) ∧
    (∀ left right : HashValue, left.toNat < right.toNat ↔ utf8 left.toHex < utf8 right.toHex) ∧
    ∀ source : Source,
      Nonce.WellFormed (Nonce.generate source).1 ∧
        (∃ value : HashValue,
          value.toNat = Bytes.toNat (RandomSource.draw 32 source).1 ∧
            Nonce.generate source = (value.toHex, (RandomSource.draw 32 source).2)) ∧
        ∀ other : Source,
          (RandomSource.draw 32 source).1 ≠ (RandomSource.draw 32 other).1 →
            (Nonce.generate source).1 ≠ (Nonce.generate other).1 := by
  refine ⟨fun text => ⟨HashValue.exists_ofHex?_iff, fun value found => ?_⟩,
    HashValue.ofHex?_toHex, fun text => ⟨fun value => Work.score?_eq_ok_iff, ?_⟩,
    fun left right => HashValue.utf8_toHex_lt_iff.symm, fun source => ?_⟩
  · exact ⟨HashValue.toNat_of_ofHex? found, HashValue.toHex_of_ofHex? found⟩
  · exact Work.score?_of_not_spelled
  · exact ⟨Nonce.wellFormed_generate source, Nonce.exists_generate_eq_toHex source,
      fun other => mt Nonce.draw_eq_of_generate_eq⟩

/-- Three digits of mixed case are read and written again, but they are not a digest. -/
theorem mixedCase_sample_is_padded :
    (∃ value,
      HashValue.ofHex? "aBc" = some value ∧
        value.toNat = 0xABC ∧
          value.toHex = String.ofList (List.replicate 61 '0' ++ ['A', 'B', 'C'])) ∧
      Work.score? "aBc" = .error (.invalidHashValue "aBc") := by
  obtain ⟨reads, -, scores, -, -⟩ := hex_codec_is_exact Entropy
  constructor
  · have read : HashValue.ofHex? "aBc" = some ⟨0xABC, by decide⟩ := by decide +kernel
    obtain ⟨-, written⟩ := (reads "aBc").2 _ read
    exact ⟨_, read, rfl, written.trans (by decide +kernel)⟩
  · apply (scores "aBc").2
    rintro ⟨whole, -⟩
    exact absurd whole (by decide +kernel)

end WorkGate
