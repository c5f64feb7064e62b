import WorkGate.Proofs.Hex
import WorkGate.Work

/-!
# Hash values are read and written as their digits

The zeros that fill a text up do not change the number that its digits are read as, and the bytes of
a hash value lose nothing of it.  So a hash value is read from one to 64 digits as the number that
they are read as one after the other, it is written as its last 64 digits, and what was written is
read back.  A digest is read by itself, but to the same number.
-/

namespace WorkGate

variable {text : String} {value : HashValue}

namespace HashValue

theorem sixteen_pow_width :
    Nat.pow 16 width = 0x10000000000000000000000000000000000000000000000000000000000000000 := by
  decide +kernel

/-- The 32 bytes of a hash value are written as its 64 digits. -/
theorem toHex_eq_digits (value : HashValue) :
    value.toHex = String.ofList (Hex.digits width value.toNat) := by
  have small : value.toNat < Nat.pow 256 32 := value.toNat_lt
  rw [toHex, Hex.encode, Hex.flatMap_pair_eq_digits, Bytes.length_ofNat, Bytes.toNat_ofNat,
    Nat.mod_eq_of_lt small]
  rfl

/-- A hash value is read from one to 64 digits, whose number it is. -/
theorem ofHex?_eq_some_iff :
    ofHex? text = some value ↔
      (0 < text.toList.length ∧ text.toList.length ≤ width) ∧
        Hex.toNat? text = some value.toNat := by
  have size : text.utf8ByteSize = (utf8 text).length := rfl
  constructor
  · intro found
    by_cases spelled :
        text.utf8ByteSize ≠ 0 ∧ text.utf8ByteSize ≤ width ∧ Hex.areDigits (utf8 text)
    · obtain ⟨some, short, digits⟩ := id spelled
      rw [size, Hex.utf8_of_isDigit (Hex.areDigits_utf8_iff.mp digits), List.length_map]
        at some short
      simp only [ofHex?, dif_pos spelled] at found
      split at found
      · next bytes decoded =>
          obtain rfl := Option.some.inj found
          obtain ⟨-, read⟩ := Hex.decode?_utf8_iff.mp ⟨bytes, decoded, rfl⟩
          rw [Hex.toNat?_zeroFilled] at read
          exact ⟨⟨Nat.pos_of_ne_zero some, short⟩, read⟩
      · cases found
    · rw [ofHex?, dif_neg spelled] at found
      cases found
  · rintro ⟨⟨some, short⟩, read⟩
    have digits := Hex.exists_readFrom_iff.mp ⟨value.toNat, read⟩
    have spelled :
        text.utf8ByteSize ≠ 0 ∧ text.utf8ByteSize ≤ width ∧ Hex.areDigits (utf8 text) := by
      rw [size, Hex.utf8_of_isDigit digits, List.length_map, ← Hex.utf8_of_isDigit digits]
      exact ⟨Nat.ne_of_gt some, short, Hex.areDigits_utf8_iff.mpr digits⟩
    have even : (Hex.zeroFilled width text).toList.length % 2 = 0 := by
      rw [Hex.zeroFilled, String.toList_ofList, List.length_leftpad, Nat.max_eq_left short]
      rfl
    rw [← Hex.toNat?_zeroFilled width] at read
    obtain ⟨bytes, decoded, same⟩ := Hex.decode?_utf8_iff.mpr ⟨even, read⟩
    simp only [ofHex?, dif_pos spelled]
    split
    · next other found =>
        obtain rfl := Option.some.inj (decoded.symm.trans found)
        exact congrArg Option.some (HashValue.ext same)
    · next none =>
        rw [decoded] at none
        cases none

theorem ofHex?_toHex (value : HashValue) : ofHex? value.toHex = some value := by
  have digits : value.toHex.toList = Hex.digits width value.toNat := by
    rw [toHex_eq_digits, String.toList_ofList]
  apply ofHex?_eq_some_iff.mpr
  constructor
  · rw [digits, Hex.length_digits]
    decide
  · have small : value.toNat < Nat.pow 16 width := by
      rw [sixteen_pow_width]
      exact value.toNat_lt
    rw [Hex.toNat?, digits, Hex.readFrom_digits, Nat.mod_eq_of_lt small, Nat.zero_mul,
      Nat.zero_add]

end HashValue

/-- A digest is read from 64 bytes that are digits, whose number it is. -/
theorem Work.score?_eq_ok_iff_toNat? :
    score? text = .ok value ↔
      (utf8 text).length = 64 ∧ Hex.toNat? text = some value.toNat := by
  by_cases sized : text.utf8ByteSize = 64
  · have whole : (utf8 text).length = 64 := sized
    simp only [score?, dif_pos sized, whole, true_and]
    constructor
    · intro read
      split at read
      · next bytes decoded =>
          obtain rfl := Except.ok.inj read
          exact (Hex.decode?_utf8_iff.mp ⟨bytes, decoded, rfl⟩).2
      · cases read
    · intro read
      have digits := Hex.exists_readFrom_iff.mp ⟨value.toNat, read⟩
      have even : text.toList.length % 2 = 0 := by
        rw [← List.length_map, ← Hex.utf8_of_isDigit digits, whole]
      obtain ⟨bytes, decoded, same⟩ := Hex.decode?_utf8_iff.mpr ⟨even, read⟩
      split
      · next other found =>
          obtain rfl := Option.some.inj (decoded.symm.trans found)
          exact congrArg Except.ok (HashValue.ext same)
      · next none =>
          rw [decoded] at none
          cases none
  · have misfit : ¬ (utf8 text).length = 64 := sized
    rw [score?, dif_neg sized]
    simp [misfit]

end WorkGate
