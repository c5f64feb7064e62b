import Mathlib.Data.String.Basic
import WorkGate.Nonce

/-!
# Well-formed nonces

A generated nonce is well formed whatever the random source is, and a well-formed nonce has one
byte for each digit.  So two well-formed nonces at the start of the same byte string are equal.
-/

namespace WorkGate

theorem length_utf8 (text : String) : (utf8 text).length = String.utf8Len text.toList := by
  rw [← String.utf8ByteSize_ofList, String.ofList_toList]
  rfl

namespace Hex

theorem isDigit_digit {value : Nat} (small : value < 16) : IsDigit (digit value) := by
  simp [IsDigit, value?_digit small]

theorem isDigit_of_mem_pair {byte : UInt8} {char : Char} (member : char ∈ pair byte) :
    IsDigit char := by
  have bounded : byte.toNat < 256 := byte.toNat_lt
  simp only [pair, List.mem_cons, List.not_mem_nil, or_false] at member
  rcases member with rfl | rfl
  · exact isDigit_digit (by omega)
  · exact isDigit_digit (by omega)

theorem length_encode (bytes : Bytes) : (encode bytes).toList.length = 2 * bytes.length := by
  induction bytes with
  | nil => rfl
  | cons byte rest induction =>
      simp only [encode, String.toList_ofList, List.flatMap_cons, List.length_append,
        List.length_cons] at induction ⊢
      simp only [induction, pair, List.length_cons, List.length_nil]
      omega

/-- A digit is an ASCII character. -/
theorem utf8Size_eq_one_of_isDigit {char : Char} (digit : IsDigit char) : char.utf8Size = 1 := by
  apply Char.utf8Size_eq_one_iff.mpr
  apply UInt32.le_iff_toNat_le.mpr
  simp only [IsDigit, value?, Char.le_def, UInt32.le_iff_toNat_le] at digit
  split at digit
  · next bounds => exact Nat.le_trans bounds.2 (by decide)
  · split at digit
    · next bounds => exact Nat.le_trans bounds.2 (by decide)
    · split at digit
      · next bounds => exact Nat.le_trans bounds.2 (by decide)
      · cases digit

/-- A text of digits has one byte for each. -/
theorem utf8Len_eq_length_of_isDigit
    {chars : List Char}
    (digits : ∀ char ∈ chars, IsDigit char) :
    String.utf8Len chars = chars.length := by
  induction chars with
  | nil => rfl
  | cons char rest induction =>
      obtain ⟨first, others⟩ := List.forall_mem_cons.mp digits
      rw [String.utf8Len_cons, induction others, utf8Size_eq_one_of_isDigit first,
        List.length_cons]

end Hex

namespace Nonce

theorem wellFormed_generate {Source : Type} [RandomSource Source] (source : Source) :
    WellFormed (generate source).1 := by
  constructor
  · simp [generate, Hex.length_encode, width]
  · intro char member
    simp only [generate, Hex.encode, String.toList_ofList, List.mem_flatMap] at member
    obtain ⟨byte, -, written⟩ := member
    exact Hex.isDigit_of_mem_pair written

theorem WellFormed.length_utf8 {nonce : String} (formed : WellFormed nonce) :
    (utf8 nonce).length = width := by
  rw [WorkGate.length_utf8, Hex.utf8Len_eq_length_of_isDigit formed.2, formed.1]

/-- Of two byte strings that start with well-formed nonces, equal ones start with the same. -/
theorem WellFormed.append_inj
    {left right : String}
    {leftRest rightRest : Bytes}
    (leftFormed : WellFormed left)
    (rightFormed : WellFormed right)
    (same : utf8 left ++ leftRest = utf8 right ++ rightRest) :
    left = right ∧ leftRest = rightRest := by
  have sameLength : (utf8 left).length = (utf8 right).length := by
    rw [leftFormed.length_utf8, rightFormed.length_utf8]
  obtain ⟨sameNonce, sameRest⟩ := List.append_inj same sameLength
  exact ⟨utf8_injective sameNonce, sameRest⟩

end Nonce

end WorkGate
