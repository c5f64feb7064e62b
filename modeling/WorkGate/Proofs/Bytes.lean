import Mathlib.Data.List.Induction
import WorkGate.Bytes

/-!
# Byte strings as numbers

A text is encoded part by part.  A byte string stands for one number, the number determines the
bytes once their count is known, and the bytes that are written for a number stand for it as far as
they reach.
-/

namespace WorkGate

theorem utf8_append (left right : String) : utf8 (left ++ right) = utf8 left ++ utf8 right := by
  simp only [utf8_eq_flatMap, String.toList_append, List.flatMap_append]

namespace Bytes

theorem toNat_concat (bytes : Bytes) (byte : UInt8) :
    Bytes.toNat (bytes ++ [byte]) = Bytes.toNat bytes * 256 + byte.toNat :=
  List.foldl_append

/-- Byte strings of one length that stand for the same number are the same. -/
theorem eq_of_toNat_eq
    {left right : Bytes}
    (sameLength : left.length = right.length)
    (same : Bytes.toNat left = Bytes.toNat right) :
    left = right := by
  induction left using List.reverseRecOn generalizing right with
  | nil => exact (List.length_eq_zero_iff.mp sameLength.symm).symm
  | append_singleton left byte induction =>
      rcases List.eq_nil_or_concat right with rfl | ⟨front, last, rfl⟩
      · simp at sameLength
      · rw [List.concat_eq_append] at sameLength same ⊢
        have byteSmall := byte.toNat_lt
        have lastSmall := last.toNat_lt
        rw [toNat_concat, toNat_concat] at same
        have sameFront : left = front := induction (by simpa using sameLength) (by omega)
        have sameLast : byte = last := UInt8.toNat_inj.mp (by omega)
        rw [sameFront, sameLast]

/-- The last bytes of a number stand for what is left of it. -/
theorem toNat_ofNat (count value : Nat) :
    Bytes.toNat (ofNat count value) = value % Nat.pow 256 count := by
  induction count generalizing value with
  | zero => exact (Nat.mod_one value).symm
  | succ count induction =>
      have grown : Nat.pow 256 (count + 1) = Nat.pow 256 count * 256 := rfl
      have last : (UInt8.ofNat value).toNat = value % 256 := UInt8.toNat_ofNat'
      rw [ofNat, toNat_concat, induction, last, grown, Nat.mul_comm (Nat.pow 256 count),
        Nat.mod_mul, Nat.mul_comm 256, Nat.add_comm]

end Bytes

end WorkGate
