/-!
# Quotients rounded up

`ceilDiv` rounds a quotient of natural numbers up.  It never exceeds the dividend, and it is the
least number of parts of the given size that cover the dividend.
-/

namespace WorkGate

/-- A quotient rounded up. -/
def ceilDiv (value parts : Nat) : Nat :=
  value / parts + if value % parts = 0 then 0 else 1

theorem ceilDiv_le_self {value parts : Nat} (positive : 0 < parts) :
    ceilDiv value parts ≤ value := by
  unfold ceilDiv
  split
  · simpa using Nat.div_le_self value parts
  · next remains =>
      have partsNotOne : parts ≠ 1 := by
        rintro rfl
        exact remains (Nat.mod_one value)
      have valuePositive : 0 < value := by
        rcases Nat.eq_zero_or_pos value with rfl | positive
        · simp at remains
        · exact positive
      have smaller : value / parts < value := Nat.div_lt_self valuePositive (by omega)
      omega

/-- The quotient rounded up is within a bound exactly when the dividend is within as many parts. -/
theorem ceilDiv_le_iff {value parts bound : Nat} (positive : 0 < parts) :
    ceilDiv value parts ≤ bound ↔ value ≤ bound * parts := by
  have parted : parts * (value / parts) + value % parts = value := Nat.div_add_mod value parts
  have small : value % parts < parts := Nat.mod_lt value positive
  unfold ceilDiv
  constructor
  · intro within
    split at within
    · have product : parts * (value / parts) ≤ parts * bound := Nat.mul_le_mul_left _ (by omega)
      rw [Nat.mul_comm bound]
      omega
    · have product : parts * (value / parts + 1) ≤ parts * bound :=
        Nat.mul_le_mul_left _ (by omega)
      rw [Nat.mul_comm bound]
      rw [Nat.mul_add] at product
      omega
  · intro within
    have quotient : value / parts ≤ bound := by
      have divided := Nat.div_le_div_right (c := parts) within
      rwa [Nat.mul_div_cancel _ positive] at divided
    split
    · omega
    · next remains =>
        have below : value / parts ≠ bound := by
          rintro rfl
          rw [Nat.mul_comm] at within
          omega
        omega

end WorkGate
