import WorkGate.Rounding

/-!
# Parts of the least sufficient size

If a value is cut into a number of parts, each as large as the quotient rounded up, fewer parts may
already cover it.  A value above the square of one part less needs them all.
-/

namespace WorkGate

theorem ceilDiv_pos
    {value parts : Nat}
    (partsPositive : 0 < parts)
    (positive : 0 < value) :
    0 < ceilDiv value parts := by
  apply Nat.pos_of_ne_zero
  intro none
  have covered := (ceilDiv_le_iff partsPositive).mp (Nat.le_of_eq none)
  rw [Nat.zero_mul] at covered
  exact Nat.not_lt.mpr covered positive

/-- Parts of the least sufficient size are all needed if the value is large. -/
theorem ceilDiv_ceilDiv_of_sq_lt {value count : Nat} (large : count * count < value) :
    ceilDiv value (ceilDiv value (count + 1)) = count + 1 := by
  have partsPositive : 0 < count + 1 := Nat.succ_pos count
  have sizePositive : 0 < ceilDiv value (count + 1) :=
    ceilDiv_pos partsPositive (Nat.lt_of_le_of_lt (Nat.zero_le _) large)
  apply Nat.le_antisymm
  · rw [ceilDiv_le_iff sizePositive, Nat.mul_comm]
    exact (ceilDiv_le_iff partsPositive).mp (Nat.le_refl _)
  · apply Nat.not_lt.mp
    intro fewer
    have covered : value ≤ count * ceilDiv value (count + 1) :=
      (ceilDiv_le_iff sizePositive).mp (Nat.le_of_lt_succ fewer)
    rcases Nat.lt_or_ge count (ceilDiv value (count + 1)) with wide | narrow
    · -- Parts of a smaller size do not cover the value, yet `count` parts of this size do.
      obtain ⟨smaller, size_eq⟩ := Nat.exists_eq_add_of_lt wide
      have notCovered : ¬ value ≤ (count + smaller) * (count + 1) := by
        rw [← ceilDiv_le_iff partsPositive, size_eq]
        exact Nat.not_succ_le_self _
      rw [size_eq] at covered
      have enough : count * (count + smaller + 1) ≤ (count + smaller) * (count + 1) := by
        rw [Nat.mul_succ, Nat.mul_succ, Nat.mul_comm count]
        exact Nat.add_le_add_left (Nat.le_add_right count smaller) _
      exact notCovered (Nat.le_trans covered enough)
    · have small := Nat.le_trans covered (Nat.mul_le_mul_left count narrow)
      exact Nat.not_lt.mpr small large

end WorkGate
