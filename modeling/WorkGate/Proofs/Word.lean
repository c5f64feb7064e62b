import WorkGate.HashValue

/-!
# Checked arithmetic on machine words

Arithmetic on unsigned words of a fixed width.  An operation whose exact result does not fit into
its width, and a division by zero, give nothing; the saturating operations give the nearest word
instead.  For each operation there is one lemma: within the stated bounds there is a result, and it
is the exact one.
-/

namespace WorkGate

namespace Word

variable {bits : Nat}

def add? (left right : BitVec bits) : Option (BitVec bits) :=
  if left.uaddOverflow right then none else some (left + right)

def sub? (left right : BitVec bits) : Option (BitVec bits) :=
  if left.usubOverflow right then none else some (left - right)

def mul? (left right : BitVec bits) : Option (BitVec bits) :=
  if left.umulOverflow right then none else some (left * right)

def div? (left right : BitVec bits) : Option (BitVec bits) :=
  if right = BitVec.ofNat bits 0 then none else some (left / right)

def rem? (left right : BitVec bits) : Option (BitVec bits) :=
  if right = BitVec.ofNat bits 0 then none else some (left % right)

/-- The same number in another width. -/
def convert? (target : Nat) (word : BitVec bits) : Option (BitVec target) :=
  let converted := word.setWidth target
  if converted.toNat = word.toNat then some converted else none

/-- The product of two words in twice their width. -/
def fullMul? (left right : BitVec 256) : Option (BitVec 512) :=
  mul? (left.setWidth 512) (right.setWidth 512)

def ofUInt64 (bits : Nat) (value : UInt64) : BitVec bits :=
  value.toBitVec.setWidth bits

def saturatingAdd (left right : BitVec bits) : BitVec bits :=
  (add? left right).getD (BitVec.allOnes bits)

def saturatingSub (left right : BitVec bits) : BitVec bits :=
  (sub? left right).getD (BitVec.ofNat bits 0)

def least (left right : BitVec bits) : BitVec bits :=
  if left.toNat ≤ right.toNat then left else right

def greatest (left right : BitVec bits) : BitVec bits :=
  if left.toNat ≤ right.toNat then right else left

theorem bind_of_eq_some
    {Value Result : Type}
    {step : Option Value}
    {rest : Value → Option Result}
    {value : Value}
    (done : step = some value) :
    step >>= rest = rest value := by
  rw [done]
  rfl

variable {left right bound : BitVec bits}

theorem exists_add?_eq_some (fits : ¬ left.uaddOverflow right) :
    ∃ sum, add? left right = some sum ∧ sum.toNat = left.toNat + right.toNat :=
  ⟨left + right, if_neg fits, BitVec.toNat_add_of_not_uaddOverflow fits⟩

theorem exists_sub?_eq_some (ordered : right.toNat ≤ left.toNat) :
    ∃ difference,
      sub? left right = some difference ∧ difference.toNat = left.toNat - right.toNat := by
  have fits : ¬ left.usubOverflow right := by
    simpa [BitVec.usubOverflow] using ordered
  exact ⟨left - right, if_neg fits, BitVec.toNat_sub_of_not_usubOverflow fits⟩

theorem exists_mul?_eq_some (fits : ¬ left.umulOverflow right) :
    ∃ product, mul? left right = some product ∧ product.toNat = left.toNat * right.toNat :=
  ⟨left * right, if_neg fits, BitVec.toNat_mul_of_not_umulOverflow fits⟩

/-- Twice the width holds every product. -/
theorem not_umulOverflow_setWidth (left right : BitVec bits) :
    ¬ (left.setWidth (bits + bits)).umulOverflow (right.setWidth (bits + bits)) := by
  have widened (word : BitVec bits) : (word.setWidth (bits + bits)).toNat = word.toNat :=
    BitVec.toNat_setWidth_of_le (Nat.le_add_right bits bits)
  simp only [BitVec.umulOverflow, widened, ge_iff_le, decide_eq_true_eq, Nat.not_le]
  rw [Nat.pow_add]
  exact Nat.mul_lt_mul'' left.isLt right.isLt

theorem exists_fullMul?_eq_some (left right : BitVec 256) :
    ∃ product, fullMul? left right = some product ∧ product.toNat = left.toNat * right.toNat := by
  have widened (word : BitVec 256) : (word.setWidth 512).toNat = word.toNat :=
    BitVec.toNat_setWidth_of_le (by decide)
  obtain ⟨product, multiplied, exact_product⟩ :=
    exists_mul?_eq_some (not_umulOverflow_setWidth left right)
  exact ⟨product, multiplied, by rw [exact_product, widened, widened]⟩

@[simp]
theorem toNat_ofUInt64 (wide : 64 ≤ bits) (value : UInt64) :
    (ofUInt64 bits value).toNat = value.toNat :=
  BitVec.toNat_setWidth_of_le wide

theorem ne_zero_of_toNat_pos (positive : 0 < right.toNat) : right ≠ BitVec.ofNat bits 0 := by
  rintro rfl
  simp at positive

theorem exists_div?_eq_some (left : BitVec bits) (positive : 0 < right.toNat) :
    ∃ quotient, div? left right = some quotient ∧ quotient.toNat = left.toNat / right.toNat :=
  ⟨left / right, if_neg (ne_zero_of_toNat_pos positive), BitVec.toNat_udiv⟩

theorem exists_rem?_eq_some (left : BitVec bits) (positive : 0 < right.toNat) :
    ∃ remainder,
      rem? left right = some remainder ∧ remainder.toNat = left.toNat % right.toNat :=
  ⟨left % right, if_neg (ne_zero_of_toNat_pos positive), BitVec.toNat_umod⟩

theorem exists_div?_ofUInt64_eq_some
    (wide : 64 ≤ bits)
    (left : BitVec bits)
    {divisor : UInt64}
    (positive : 0 < divisor.toNat) :
    ∃ quotient,
      div? left (ofUInt64 bits divisor) = some quotient ∧
        quotient.toNat = left.toNat / divisor.toNat := by
  rw [← toNat_ofUInt64 wide divisor] at positive ⊢
  exact exists_div?_eq_some left positive

theorem exists_rem?_ofUInt64_eq_some
    (wide : 64 ≤ bits)
    (left : BitVec bits)
    {divisor : UInt64}
    (positive : 0 < divisor.toNat) :
    ∃ remainder,
      rem? left (ofUInt64 bits divisor) = some remainder ∧
        remainder.toNat = left.toNat % divisor.toNat := by
  rw [← toNat_ofUInt64 wide divisor] at positive ⊢
  exact exists_rem?_eq_some left positive

/-- A number fits into a width if it is at most a word of that width. -/
theorem exists_convert?_eq_some
    {target : Nat}
    {limit : BitVec target}
    {word : BitVec bits}
    (small : word.toNat ≤ limit.toNat) :
    ∃ converted, convert? target word = some converted ∧ converted.toNat = word.toNat := by
  have kept : (word.setWidth target).toNat = word.toNat := by
    rw [BitVec.toNat_setWidth]
    exact Nat.mod_eq_of_lt (Nat.lt_of_le_of_lt small limit.isLt)
  exact ⟨word.setWidth target, if_pos kept, kept⟩

theorem toNat_least : (least left right).toNat = min left.toNat right.toNat := by
  unfold least
  split
  · next ordered => exact (Nat.min_eq_left ordered).symm
  · next ordered => exact (Nat.min_eq_right (Nat.le_of_not_le ordered)).symm

theorem toNat_greatest : (greatest left right).toNat = max left.toNat right.toNat := by
  unfold greatest
  split
  · next ordered => exact (Nat.max_eq_right ordered).symm
  · next ordered => exact (Nat.max_eq_left (Nat.le_of_not_le ordered)).symm

theorem toNat_saturatingSub : (saturatingSub left right).toNat = left.toNat - right.toNat := by
  rcases Nat.lt_or_ge left.toNat right.toNat with less | ordered
  · have overflow : left.usubOverflow right := by
      simpa [BitVec.usubOverflow] using less
    simp only [saturatingSub, sub?, if_pos overflow, Option.getD_none, BitVec.toNat_ofNat,
      Nat.zero_mod]
    omega
  · obtain ⟨difference, subtracted, exact_difference⟩ := exists_sub?_eq_some ordered
    rw [saturatingSub, subtracted, Option.getD_some, exact_difference]

/-- Below a bound of the same width a saturating sum is the exact one. -/
theorem min_toNat_saturatingAdd :
    min (saturatingAdd left right).toNat bound.toNat =
      min (left.toNat + right.toNat) bound.toNat := by
  by_cases overflow : left.uaddOverflow right
  · have boundSmall := bound.isLt
    simp only [saturatingAdd, add?, if_pos overflow, Option.getD_none, BitVec.toNat_allOnes]
    simp only [BitVec.uaddOverflow, ge_iff_le, decide_eq_true_eq] at overflow
    omega
  · obtain ⟨sum, added, exact_sum⟩ := exists_add?_eq_some overflow
    rw [saturatingAdd, added, Option.getD_some, exact_sum]

end Word

namespace HashValue

def toWord (value : HashValue) : BitVec 256 :=
  BitVec.ofNat 256 value.toNat

def ofWord (word : BitVec 256) : HashValue where
  toNat := word.toNat
  toNat_lt := word.isLt

@[simp]
theorem toNat_toWord (value : HashValue) : value.toWord.toNat = value.toNat :=
  Nat.mod_eq_of_lt value.toNat_lt

@[simp]
theorem toNat_ofWord (word : BitVec 256) : (ofWord word).toNat = word.toNat :=
  rfl

end HashValue

end WorkGate
