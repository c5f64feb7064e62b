import Mathlib.Data.List.Induction
import Mathlib.Data.Nat.Digits.Defs
import WorkGate.Text.Unsigned

/-!
# Which texts are unsigned numbers

A text is read as an unsigned number exactly if it is an optional plus sign and at least one decimal
digit, and the number that the digits denote is within the limit.  The reader compares the number
with the limit after every digit; this refuses nothing else, since a further digit never makes a
number smaller.
-/

namespace WorkGate.Text

def IsDecimal (char : Char) : Prop :=
  '0' ≤ char ∧ char ≤ '9'

/-- The number that digits denote in base ten, the most significant digit first. -/
def decimal (digits : List Char) : Nat :=
  Nat.ofDigits 10 (digits.map fun digit => digit.toNat - '0'.toNat).reverse

/-- A text is an optional plus sign and decimal digits, at least one, that denote this number. -/
def Denotes (text : String) (value : Nat) : Prop :=
  ∃ digits : List Char,
    digits ≠ [] ∧ (text.toList = digits ∨ text.toList = '+' :: digits) ∧
      (∀ digit ∈ digits, IsDecimal digit) ∧ decimal digits = value

variable {limit read value : Nat} {digits : List Char}

/-- The number that digits denote behind those of a number that was read before. -/
def decimalFrom (read : Nat) (digits : List Char) : Nat :=
  digits.foldl (fun value digit => value * 10 + (digit.toNat - 48)) read

theorem decimalFrom_zero (digits : List Char) : decimalFrom 0 digits = decimal digits := by
  induction digits using List.reverseRecOn with
  | nil => rfl
  | append_singleton digits digit induction =>
      have last : decimalFrom 0 (digits ++ [digit]) =
          decimalFrom 0 digits * 10 + (digit.toNat - '0'.toNat) :=
        List.foldl_append
      rw [last, induction, decimal, decimal, List.map_append, List.map_singleton,
        List.reverse_append, List.reverse_singleton, List.singleton_append, Nat.ofDigits_cons,
        Nat.add_comm, Nat.mul_comm]

/-- A further digit never makes a number smaller. -/
theorem le_decimalFrom (read : Nat) (digits : List Char) : read ≤ decimalFrom read digits := by
  induction digits generalizing read with
  | nil => exact Nat.le_refl read
  | cons digit rest induction =>
      have next := induction (read * 10 + (digit.toNat - 48))
      rw [decimalFrom, List.foldl_cons, ← decimalFrom]
      omega

/-- Digits are read exactly if the whole number is within the limit. -/
theorem readDigits_eq_ok_iff (within : read ≤ limit) :
    readDigits limit read digits = .ok value ↔
      (∀ digit ∈ digits, IsDecimal digit) ∧ decimalFrom read digits = value ∧ value ≤ limit := by
  induction digits generalizing read with
  | nil =>
      simp only [readDigits, decimalFrom, List.foldl_nil, Except.ok.injEq]
      constructor
      · rintro rfl
        exact ⟨nofun, rfl, within⟩
      · rintro ⟨-, same, -⟩
        exact same
  | cons digit rest induction =>
      have next : decimalFrom read (digit :: rest) =
          decimalFrom (read * 10 + (digit.toNat - 48)) rest :=
        rfl
      rw [readDigits, List.forall_mem_cons, next]
      by_cases isDecimal : '0' ≤ digit ∧ digit ≤ '9'
      · rw [if_pos isDecimal]
        by_cases fits : read * 10 + (digit.toNat - 48) ≤ limit
        · rw [if_pos fits, induction fits]
          exact ⟨fun ⟨others, found⟩ => ⟨⟨isDecimal, others⟩, found⟩,
            fun ⟨⟨_, others⟩, found⟩ => ⟨others, found⟩⟩
        · rw [if_neg fits]
          constructor
          · intro refused
            cases refused
          · rintro ⟨-, rfl, small⟩
            exact absurd (Nat.le_trans (le_decimalFrom _ rest) small) fits
      · rw [if_neg isDecimal]
        constructor
        · intro refused
          cases refused
        · rintro ⟨⟨digits, -⟩, -⟩
          exact absurd digits isDecimal

theorem not_isDecimal_plus : ¬ IsDecimal '+' := by
  unfold IsDecimal
  decide

/-- Exactly the unsigned numbers within the limit are read. -/
theorem readUnsigned_eq_ok_iff {text : String} :
    readUnsigned limit text = .ok value ↔ Denotes text value ∧ value ≤ limit := by
  -- Behind a plus sign, and without one, the digits are read from zero on.
  have reads (digits : List Char) :
      readDigits limit 0 digits = .ok value ↔
        (∀ digit ∈ digits, IsDecimal digit) ∧ decimal digits = value ∧ value ≤ limit := by
    rw [readDigits_eq_ok_iff (Nat.zero_le limit), decimalFrom_zero]
  unfold readUnsigned Denotes
  split
  · next empty =>
      simp [empty]
  · next sign =>
      constructor
      · intro refused
        cases refused
      · rintro ⟨⟨digits, nonempty, same | same, decimals, -⟩, -⟩
        · exact absurd (decimals '+' (by simp [← same, sign])) not_isDecimal_plus
        · exact absurd (List.cons.inj (same.symm.trans sign)).2 nonempty
  · next read further signed =>
      rw [reads]
      constructor
      · rintro ⟨decimals, denoted, within⟩
        exact ⟨⟨read, further, .inr signed, decimals, denoted⟩, within⟩
      · rintro ⟨⟨digits, -, same | same, decimals, denoted⟩, within⟩
        · exact absurd (decimals '+' (by simp [← same, signed])) not_isDecimal_plus
        · obtain rfl := (List.cons.inj (same.symm.trans signed)).2
          exact ⟨decimals, denoted, within⟩
  · next nonempty _ unsigned =>
      rw [reads]
      constructor
      · rintro ⟨decimals, denoted, within⟩
        exact ⟨⟨text.toList, nonempty, .inl rfl, decimals, denoted⟩, within⟩
      · rintro ⟨⟨digits, -, same | same, decimals, denoted⟩, within⟩
        · exact same ▸ ⟨decimals, denoted, within⟩
        · exact absurd same (unsigned digits)

end WorkGate.Text
