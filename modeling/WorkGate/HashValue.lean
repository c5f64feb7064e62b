import WorkGate.Hex

/-!
# 256-bit hash values

A hash value is a number below `2 ^ 256`.  It is read from 1 to 64 hexadecimal digits of either
case and always written as 64 upper-case digits.  The bound is part of the type, so nothing that
handles a hash value has to check it.
-/

namespace WorkGate

/-- A number of 256 bits. -/
structure HashValue where
  toNat : Nat
  /-- The number has at most 256 bits. -/
  toNat_lt : toNat < 0x10000000000000000000000000000000000000000000000000000000000000000
deriving DecidableEq

namespace HashValue

@[ext]
theorem ext {left right : HashValue} (same : left.toNat = right.toNat) : left = right := by
  cases left; cases right; simp_all

instance : Inhabited HashValue :=
  ⟨⟨0, by omega⟩⟩

instance : LE HashValue :=
  ⟨fun left right => left.toNat ≤ right.toNat⟩

instance (left right : HashValue) : Decidable (left ≤ right) :=
  inferInstanceAs (Decidable (left.toNat ≤ right.toNat))

instance : Ord HashValue :=
  ⟨fun left right => compare left.toNat right.toNat⟩

def width : Nat := 64

/-- The number of at most 32 bytes. -/
def ofBytes (bytes : Bytes) (short : bytes.length ≤ 32) : HashValue where
  toNat := Bytes.toNat bytes
  toNat_lt :=
    calc
      Bytes.toNat bytes < Nat.pow 256 bytes.length := Bytes.toNat_lt bytes
      _ ≤ Nat.pow 256 32 := Nat.pow_le_pow_right (by omega) short
      _ = 0x10000000000000000000000000000000000000000000000000000000000000000 := by decide +kernel

/--
Reads a nonempty text of at most 64 digits, counted in bytes: with zeros before it the text is
decoded in pairs, and the bytes are read as one number.
-/
def ofHex? (text : String) : Option HashValue :=
  if spelled : text.utf8ByteSize ≠ 0 ∧ text.utf8ByteSize ≤ width ∧ Hex.areDigits (utf8 text) then
    match decoded : Hex.decode? (utf8 (Hex.zeroFilled width text)) with
    | some bytes =>
        some
          (ofBytes bytes
            (Hex.length_le_of_decode? decoded
              (Hex.length_utf8_zeroFilled_le spelled.2.1 spelled.2.2)))
    | none => none
  else none

/-- The digits of the 32 bytes of a hash value. -/
def toHex (value : HashValue) : String :=
  Hex.encode (Bytes.ofNat 32 value.toNat)

instance : ToString HashValue :=
  ⟨toHex⟩

/-- The greatest hash value that starts with `zeros` zero bits. -/
def leadingZeros (zeros : Nat) : HashValue where
  toNat := 0xFFFFFFFFFFFFFFFFFFFFFFFFFFFFFFFFFFFFFFFFFFFFFFFFFFFFFFFFFFFFFFFF >>> zeros
  toNat_lt := Nat.lt_of_le_of_lt (Nat.shiftRight_le _ _) (by decide)

end HashValue

end WorkGate
