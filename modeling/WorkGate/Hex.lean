import WorkGate.Bytes

/-!
# Hexadecimal text

Digits are written in upper case and read in either case.  `Hex.encode` writes each byte as two
digits, and `Hex.decode?` reads each pair of digits as a byte.  Only ASCII digits count, so the
bytes of a text can be tested without decoding it.
-/

namespace WorkGate.Hex

/-- The upper-case digit of a value below sixteen. -/
def digit (value : Nat) : Char :=
  if value < 10 then Char.ofNat (value + 48) else Char.ofNat (value + 55)

def value? (char : Char) : Option Nat :=
  if '0' ≤ char ∧ char ≤ '9' then some (char.toNat - 48)
  else if 'A' ≤ char ∧ char ≤ 'F' then some (char.toNat - 55)
  else if 'a' ≤ char ∧ char ≤ 'f' then some (char.toNat - 87)
  else none

def IsDigit (char : Char) : Prop :=
  (value? char).isSome

instance (char : Char) : Decidable (IsDigit char) :=
  inferInstanceAs (Decidable ((value? char).isSome = true))

/-- The two digits of a byte, high half first. -/
def pair (byte : UInt8) : List Char :=
  [digit (byte.toNat / 16), digit (byte.toNat % 16)]

/-- The digits of the bytes, two for each. -/
def encode (bytes : Bytes) : String :=
  String.ofList (bytes.flatMap pair)

/-- The value of the digit that a byte encodes. -/
def nibble? (byte : UInt8) : Option Nat :=
  value? (Char.ofUInt8 byte)

/-- Whether all bytes encode digits. -/
def areDigits (bytes : Bytes) : Bool :=
  bytes.all fun byte => (nibble? byte).isSome

/-- Reads a byte from each pair of digits, if all are digits and none is left over. -/
def decode? : Bytes → Option Bytes
  | [] => some []
  | [_] => none
  | high :: low :: rest =>
      match nibble? high, nibble? low, decode? rest with
      | some high, some low, some bytes => some (UInt8.ofNat (high * 16 + low) :: bytes)
      | _, _, _ => none

/-- The text with zeros before it, up to `width` characters. -/
def zeroFilled (width : Nat) (text : String) : String :=
  String.ofList (List.leftpad width '0' text.toList)

theorem value?_le {char : Char} {value : Nat} (read : value? char = some value) :
    char.toNat ≤ 102 ∧ value < 16 := by
  simp only [value?, Char.le_def, UInt32.le_iff_toNat_le] at read
  split at read
  · next bounds =>
      have upper : char.toNat ≤ 57 := bounds.2
      cases read; omega
  · split at read
    · next bounds =>
        have upper : char.toNat ≤ 70 := bounds.2
        cases read; omega
    · split at read
      · next bounds =>
          have upper : char.toNat ≤ 102 := bounds.2
          cases read; omega
      · cases read

/-- Each of the sixteen digits is read as its own value. -/
theorem value?_digit {value : Nat} (small : value < 16) : value? (digit value) = some value := by
  rcases value with _ | _ | _ | _ | _ | _ | _ | _ | _ | _ | _ | _ | _ | _ | _ | _ | value
  all_goals first | rfl | omega

/-- Every byte takes two digits. -/
theorem length_of_decode? {text bytes : Bytes} (decoded : decode? text = some bytes) :
    text.length = 2 * bytes.length := by
  fun_induction decode? text generalizing bytes with
  | case1 =>
      obtain rfl := Option.some.inj decoded
      rfl
  | case2 => cases decoded
  | case3 high low rest highValue lowValue later found _ _ induction =>
      obtain rfl := Option.some.inj decoded
      have counted := induction found
      simp only [List.length_cons]
      omega
  | case4 => cases decoded

/-- At most 64 digits make at most 32 bytes. -/
theorem length_le_of_decode?
    {text bytes : Bytes}
    (decoded : decode? text = some bytes)
    (short : text.length ≤ 64) :
    bytes.length ≤ 32 := by
  have twice := length_of_decode? decoded
  omega

/-- Digits are ASCII, so they have no more bytes than characters. -/
theorem length_utf8_le {text : String} (digits : areDigits (utf8 text)) :
    (utf8 text).length ≤ text.toList.length := by
  rw [utf8_eq_flatMap] at digits ⊢
  generalize text.toList = chars at digits ⊢
  induction chars with
  | nil => exact Nat.le_refl 0
  | cons char rest induction =>
      rw [List.flatMap_cons, areDigits, List.all_append, Bool.and_eq_true] at digits
      have others := induction digits.2
      rcases utf8EncodeChar_cases char with ⟨-, encoded⟩ | beyond
      · rw [List.flatMap_cons, encoded, List.singleton_append, List.length_cons, List.length_cons]
        omega
      · -- A first byte beyond ASCII is no digit.
        cases encoded : String.utf8EncodeChar char with
        | nil =>
            rw [List.flatMap_cons, encoded, List.nil_append, List.length_cons]
            omega
        | cons first _ =>
            rw [encoded, List.all_cons, Bool.and_eq_true] at digits
            obtain ⟨value, read⟩ := Option.isSome_iff_exists.mp digits.1.1
            have ascii : first.toNat ≤ 102 := (value?_le read).1
            have notAscii := beyond first (encoded ▸ List.mem_cons_self)
            omega

/-- Digits that are filled up with zeros have no more than `width` bytes. -/
theorem length_utf8_zeroFilled_le
    {width : Nat}
    {text : String}
    (short : text.utf8ByteSize ≤ width)
    (digits : areDigits (utf8 text)) :
    (utf8 (zeroFilled width text)).length ≤ width := by
  have bytes : (utf8 text).length ≤ width := short
  have chars := length_utf8_le digits
  rw [utf8_eq_flatMap] at bytes chars
  rw [utf8_eq_flatMap, zeroFilled, String.toList_ofList, List.leftpad, List.flatMap_append,
    List.length_append, List.flatMap_replicate, List.length_flatten]
  have one : (String.utf8EncodeChar '0').length = 1 := by decide
  simp only [List.map_replicate, one, List.sum_replicate_nat]
  omega

end WorkGate.Hex
