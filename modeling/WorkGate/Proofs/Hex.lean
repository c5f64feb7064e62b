import Mathlib.Data.List.Induction
import Mathlib.Data.Nat.Digits.Defs
import WorkGate.Hex
import WorkGate.Proofs.Bytes

/-!
# Hexadecimal digits of either case

Reading digits one after the other, and writing them one after the other, specifies what is done in
pairs of digits.  Decoding the pairs of a text leads to the number that its digits are read as, and
encoding bytes leads to the digits of the number that the bytes stand for.

A digit is read as its place in the alphabet of the sixteen upper-case digits, whatever its case.  A
text is read as a number exactly if it consists of digits, and the number is the one that the text
denotes in base sixteen.

What is written for a number that was read are the digits it was read from, in upper case.  With
more digits than it needs a number starts with zeros, and numbers that are written with the same
count of digits are ordered as their digits are.
-/

namespace WorkGate.Hex

/-! ## Upper case -/

/-- A digit that is not a lower-case letter. -/
def IsUpperDigit (char : Char) : Prop :=
  ('0' ≤ char ∧ char ≤ '9') ∨ ('A' ≤ char ∧ char ≤ 'F')

theorem isDigit_iff {char : Char} :
    IsDigit char ↔ IsUpperDigit char ∨ ('a' ≤ char ∧ char ≤ 'f') := by
  simp only [IsDigit, value?, IsUpperDigit]
  grind

theorem toUpper_of_isUpperDigit {char : Char} (upper : IsUpperDigit char) :
    char.toUpper = char := by
  have low : char ≤ 'F' := by
    rcases upper with ⟨-, below⟩ | ⟨-, below⟩
    · exact Char.le_trans below (by decide)
    · exact below
  have notLower : ¬ ('a'.val ≤ char.val ∧ char.val ≤ 'z'.val) := by
    rintro ⟨above, -⟩
    exact absurd (Char.le_trans (Char.le_def.mpr above) low) (by decide)
  exact dif_neg notLower

theorem toNat_toUpper_of_lower {char : Char} (above : 'a' ≤ char) (below : char ≤ 'z') :
    char.toUpper.toNat + 32 = char.toNat := by
  rw [Char.le_def] at above below
  have bounds : 97 ≤ char.val.toNat ∧ char.val.toNat ≤ 122 :=
    ⟨UInt32.le_iff_toNat_le.mp above, UInt32.le_iff_toNat_le.mp below⟩
  have offset : ('A'.val - 'a'.val).toNat = 4294967264 := by decide
  have shifted : char.toUpper.val = char.val + ('A'.val - 'a'.val) := by
    change (dite ('a'.val ≤ char.val ∧ char.val ≤ 'z'.val) _ _ : Char).val = _
    rw [dif_pos (And.intro above below)]
  simp only [Char.toNat, shifted, UInt32.toNat_add, offset]
  omega

theorem isUpperDigit_toUpper {char : Char} (digit : IsDigit char) : IsUpperDigit char.toUpper := by
  rcases isDigit_iff.mp digit with upper | ⟨above, below⟩
  · rw [toUpper_of_isUpperDigit upper]
    exact upper
  · have shifted := toNat_toUpper_of_lower above (Char.le_trans below (by decide))
    have least : 97 ≤ char.toNat := UInt32.le_iff_toNat_le.mp (Char.le_def.mp above)
    have most : char.toNat ≤ 102 := UInt32.le_iff_toNat_le.mp (Char.le_def.mp below)
    right
    constructor
    · exact Char.le_def.mpr (UInt32.le_iff_toNat_le.mpr (show 65 ≤ char.toUpper.toNat by omega))
    · exact Char.le_def.mpr (UInt32.le_iff_toNat_le.mpr (show char.toUpper.toNat ≤ 70 by omega))

/-- A digit is written in upper case, whatever its case was when it was read. -/
theorem digit_of_value? {char : Char} {value : Nat} (read : value? char = some value) :
    digit value = char.toUpper := by
  simp only [value?] at read
  split at read
  · next bounds =>
      have least : 48 ≤ char.toNat := UInt32.le_iff_toNat_le.mp (Char.le_def.mp bounds.1)
      have most : char.toNat ≤ 57 := UInt32.le_iff_toNat_le.mp (Char.le_def.mp bounds.2)
      obtain rfl := Option.some.inj read
      rw [toUpper_of_isUpperDigit (Or.inl bounds), digit, if_pos (by omega),
        Nat.sub_add_cancel least, Char.ofNat_toNat]
  · split at read
    · next bounds =>
        have least : 65 ≤ char.toNat := UInt32.le_iff_toNat_le.mp (Char.le_def.mp bounds.1)
        obtain rfl := Option.some.inj read
        rw [toUpper_of_isUpperDigit (Or.inr bounds), digit, if_neg (by omega),
          Nat.sub_add_cancel (by omega), Char.ofNat_toNat]
    · split at read
      · next bounds =>
          have least : 97 ≤ char.toNat := UInt32.le_iff_toNat_le.mp (Char.le_def.mp bounds.1)
          have shifted :=
            toNat_toUpper_of_lower bounds.1 (Char.le_trans bounds.2 (by decide))
          have code : char.toNat - 87 + 55 = char.toUpper.toNat := by omega
          obtain rfl := Option.some.inj read
          rw [digit, if_neg (by omega), code, Char.ofNat_toNat]
      · cases read

/-! ## Digits one after the other -/

/-- The last `count` digits of a number. -/
def digits : (count value : Nat) → List Char
  | 0, _ => []
  | count + 1, value => digits count (value / 16) ++ [digit (value % 16)]

/-- Reads further digits after the number read so far. -/
def readFrom : (total : Nat) → List Char → Option Nat
  | total, [] => some total
  | total, char :: rest =>
      match value? char with
      | some value => readFrom (total * 16 + value) rest
      | none => none

/-- The number a text of digits stands for; the empty text stands for zero. -/
def toNat? (text : String) : Option Nat :=
  readFrom 0 text.toList

@[simp]
theorem length_digits (count value : Nat) : (digits count value).length = count := by
  induction count generalizing value with
  | zero => rfl
  | succ count induction => simp [digits, induction]

theorem readFrom_append (total : Nat) (left right : List Char) :
    readFrom total (left ++ right) =
      (readFrom total left).bind fun read => readFrom read right := by
  induction left generalizing total with
  | nil => rfl
  | cons char rest induction =>
      simp only [List.cons_append, readFrom]
      cases value? char with
      | none => rfl
      | some value => exact induction (total * 16 + value)

/-- Reading `n` digits multiplies what was read by `16 ^ n` and stays below the next multiple. -/
theorem readFrom_lt
    {total bound value : Nat}
    {text : List Char}
    (small : total < bound)
    (read : readFrom total text = some value) :
    value < bound * Nat.pow 16 text.length := by
  induction text generalizing total bound with
  | nil => simp_all [readFrom]
  | cons char rest induction =>
      simp only [readFrom] at read
      split at read
      · next digitValue digitRead =>
          have digitSmall := (value?_le digitRead).2
          have grown : total * 16 + digitValue < bound * 16 := by omega
          have next := induction grown read
          simpa [Nat.pow_succ, Nat.mul_assoc, Nat.mul_comm 16] using next
      · cases read

/-- Digits that are read after a number are appended to it. -/
theorem readFrom_digits (total count value : Nat) :
    readFrom total (digits count value) =
      some (total * Nat.pow 16 count + value % Nat.pow 16 count) := by
  induction count generalizing value with
  | zero => simp [digits, readFrom, Nat.mod_one]
  | succ count induction =>
      have small : value % 16 < 16 := Nat.mod_lt _ (by decide)
      have grown : Nat.pow 16 (count + 1) = Nat.pow 16 count * 16 := rfl
      have split :
          value % (Nat.pow 16 count * 16) = value / 16 % Nat.pow 16 count * 16 + value % 16 := by
        rw [Nat.mul_comm, Nat.mod_mul]
        omega
      rw [digits, readFrom_append, induction, Option.bind_some, readFrom, value?_digit small]
      simp only [readFrom, grown, split, Nat.add_mul, Nat.mul_assoc, Nat.add_assoc]

theorem digits_zero (count : Nat) : digits count 0 = List.replicate count '0' := by
  induction count with
  | zero => rfl
  | succ count induction =>
      rw [digits, Nat.zero_div, Nat.zero_mod, induction, List.replicate_succ']
      rfl

/-- Zeros before a text do not count. -/
theorem toNat?_zeroFilled (width : Nat) (text : String) :
    toNat? (zeroFilled width text) = toNat? text := by
  rw [toNat?, zeroFilled, String.toList_ofList, List.leftpad, ← digits_zero, readFrom_append,
    readFrom_digits, Nat.zero_mod, Nat.zero_mul, Option.bind_some]
  rfl

/-! ## The number that a text denotes -/

/-- The digits in upper case, each at the place of its value. -/
def alphabet : List Char :=
  ['0', '1', '2', '3', '4', '5', '6', '7', '8', '9', 'A', 'B', 'C', 'D', 'E', 'F']

/-- The value of a digit of either case: its place in the alphabet. -/
def weight (char : Char) : Nat :=
  alphabet.idxOf char.toUpper

/-- The number that digits denote in base sixteen, the most significant digit first. -/
def denoted (text : List Char) : Nat :=
  Nat.ofDigits 16 (text.map weight).reverse

theorem idxOf_digit {value : Nat} (small : value < 16) : alphabet.idxOf (digit value) = value := by
  rcases value with _ | _ | _ | _ | _ | _ | _ | _ | _ | _ | _ | _ | _ | _ | _ | _ | value
  all_goals first | rfl | omega

theorem weight_of_value? {char : Char} {value : Nat} (read : value? char = some value) :
    weight char = value := by
  rw [weight, ← digit_of_value? read, idxOf_digit ((value?_le read).2)]

theorem denoted_concat (text : List Char) (char : Char) :
    denoted (text ++ [char]) = denoted text * 16 + weight char := by
  rw [denoted, List.map_append, List.map_singleton, List.reverse_append, List.reverse_singleton,
    List.singleton_append, Nat.ofDigits_cons, ← denoted, Nat.add_comm, Nat.mul_comm]

/-- One more digit is read after the number read before it. -/
theorem readFrom_concat_eq_some_iff {text : List Char} {char : Char} {value : Nat} :
    readFrom 0 (text ++ [char]) = some value ↔
      ∃ earlier last,
        readFrom 0 text = some earlier ∧ value? char = some last ∧
          earlier * 16 + last = value := by
  rw [readFrom_append, Option.bind_eq_some_iff]
  constructor
  · rintro ⟨earlier, before, read⟩
    cases found : value? char with
    | none =>
        rw [readFrom, found] at read
        cases read
    | some last =>
        rw [readFrom, found] at read
        exact ⟨earlier, last, before, rfl, Option.some.inj read⟩
  · rintro ⟨earlier, last, before, found, rfl⟩
    exact ⟨earlier, before, by simp only [readFrom, found]⟩

/-- A text is read as a number exactly if it consists of digits. -/
theorem exists_readFrom_iff {text : List Char} :
    (∃ value, readFrom 0 text = some value) ↔ ∀ char ∈ text, IsDigit char := by
  induction text using List.reverseRecOn with
  | nil => simp [readFrom]
  | append_singleton text char induction =>
      rw [List.forall_mem_append, List.forall_mem_singleton, ← induction]
      constructor
      · rintro ⟨value, read⟩
        obtain ⟨earlier, last, before, found, -⟩ := readFrom_concat_eq_some_iff.mp read
        exact ⟨⟨earlier, before⟩, Option.isSome_iff_exists.mpr ⟨last, found⟩⟩
      · rintro ⟨⟨earlier, before⟩, digit⟩
        obtain ⟨last, found⟩ := Option.isSome_iff_exists.mp digit
        exact ⟨_, readFrom_concat_eq_some_iff.mpr ⟨earlier, last, before, found, rfl⟩⟩

theorem eq_denoted_of_readFrom {text : List Char} {value : Nat}
    (read : readFrom 0 text = some value) :
    value = denoted text := by
  induction text using List.reverseRecOn generalizing value with
  | nil => exact (Option.some.inj read).symm
  | append_singleton text char induction =>
      obtain ⟨earlier, last, before, found, rfl⟩ := readFrom_concat_eq_some_iff.mp read
      rw [denoted_concat, ← induction before, weight_of_value? found]

/-! ## Writing what was read -/

/-- As many digits as were read are the digits that were read, in upper case. -/
theorem digits_of_readFrom {text : List Char} {value : Nat}
    (read : readFrom 0 text = some value) :
    digits text.length value = text.map Char.toUpper := by
  induction text using List.reverseRecOn generalizing value with
  | nil => rfl
  | append_singleton text char induction =>
      obtain ⟨earlier, last, before, found, rfl⟩ := readFrom_concat_eq_some_iff.mp read
      have small := (value?_le found).2
      have front : (earlier * 16 + last) / 16 = earlier := by omega
      have back : (earlier * 16 + last) % 16 = last := by omega
      rw [List.length_append, List.length_singleton, digits, front, back, induction before,
        digit_of_value? found, List.map_append, List.map_singleton]

/-- Digits that a number does not need are zeros. -/
theorem digits_add
    {count value : Nat}
    (small : value < Nat.pow 16 count)
    (extra : Nat) :
    digits (extra + count) value = List.replicate extra '0' ++ digits count value := by
  induction count generalizing value with
  | zero =>
      have zero : value = 0 := Nat.lt_one_iff.mp small
      rw [zero, Nat.add_zero, digits_zero, digits, List.append_nil]
  | succ count induction =>
      have grown : Nat.pow 16 (count + 1) = Nat.pow 16 count * 16 := rfl
      have front : value / 16 < Nat.pow 16 count := by omega
      rw [← Nat.add_assoc, digits, induction front, digits, List.append_assoc]

theorem isDigit_of_mem_digits {count value : Nat} {char : Char}
    (member : char ∈ digits count value) :
    IsDigit char := by
  induction count generalizing value with
  | zero => cases member
  | succ count induction =>
      rcases List.mem_append.mp member with front | last
      · exact induction front
      · rw [List.mem_singleton.mp last, IsDigit, value?_digit (Nat.mod_lt _ (by decide))]
        rfl

/-! ## Pairs of digits -/

/-- The byte that a digit is encoded as. -/
def byte (char : Char) : UInt8 :=
  UInt8.ofNat char.toNat

theorem nibble?_byte {char : Char} (ascii : char.toNat < 0x80) :
    nibble? (byte char) = value? char := by
  have same : Char.ofUInt8 (byte char) = char := by
    apply Char.ext
    apply UInt32.toNat_inj.mp
    change (byte char).toUInt32.toNat = char.toNat
    rw [UInt8.toNat_toUInt32, byte, UInt8.toNat_ofNat', Nat.mod_eq_of_lt (by omega)]
  rw [nibble?, same]

theorem toNat_lt_of_isDigit {char : Char} (digit : IsDigit char) : char.toNat < 0x80 := by
  obtain ⟨value, read⟩ := Option.isSome_iff_exists.mp digit
  have low := (value?_le read).1
  omega

/-- A digit is encoded as one byte. -/
theorem utf8EncodeChar_of_isDigit {char : Char} (digit : IsDigit char) :
    String.utf8EncodeChar char = [byte char] := by
  have ascii : char.val.toNat < 0x80 := toNat_lt_of_isDigit digit
  exact if_pos (by omega)

theorem flatMap_utf8EncodeChar_of_isDigit
    {text : List Char}
    (digits : ∀ char ∈ text, IsDigit char) :
    text.flatMap String.utf8EncodeChar = text.map byte := by
  induction text with
  | nil => rfl
  | cons char rest induction =>
      obtain ⟨first, others⟩ := List.forall_mem_cons.mp digits
      rw [List.flatMap_cons, utf8EncodeChar_of_isDigit first, induction others, List.map_cons,
        List.singleton_append]

theorem utf8_of_isDigit {text : String} (digits : ∀ char ∈ text.toList, IsDigit char) :
    utf8 text = text.toList.map byte := by
  rw [utf8_eq_flatMap, flatMap_utf8EncodeChar_of_isDigit digits]

/-- Exactly the texts of digits have bytes that encode digits. -/
theorem areDigits_utf8_iff {text : String} :
    areDigits (utf8 text) ↔ ∀ char ∈ text.toList, IsDigit char := by
  rw [areDigits, List.all_eq_true, utf8_eq_flatMap]
  constructor
  · intro encoded char member
    have bytes (byte : UInt8) (mine : byte ∈ String.utf8EncodeChar char) : (nibble? byte).isSome :=
      encoded byte (List.mem_flatMap_of_mem member mine)
    rcases utf8EncodeChar_cases char with ⟨ascii, single⟩ | beyond
    · have digit := bytes (byte char) (by rw [single]; exact List.mem_singleton_self _)
      rwa [nibble?_byte ascii] at digit
    · -- Every character has a byte, which here is no digit.
      obtain ⟨byte, mine⟩ := List.exists_mem_of_ne_nil _ (String.utf8EncodeChar_ne_nil)
      obtain ⟨value, read⟩ := Option.isSome_iff_exists.mp (bytes byte mine)
      have low : byte.toNat ≤ 102 := (value?_le read).1
      have high := beyond byte mine
      omega
  · intro digits byte member
    obtain ⟨char, mine, encoded⟩ := List.mem_flatMap.mp member
    have digit := digits char mine
    rw [utf8EncodeChar_of_isDigit digit, List.mem_singleton] at encoded
    rw [encoded, nibble?_byte (toNat_lt_of_isDigit digit)]
    exact digit

theorem areDigits_of_decode? {text bytes : Bytes} (decoded : decode? text = some bytes) :
    areDigits text := by
  fun_induction decode? text generalizing bytes with
  | case1 => rfl
  | case2 => cases decoded
  | case3 high low rest highValue lowValue later found lowRead highRead induction =>
      simp only [areDigits, List.all_cons, highRead, lowRead, Option.isSome_some, Bool.true_and]
      exact induction found
  | case4 => cases decoded

/-- A pair of digits is decoded to one byte. -/
theorem decode?_map_byte_cons
    {high low : Char}
    {highValue lowValue : Nat}
    (highRead : value? high = some highValue)
    (lowRead : value? low = some lowValue)
    (rest : List Char) :
    decode? ((high :: low :: rest).map byte) =
      (decode? (rest.map byte)).map (UInt8.ofNat (highValue * 16 + lowValue) :: ·) := by
  have highAscii : high.toNat < 0x80 := Nat.lt_of_le_of_lt (value?_le highRead).1 (by decide)
  have lowAscii : low.toNat < 0x80 := Nat.lt_of_le_of_lt (value?_le lowRead).1 (by decide)
  simp only [List.map_cons, decode?, nibble?_byte highAscii, nibble?_byte lowAscii, highRead,
    lowRead]
  cases decode? (rest.map byte) <;> rfl

/-- The values of the first two digits. -/
theorem exists_value?_of_isDigit_cons_cons
    {high low : Char}
    {rest : List Char}
    (digits : ∀ char ∈ high :: low :: rest, IsDigit char) :
    ∃ highValue lowValue,
      value? high = some highValue ∧ value? low = some lowValue ∧ ∀ char ∈ rest, IsDigit char := by
  obtain ⟨highDigit, behind⟩ := List.forall_mem_cons.mp digits
  obtain ⟨lowDigit, others⟩ := List.forall_mem_cons.mp behind
  obtain ⟨highValue, highRead⟩ := Option.isSome_iff_exists.mp highDigit
  obtain ⟨lowValue, lowRead⟩ := Option.isSome_iff_exists.mp lowDigit
  exact ⟨highValue, lowValue, highRead, lowRead, others⟩

/-- What is decoded in pairs is what is read digit by digit. -/
theorem readFrom_of_decode?
    {chars : List Char}
    {bytes : Bytes}
    (digits : ∀ char ∈ chars, IsDigit char)
    (decoded : decode? (chars.map byte) = some bytes)
    (total : Nat) :
    readFrom total chars =
      some (bytes.foldl (fun value byte => value * 256 + byte.toNat) total) := by
  induction chars using List.twoStepInduction generalizing bytes total with
  | nil =>
      obtain rfl := Option.some.inj decoded
      rfl
  | singleton char => cases decoded
  | cons_cons high low rest induction _ =>
      obtain ⟨highValue, lowValue, highRead, lowRead, others⟩ :=
        exists_value?_of_isDigit_cons_cons digits
      rw [decode?_map_byte_cons highRead lowRead] at decoded
      obtain ⟨later, found, rfl⟩ := Option.map_eq_some_iff.mp decoded
      have highSmall := (value?_le highRead).2
      have lowSmall := (value?_le lowRead).2
      have first : (UInt8.ofNat (highValue * 16 + lowValue)).toNat = highValue * 16 + lowValue := by
        rw [UInt8.toNat_ofNat', Nat.mod_eq_of_lt (by omega)]
      have whole :
          (total * 16 + highValue) * 16 + lowValue = total * 256 + (highValue * 16 + lowValue) := by
        omega
      simp only [readFrom, highRead, lowRead]
      rw [induction others found, whole, List.foldl_cons, first]

theorem exists_decode?
    {chars : List Char}
    (digits : ∀ char ∈ chars, IsDigit char)
    (even : chars.length % 2 = 0) :
    ∃ bytes, decode? (chars.map byte) = some bytes := by
  induction chars using List.twoStepInduction with
  | nil => exact ⟨[], rfl⟩
  | singleton char => cases even
  | cons_cons high low rest induction _ =>
      obtain ⟨highValue, lowValue, highRead, lowRead, others⟩ :=
        exists_value?_of_isDigit_cons_cons digits
      have evenBehind : rest.length % 2 = 0 := by
        rw [List.length_cons, List.length_cons] at even
        omega
      obtain ⟨bytes, decoded⟩ := induction others evenBehind
      exact ⟨_, by rw [decode?_map_byte_cons highRead lowRead, decoded, Option.map_some]⟩

/-- Pairs of digits are decoded to the number that the digits are read as one after the other. -/
theorem decode?_utf8_iff {text : String} {value : Nat} :
    (∃ bytes, decode? (utf8 text) = some bytes ∧ Bytes.toNat bytes = value) ↔
      text.toList.length % 2 = 0 ∧ toNat? text = some value := by
  constructor
  · rintro ⟨bytes, decoded, rfl⟩
    have digits := areDigits_utf8_iff.mp (areDigits_of_decode? decoded)
    have twice := length_of_decode? decoded
    rw [utf8_of_isDigit digits] at decoded twice
    rw [List.length_map] at twice
    exact ⟨by omega, readFrom_of_decode? digits decoded 0⟩
  · rintro ⟨even, read⟩
    have digits := exists_readFrom_iff.mp ⟨value, read⟩
    obtain ⟨bytes, decoded⟩ := exists_decode? digits even
    have same := readFrom_of_decode? digits decoded 0
    rw [utf8_of_isDigit digits]
    exact ⟨bytes, decoded, Option.some.inj (same.symm.trans read)⟩

/-- Two digits for each byte are the digits of the number that the bytes stand for. -/
theorem flatMap_pair_eq_digits (bytes : Bytes) :
    bytes.flatMap pair = digits (2 * bytes.length) (Bytes.toNat bytes) := by
  induction bytes using List.reverseRecOn with
  | nil => rfl
  | append_singleton bytes byte induction =>
      have small := byte.toNat_lt
      have length : 2 * (bytes ++ [byte]).length = 2 * bytes.length + 1 + 1 := by simp; omega
      have low : (Bytes.toNat bytes * 256 + byte.toNat) % 16 = byte.toNat % 16 := by omega
      have high : (Bytes.toNat bytes * 256 + byte.toNat) / 16 % 16 = byte.toNat / 16 := by omega
      have front : (Bytes.toNat bytes * 256 + byte.toNat) / 16 / 16 = Bytes.toNat bytes := by omega
      rw [length, Bytes.toNat_concat, digits, digits, low, high, front, ← induction,
        List.flatMap_append, List.flatMap_singleton, List.append_assoc]
      rfl

/-! ## The order of written numbers -/

/-- Byte strings of one length are compared at the first byte in which they differ. -/
theorem append_lt_append
    {left right : Bytes}
    (sameLength : left.length = right.length)
    (less : left < right)
    (leftRest rightRest : Bytes) :
    left ++ leftRest < right ++ rightRest := by
  induction left generalizing right with
  | nil =>
      cases right with
      | nil => exact absurd less (List.lt_irrefl [])
      | cons byte right => cases sameLength
  | cons byte left induction =>
      cases right with
      | nil => cases sameLength
      | cons other right =>
          rcases List.cons_lt_cons_iff.mp less with first | ⟨same, later⟩
          · exact List.cons_lt_cons_iff.mpr (Or.inl first)
          · have behind := induction (Nat.succ.inj sameLength) later
            exact List.cons_lt_cons_iff.mpr (Or.inr ⟨same, behind⟩)

theorem byte_digit_lt {left right : Nat} (less : left < right) (small : right < 16) :
    byte (digit left) < byte (digit right) := by
  have code {value : Nat} (small : value < 16) :
      (byte (digit value)).toNat = if value < 10 then value + 48 else value + 55 := by
    rcases value with _ | _ | _ | _ | _ | _ | _ | _ | _ | _ | _ | _ | _ | _ | _ | _ | value
    all_goals first | rfl | omega
  rw [UInt8.lt_iff_toNat_lt, code small, code (Nat.lt_trans less small)]
  split <;> split <;> omega

/-- The bytes of the last digits of a number. -/
def bytes (count value : Nat) : Bytes :=
  (digits count value).map byte

theorem bytes_succ (count value : Nat) :
    bytes (count + 1) value = bytes count (value / 16) ++ [byte (digit (value % 16))] := by
  rw [bytes, digits, List.map_append, List.map_singleton, ← bytes]

@[simp]
theorem length_bytes (count value : Nat) : (bytes count value).length = count := by
  simp [bytes]

theorem bytes_lt_bytes
    {count left right : Nat}
    (less : left < right)
    (small : right < Nat.pow 16 count) :
    bytes count left < bytes count right := by
  induction count generalizing left right with
  | zero =>
      have zero : right = 0 := Nat.lt_one_iff.mp small
      omega
  | succ count induction =>
      have grown : Nat.pow 16 (count + 1) = Nat.pow 16 count * 16 := rfl
      rw [bytes_succ, bytes_succ]
      rcases Nat.lt_or_ge (left / 16) (right / 16) with front | back
      · have sameLength : (bytes count (left / 16)).length = (bytes count (right / 16)).length := by
          rw [length_bytes, length_bytes]
        exact append_lt_append sameLength (induction front (by omega)) _ _
      · have same : left / 16 = right / 16 := by omega
        have last : left % 16 < right % 16 := by omega
        rw [same]
        apply List.append_left_lt
        exact List.cons_lt_cons_iff.mpr (Or.inl (byte_digit_lt last (Nat.mod_lt _ (by decide))))

/-- Numbers are ordered as the bytes of their digits are. -/
theorem bytes_lt_bytes_iff
    {count left right : Nat}
    (leftSmall : left < Nat.pow 16 count)
    (rightSmall : right < Nat.pow 16 count) :
    bytes count left < bytes count right ↔ left < right := by
  constructor
  · intro less
    rcases Nat.lt_trichotomy left right with below | same | above
    · exact below
    · rw [same] at less
      exact absurd less (List.lt_irrefl _)
    · exact absurd less (List.lt_asymm (bytes_lt_bytes above leftSmall))
  · intro less
    exact bytes_lt_bytes less rightSmall

end WorkGate.Hex
