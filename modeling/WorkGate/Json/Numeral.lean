import WorkGate.Bytes

/-!
# Magnitude of JSON numbers

A JSON number is out of range if it exceeds the greatest double-precision number when it is read as
follows.  Digits are collected into a 64-bit significand for as long as they fit; further digits
before the point only raise the exponent, and further digits after it are ignored.  Significand and
power of ten are each rounded to 53 significant bits and multiplied, and the product is rounded in
the same way.

The grammar of numbers is the business of the lexer; here a number is known to be well formed.
-/

namespace WorkGate.Json.Numeral

def maxSignificand : Nat := 0xFFFFFFFFFFFFFFFF

/-- The greatest exponent that is still counted. -/
def maxExponent : Nat := 0x7FFFFFFF

/-- The greatest power of ten among the double-precision numbers. -/
def maxPower : Nat := 308

/-- A number rounded to 53 significant bits, a tie to the even neighbour. -/
def round53 (value : Nat) : Nat :=
  let excess := value.log2 + 1 - 53
  let unit := 1 <<< excess
  let quotient := value / unit
  let remainder := value % unit
  let up := unit < 2 * remainder ∨ (2 * remainder = unit ∧ quotient % 2 = 1)
  (if up then quotient + 1 else quotient) * unit

inductive Part where
  | whole
  | wholeBeyond
  | fraction
  | fractionBeyond
  | exponent

structure Reading where
  part : Part := .whole
  significand : Nat := 0
  shift : Int := 0
  negative : Bool := false
  exponent : Nat := 0

def Reading.digit (reading : Reading) (value : Nat) : Reading :=
  let grown := reading.significand * 10 + value
  match reading.part with
  | .whole =>
      if grown ≤ maxSignificand then { reading with significand := grown }
      else { reading with part := .wholeBeyond, shift := reading.shift + 1 }
  | .wholeBeyond => { reading with shift := reading.shift + 1 }
  | .fraction =>
      if grown ≤ maxSignificand then
        { reading with significand := grown, shift := reading.shift - 1 }
      else { reading with part := .fractionBeyond }
  | .fractionBeyond => reading
  | .exponent =>
      { reading with exponent := min (reading.exponent * 10 + value) (maxExponent + 1) }

def Reading.byte (reading : Reading) (byte : UInt8) : Reading :=
  if 0x30 ≤ byte ∧ byte ≤ 0x39 then reading.digit (byte.toNat - 0x30)
  else if byte = 0x2e then { reading with part := .fraction }
  else if byte = 0x65 ∨ byte = 0x45 then { reading with part := .exponent }
  else if byte = 0x2d then { reading with negative := true }
  else reading

/-- The total power of ten of a number. -/
def Reading.power (reading : Reading) : Int :=
  if reading.negative then reading.shift - reading.exponent
  else reading.shift + reading.exponent

/-- Whether the number exceeds the greatest double-precision number. -/
def Reading.isOutOfRange (reading : Reading) : Bool :=
  if reading.significand = 0 then false
  else
    match reading.power with
    | .ofNat power =>
        maxPower < power ∨
          1 <<< 1024 ≤ round53 (round53 reading.significand * round53 (Nat.pow 10 power))
    | .negSucc _ => false

/-- Whether a well-formed number, given without its leading sign, is out of range. -/
def isOutOfRange (digits : Bytes) : Bool :=
  (digits.foldl Reading.byte {}).isOutOfRange

end WorkGate.Json.Numeral
