/-!
# Unsigned decimal numbers

A number is an optional plus sign and at least one ASCII digit, with a value up to a limit.  The
text is read from left to right and the first fault is reported: at each character first whether it
is a digit, then whether the value still fits.
-/

namespace WorkGate.Text

/-- Why a text is not an unsigned number. -/
inductive UnsignedFault where
  | empty
  | invalidDigit
  | tooLarge
deriving DecidableEq

def UnsignedFault.message : UnsignedFault → String
  | empty => "cannot parse integer from empty string"
  | invalidDigit => "invalid digit found in string"
  | tooLarge => "number too large to fit in target type"

/-- Reads further digits after the value read so far. -/
def readDigits (limit : Nat) : (value : Nat) → List Char → Except UnsignedFault Nat
  | value, [] => .ok value
  | value, char :: rest =>
      if '0' ≤ char ∧ char ≤ '9' then
        let next := value * 10 + (char.toNat - 48)
        if next ≤ limit then readDigits limit next rest else .error .tooLarge
      else .error .invalidDigit

/-- Reads an unsigned number of at most `limit`. -/
def readUnsigned (limit : Nat) (text : String) : Except UnsignedFault Nat :=
  match text.toList with
  | [] => .error .empty
  | ['+'] => .error .invalidDigit
  | '+' :: digits => readDigits limit 0 digits
  | digits => readDigits limit 0 digits

end WorkGate.Text
