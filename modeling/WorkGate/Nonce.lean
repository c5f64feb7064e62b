import WorkGate.HashValue
import WorkGate.RandomSource

/-!
# Nonces

A nonce is a text of 64 hexadecimal digits.  Challenge nonces and honest response nonces are drawn
at random and written in upper case; response nonces from the outside may use either case, and two
of them that differ only in case count as the same nonce.
-/

namespace WorkGate.Nonce

def width : Nat := 64

/-- A text is a well-formed nonce if it consists of exactly 64 hexadecimal digits. -/
def WellFormed (text : String) : Prop :=
  text.toList.length = width ∧ ∀ char ∈ text.toList, Hex.IsDigit char

-- The instance is named, since a search may find one that runs through all characters there are.
instance (text : String) : Decidable (WellFormed text) :=
  @instDecidableAnd _ _ inferInstance (List.decidableBAll Hex.IsDigit text.toList)

/-- The spelling under which a response nonce is remembered: ASCII letters in upper case. -/
def fold (text : String) : String :=
  String.ofList (text.toList.map Char.toUpper)

variable {Source : Type} [RandomSource Source]

/-- Draws 32 bytes and writes them as 64 upper-case digits. -/
def generate (source : Source) : String × Source :=
  let (bytes, rest) := RandomSource.draw 32 source
  (Hex.encode bytes, rest)

end WorkGate.Nonce
