/-!
# Blank characters

A character is blank if it has the Unicode property White_Space.  The property holds of 25
characters, listed here in order; the ASCII blanks and all of `Char.isWhitespace` are among them.
-/

namespace WorkGate.Text

/-- The code points with the property White_Space. -/
def blankCodes : List Nat :=
  [0x09, 0x0A, 0x0B, 0x0C, 0x0D, 0x20, 0x85, 0xA0, 0x1680, 0x2000, 0x2001, 0x2002, 0x2003, 0x2004,
   0x2005, 0x2006, 0x2007, 0x2008, 0x2009, 0x200A, 0x2028, 0x2029, 0x202F, 0x205F, 0x3000]

def isBlank (char : Char) : Bool :=
  blankCodes.contains char.toNat

/-- A text of blank characters only; the empty text is one. -/
def IsAllBlank (text : String) : Prop :=
  ∀ char ∈ text.toList, isBlank char

-- The instance is named, since a search may find one that runs through all characters there are.
instance (text : String) : Decidable (IsAllBlank text) :=
  List.decidableBAll (isBlank ·) text.toList

/-- The text without the blank characters at either end. -/
def trim (text : String) : String :=
  let chars := text.toList.dropWhile isBlank
  String.ofList (chars.reverse.dropWhile isBlank).reverse

example : blankCodes.length = 25 := rfl

end WorkGate.Text
