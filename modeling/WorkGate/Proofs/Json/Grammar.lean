import WorkGate.Bytes

/-!
# The grammar of JSON

A tree is what a JSON text says: the names and values of its members, the elements of its arrays,
and its texts with all escapes resolved.  The grammar relates trees to the byte strings that spell
them, with any white space, any escapes and any nesting.  It is stated on its own, without the
lexer and without the builder, so that these can be compared with it.

`Spells phrase text rest` says that `text` starts with a spelling of the phrase and goes on with
`rest`.  The phrases are a value, a value among white space, a member, and nonempty lists of
elements and of members.  A whole JSON text is a value among white space with nothing behind it.
-/

namespace WorkGate.Json

/-- A JSON value, in whichever way it is written. -/
inductive Tree where
  | null
  | bool (value : Bool)
  | number (written : Bytes)
  | string (text : String)
  | array (elements : List Tree)
  | object (members : List (String × Tree))

/-- The rest of the text lies behind white space. -/
inductive Blank : Bytes → Bytes → Prop where
  | none {rest : Bytes} : Blank rest rest
  | next {byte : UInt8} {text rest : Bytes}
      (space : byte ∈ ([0x20, 0x09, 0x0a, 0x0d] : Bytes))
      (behind : Blank text rest) :
      Blank (byte :: text) rest

/-! ## Strings -/

/-- A hexadecimal digit of either case and its value. -/
inductive HexDigit : UInt8 → Nat → Prop where
  | decimal {byte : UInt8} (lower : 0x30 ≤ byte.toNat) (upper : byte.toNat ≤ 0x39) :
      HexDigit byte (byte.toNat - 0x30)
  | upperCase {byte : UInt8} (lower : 0x41 ≤ byte.toNat) (upper : byte.toNat ≤ 0x46) :
      HexDigit byte (byte.toNat - 0x41 + 10)
  | lowerCase {byte : UInt8} (lower : 0x61 ≤ byte.toNat) (upper : byte.toNat ≤ 0x66) :
      HexDigit byte (byte.toNat - 0x61 + 10)

/-- Four hexadecimal digits and their value. -/
inductive FourDigits : Bytes → Nat → Prop where
  | mk {a b c d : UInt8} {p q r s : Nat}
      (first : HexDigit a p) (second : HexDigit b q) (third : HexDigit c r)
      (fourth : HexDigit d s) :
      FourDigits [a, b, c, d] (((p * 16 + q) * 16 + r) * 16 + s)

/-- The letters of the short escapes, with the characters they stand for. -/
def shortEscapes : List (UInt8 × Char) :=
  [(0x22, '"'), (0x5c, '\\'), (0x2f, '/'), (0x62, '\x08'), (0x66, '\x0c'), (0x6e, '\n'),
   (0x72, '\r'), (0x74, '\t')]

/-- The bytes write one character within a string. -/
inductive SpellsChar : Char → Bytes → Prop where
  | plain {char : Char}
      (visible : 0x20 ≤ char.toNat) (notQuote : char ≠ '"') (notBackslash : char ≠ '\\') :
      SpellsChar char (String.utf8EncodeChar char)
  | short {char : Char} {letter : UInt8} (listed : (letter, char) ∈ shortEscapes) :
      SpellsChar char [0x5c, letter]
  | code {char : Char} {digits : Bytes} (written : FourDigits digits char.toNat) :
      SpellsChar char (0x5c :: 0x75 :: digits)
  /-- A character beyond the first plane, as the two halves of a surrogate pair. -/
  | pair {char : Char} {highDigits lowDigits : Bytes} {high low : Nat}
      (writtenHigh : FourDigits highDigits high) (writtenLow : FourDigits lowDigits low)
      (isHigh : 0xD800 ≤ high ∧ high ≤ 0xDBFF) (isLow : 0xDC00 ≤ low ∧ low ≤ 0xDFFF)
      (code : char.toNat = 0x10000 + (high - 0xD800) * 0x400 + (low - 0xDC00)) :
      SpellsChar char (0x5c :: 0x75 :: highDigits ++ 0x5c :: 0x75 :: lowDigits)

/-- The bytes write the characters of a string, without the quotes around it. -/
inductive SpellsChars : List Char → Bytes → Prop where
  | nil : SpellsChars [] []
  | cons {char : Char} {chars : List Char} {written more : Bytes}
      (first : SpellsChar char written) (others : SpellsChars chars more) :
      SpellsChars (char :: chars) (written ++ more)

/-! ## Numbers -/

/-- One or more decimal digits. -/
inductive IsDigits : Bytes → Prop where
  | mk {digits : Bytes}
      (nonempty : digits ≠ [])
      (decimal : ∀ digit ∈ digits, 0x30 ≤ digit ∧ digit ≤ 0x39) :
      IsDigits digits

/-- The digits before the point: a zero, or digits that do not start with one. -/
inductive IsWhole : Bytes → Prop where
  | zero : IsWhole [0x30]
  | leading {first : UInt8} {more : Bytes}
      (digits : IsDigits (first :: more)) (notZero : first ≠ 0x30) :
      IsWhole (first :: more)

inductive IsFraction : Bytes → Prop where
  | absent : IsFraction []
  | present {digits : Bytes} (written : IsDigits digits) : IsFraction (0x2e :: digits)

inductive IsExponent : Bytes → Prop where
  | absent : IsExponent []
  | present {mark : UInt8} {sign digits : Bytes}
      (marked : mark ∈ ([0x65, 0x45] : Bytes))
      (signed : sign ∈ ([[], [0x2b], [0x2d]] : List Bytes))
      (written : IsDigits digits) :
      IsExponent (mark :: (sign ++ digits))

inductive IsNumber : Bytes → Prop where
  | mk {sign whole fraction exponent : Bytes}
      (signed : sign ∈ ([[], [0x2d]] : List Bytes))
      (isWhole : IsWhole whole) (isFraction : IsFraction fraction)
      (isExponent : IsExponent exponent) :
      IsNumber (sign ++ (whole ++ (fraction ++ exponent)))

/-! ## Values -/

/-- What a stretch of a JSON text can spell. -/
inductive Phrase where
  | value (tree : Tree)
  /-- A value with white space on both sides. -/
  | padded (tree : Tree)
  /-- A quoted name, a colon and a value, with white space around each. -/
  | member (name : String) (tree : Tree)
  | elements (trees : List Tree)
  | members (members : List (String × Tree))

/-- The text starts with a spelling of the phrase, and the rest lies behind it. -/
inductive Spells : Phrase → Bytes → Bytes → Prop where
  | null {rest : Bytes} :
      Spells (.value .null) (0x6e :: 0x75 :: 0x6c :: 0x6c :: rest) rest
  | true {rest : Bytes} :
      Spells (.value (.bool true)) (0x74 :: 0x72 :: 0x75 :: 0x65 :: rest) rest
  | false {rest : Bytes} :
      Spells (.value (.bool false)) (0x66 :: 0x61 :: 0x6c :: 0x73 :: 0x65 :: rest) rest
  | number {written rest : Bytes} (isNumber : IsNumber written) :
      Spells (.value (.number written)) (written ++ rest) rest
  | string {text : String} {raw rest : Bytes} (written : SpellsChars text.toList raw) :
      Spells (.value (.string text)) (0x22 :: (raw ++ 0x22 :: rest)) rest
  | emptyArray {text rest : Bytes} (blank : Blank text (0x5d :: rest)) :
      Spells (.value (.array [])) (0x5b :: text) rest
  | array {trees : List Tree} {text rest : Bytes}
      (elements : Spells (.elements trees) text (0x5d :: rest)) :
      Spells (.value (.array trees)) (0x5b :: text) rest
  | emptyObject {text rest : Bytes} (blank : Blank text (0x7d :: rest)) :
      Spells (.value (.object [])) (0x7b :: text) rest
  | object {listed : List (String × Tree)} {text rest : Bytes}
      (members : Spells (.members listed) text (0x7d :: rest)) :
      Spells (.value (.object listed)) (0x7b :: text) rest
  | padded {tree : Tree} {text start behind rest : Bytes}
      (before : Blank text start) (value : Spells (.value tree) start behind)
      (after : Blank behind rest) :
      Spells (.padded tree) text rest
  | member {name : String} {raw : Bytes} {tree : Tree} {text behind later rest : Bytes}
      (before : Blank text (0x22 :: (raw ++ 0x22 :: behind)))
      (written : SpellsChars name.toList raw)
      (after : Blank behind (0x3a :: later))
      (value : Spells (.padded tree) later rest) :
      Spells (.member name tree) text rest
  | lastElement {tree : Tree} {text rest : Bytes} (last : Spells (.padded tree) text rest) :
      Spells (.elements [tree]) text rest
  | nextElement {tree : Tree} {trees : List Tree} {text later rest : Bytes}
      (next : Spells (.padded tree) text (0x2c :: later))
      (others : Spells (.elements trees) later rest) :
      Spells (.elements (tree :: trees)) text rest
  | lastMember {name : String} {tree : Tree} {text rest : Bytes}
      (last : Spells (.member name tree) text rest) :
      Spells (.members [(name, tree)]) text rest
  | nextMember {name : String} {tree : Tree} {listed : List (String × Tree)}
      {text later rest : Bytes}
      (next : Spells (.member name tree) text (0x2c :: later))
      (others : Spells (.members listed) later rest) :
      Spells (.members ((name, tree) :: listed)) text rest

/-- The text is JSON and says what the tree says. -/
def IsText (tree : Tree) (text : Bytes) : Prop :=
  Spells (.padded tree) text []

end WorkGate.Json
