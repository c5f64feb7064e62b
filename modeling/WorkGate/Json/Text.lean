import WorkGate.Bytes

/-!
# JSON strings

`quote` writes a text as a JSON string: quotes, backslashes and control characters are escaped,
everything else stands for itself.  `unquote?` reads the bytes between the quotes of a JSON string
that a lexer has already found well formed: it resolves the escapes, refuses an unpaired surrogate,
and refuses bytes that are not UTF-8.
-/

namespace WorkGate.Json

/-- The lower-case hexadecimal digit of a value below sixteen. -/
def lowerDigit (value : Nat) : Char :=
  if value < 10 then Char.ofNat (value + 48) else Char.ofNat (value + 87)

/-- A character as it is written inside a JSON string. -/
def escape (char : Char) : List Char :=
  match char with
  | '"' => ['\\', '"']
  | '\\' => ['\\', '\\']
  | '\x08' => ['\\', 'b']
  | '\x0c' => ['\\', 'f']
  | '\n' => ['\\', 'n']
  | '\r' => ['\\', 'r']
  | '\t' => ['\\', 't']
  | other =>
      if other.toNat < 0x20 then
        ['\\', 'u', '0', '0', lowerDigit (other.toNat / 16), lowerDigit (other.toNat % 16)]
      else [other]

/-- A text as a JSON string. -/
def quote (text : String) : String :=
  String.ofList ('"' :: (text.toList.flatMap escape ++ ['"']))

/-- The value of a hexadecimal digit given as a byte. -/
def hexByte? (byte : UInt8) : Option Nat :=
  if 0x30 ≤ byte ∧ byte ≤ 0x39 then some (byte.toNat - 0x30)
  else if 0x41 ≤ byte ∧ byte ≤ 0x46 then some (byte.toNat - 0x37)
  else if 0x61 ≤ byte ∧ byte ≤ 0x66 then some (byte.toNat - 0x57)
  else none

def hexUnit? (first second third fourth : UInt8) : Option Nat := do
  let a ← hexByte? first
  let b ← hexByte? second
  let c ← hexByte? third
  let d ← hexByte? fourth
  return ((a * 16 + b) * 16 + c) * 16 + d

def shortEscape? (letter : UInt8) : Option UInt8 :=
  match letter with
  | 0x22 => some 0x22
  | 0x5c => some 0x5c
  | 0x2f => some 0x2f
  | 0x62 => some 0x08
  | 0x66 => some 0x0c
  | 0x6e => some 0x0a
  | 0x72 => some 0x0d
  | 0x74 => some 0x09
  | _ => none

/-- Whether a UTF-16 unit is the first half of a pair. -/
def isHighSurrogate (unit : Nat) : Bool :=
  0xD800 ≤ unit ∧ unit ≤ 0xDBFF

/-- Whether a UTF-16 unit is the second half of a pair. -/
def isLowSurrogate (unit : Nat) : Bool :=
  0xDC00 ≤ unit ∧ unit ≤ 0xDFFF

def pairCode (high low : Nat) : Nat :=
  0x10000 + (high - 0xD800) * 0x400 + (low - 0xDC00)

/-- The UTF-8 bytes of a code point, latest first, before bytes already read. -/
def pushCode (code : Nat) (read : Bytes) : Bytes :=
  (String.utf8EncodeChar (Char.ofNat code)).reverse ++ read

/--
Resolves the escapes of the raw bytes of a string.  The bytes already read are given latest first.
-/
def unescape : (read raw : Bytes) → Option Bytes
  | read, [] => some read.reverse
  | read, 0x5c :: 0x75 :: a :: b :: c :: d :: rest =>
      match hexUnit? a b c d with
      | none => none
      | some unit =>
          if isLowSurrogate unit then none
          else if isHighSurrogate unit then
            match rest with
            | 0x5c :: 0x75 :: e :: f :: g :: h :: rest =>
                match hexUnit? e f g h with
                | none => none
                | some low =>
                    if isLowSurrogate low then
                      unescape (pushCode (pairCode unit low) read) rest
                    else none
            | _ => none
          else unescape (pushCode unit read) rest
  | read, 0x5c :: letter :: rest =>
      match shortEscape? letter with
      | some byte => unescape (byte :: read) rest
      | none => none
  | _, [0x5c] => none
  | read, byte :: rest => unescape (byte :: read) rest
termination_by structural _ raw => raw

/-- The text between the quotes of a JSON string. -/
def unquote? (raw : Bytes) : Option String :=
  (unescape [] raw).bind ofUtf8?

end WorkGate.Json
