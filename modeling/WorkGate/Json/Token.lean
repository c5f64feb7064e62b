import WorkGate.Bytes

/-!
# JSON tokens

A JSON text is cut into tokens from left to right: punctuation, literals, numbers and strings, with
blanks between them.  A string keeps the raw bytes between its quotes and a number its bytes without
the sign; what they stand for is decided where they are used.  At the first byte that fits no token
the cutting ends with the token `broken`, which also stands for a token cut off by the end.

The lexer is a machine that takes one byte at a time, so it runs over the text once.
-/

namespace WorkGate.Json

/-- A token of a JSON text. -/
inductive Token where
  | openObject
  | closeObject
  | openArray
  | closeArray
  | colon
  | comma
  | literal
  | number (digits : Bytes)
  | string (raw : Bytes)
  | broken
deriving DecidableEq

namespace Token

inductive NumberPart where
  | sign
  | zero
  | whole
  | point
  | fraction
  | mark
  | markSign
  | exponent
deriving DecidableEq

inductive EscapePart where
  | none
  | backslash
  | unit (further : Nat)
deriving DecidableEq

/-- What the lexer is in the middle of. -/
inductive State where
  | between
  /-- Within a literal, before the given bytes. -/
  | literal (expected : Bytes)
  /-- Within a number; its bytes are given latest first. -/
  | number (part : NumberPart) (read : Bytes)
  /-- Within a string; its bytes are given latest first. -/
  | string (escape : EscapePart) (read : Bytes)
deriving DecidableEq

inductive Move where
  | continue (state : State)
  | emit (tokens : List Token) (state : State)
  | refuse (tokens : List Token)

/-- Whether a byte is a blank of JSON. -/
def isSpace (byte : UInt8) : Bool :=
  byte = 0x20 ∨ byte = 0x09 ∨ byte = 0x0a ∨ byte = 0x0d

def isDigit (byte : UInt8) : Bool :=
  0x30 ≤ byte ∧ byte ≤ 0x39

def isHexDigit (byte : UInt8) : Bool :=
  isDigit byte ∨ (0x41 ≤ byte ∧ byte ≤ 0x46) ∨ (0x61 ≤ byte ∧ byte ≤ 0x66)

def stepBetween (byte : UInt8) : Move :=
  if isSpace byte then .continue .between
  else if isDigit byte then
    .continue (.number (if byte = 0x30 then .zero else .whole) [byte])
  else
    match byte with
    | 0x7b => .emit [openObject] .between
    | 0x7d => .emit [closeObject] .between
    | 0x5b => .emit [openArray] .between
    | 0x5d => .emit [closeArray] .between
    | 0x3a => .emit [colon] .between
    | 0x2c => .emit [comma] .between
    | 0x22 => .continue (.string .none [])
    | 0x2d => .continue (.number .sign [])
    | 0x74 => .continue (.literal [0x72, 0x75, 0x65])
    | 0x66 => .continue (.literal [0x61, 0x6c, 0x73, 0x65])
    | 0x6e => .continue (.literal [0x75, 0x6c, 0x6c])
    | _ => .refuse []

def stepLiteral (expected : Bytes) (byte : UInt8) : Move :=
  match expected with
  | [last] => if byte = last then .emit [literal] .between else .refuse []
  | next :: rest => if byte = next then .continue (.literal rest) else .refuse []
  | [] => .refuse []

/-- A byte right after a number that is complete: it starts something else. -/
def stepAfterNumber (read : Bytes) (byte : UInt8) : Move :=
  match stepBetween byte with
  | .continue state => .emit [number read.reverse] state
  | .emit tokens state => .emit (number read.reverse :: tokens) state
  | .refuse tokens => .refuse (number read.reverse :: tokens)

/-- The part of a number that a byte leads to; `none` if the byte is not part of the number. -/
def NumberPart.next? (byte : UInt8) : NumberPart → Option NumberPart
  | sign => if byte = 0x30 then some zero else if isDigit byte then some whole else none
  | zero => if byte = 0x2e then some point else markNext byte
  | whole =>
      if isDigit byte then some whole else if byte = 0x2e then some point else markNext byte
  | point => if isDigit byte then some fraction else none
  | fraction => if isDigit byte then some fraction else markNext byte
  | mark =>
      if byte = 0x2b ∨ byte = 0x2d then some markSign
      else if isDigit byte then some exponent else none
  | markSign => if isDigit byte then some exponent else none
  | exponent => if isDigit byte then some exponent else none
where
  markNext (byte : UInt8) : Option NumberPart :=
    if byte = 0x65 ∨ byte = 0x45 then some mark else none

/-- Whether a number may end after a part. -/
def NumberPart.isComplete : NumberPart → Bool
  | zero => true
  | whole => true
  | fraction => true
  | exponent => true
  | sign => false
  | point => false
  | mark => false
  | markSign => false

/-- A byte within or right after a number.  No digit may follow a leading zero. -/
def stepNumber (part : NumberPart) (read : Bytes) (byte : UInt8) : Move :=
  match part.next? byte with
  | some next => .continue (.number next (byte :: read))
  | none =>
      if part.isComplete ∧ ¬ (part = .zero ∧ isDigit byte) then stepAfterNumber read byte
      else .refuse []

def stepString (escape : EscapePart) (read : Bytes) (byte : UInt8) : Move :=
  match escape with
  | .none =>
      if byte = 0x22 then .emit [string read.reverse] .between
      else if byte < 0x20 then .refuse []
      else if byte = 0x5c then .continue (.string .backslash (byte :: read))
      else .continue (.string .none (byte :: read))
  | .backslash =>
      if byte = 0x75 then .continue (.string (.unit 3) (byte :: read))
      else if [0x22, 0x5c, 0x2f, 0x62, 0x66, 0x6e, 0x72, 0x74].contains byte then
        .continue (.string .none (byte :: read))
      else .refuse []
  | .unit further =>
      if isHexDigit byte then
        match further with
        | 0 => .continue (.string .none (byte :: read))
        | further + 1 => .continue (.string (.unit further) (byte :: read))
      else .refuse []

def step (byte : UInt8) : State → Move
  | .between => stepBetween byte
  | .literal expected => stepLiteral expected byte
  | .number part read => stepNumber part read byte
  | .string escape read => stepString escape read byte

/-- The tokens that the end of the text completes. -/
def finish : State → List Token
  | .between => []
  | .literal _ => [broken]
  | .number part read => if part.isComplete then [number read.reverse] else [broken]
  | .string .. => [broken]

/-- Cuts the rest of a text; the tokens cut so far are given latest first. -/
def cut : State → (done : List Token) → Bytes → List Token
  | state, done, [] => done.reverse ++ finish state
  | state, done, byte :: rest =>
      match step byte state with
      | .continue next => cut next done rest
      | .emit tokens next => cut next (tokens.reverse ++ done) rest
      | .refuse tokens => done.reverse ++ (tokens ++ [broken])

def ofBytes (text : Bytes) : List Token :=
  cut .between [] text

end Token

end WorkGate.Json
