import WorkGate.Json.Numeral
import WorkGate.Json.Text
import WorkGate.Json.Value

/-!
# Reading values of a given shape

A shape reads a JSON value as something of a type.  Texts are read from strings; a pair of named
fields is read from an object, in which unknown members are skipped and none of the two may be
missing or occur twice, or from an array of exactly two elements.

There are two faults.  The text is `malformed` if it is no JSON, and `mismatched` if it is JSON of
another shape.  A value is walked in the order of its text and the first fault counts; a scalar of
the wrong type is first read to its end, so that a fault within it comes first.
-/

namespace WorkGate.Json

/-- Why a text cannot be read as a given shape. -/
inductive Fault where
  | malformed
  | mismatched
deriving DecidableEq

namespace Value

def text : Value → Except Fault String
  | string raw =>
      match unquote? raw with
      | some text => .ok text
      | none => .error .malformed
  | number digits => .error (if Numeral.isOutOfRange digits then .malformed else .mismatched)
  | literal => .error .mismatched
  | array .. => .error .mismatched
  | object .. => .error .mismatched
  | missing => .error .malformed

/-- A named field and the shape of its value. -/
structure Field (Content : Type) where
  name : String
  read : Value → Except Fault Content

/-- The fault of a container that ends before everything wanted was found. -/
def tooShort (closed : Bool) : Fault :=
  if closed then .mismatched else .malformed

variable {First Second : Type}

/-- Reads the members of an object; fields already found are given. -/
def readMembers
    (first : Field First)
    (second : Field Second)
    (closed : Bool) :
    Option First → Option Second → List (Bytes × Value) → Except Fault (First × Second)
  | foundFirst, foundSecond, [] =>
      match closed, foundFirst, foundSecond with
      | true, some one, some two => .ok (one, two)
      | _, _, _ => .error (tooShort closed)
  | foundFirst, foundSecond, (key, value) :: rest =>
      match unquote? key with
      | none => .error .malformed
      | some name =>
          if name = first.name then
            match foundFirst with
            | some _ => .error .mismatched
            | none =>
                match first.read value with
                | .error fault => .error fault
                | .ok one => readMembers first second closed (some one) foundSecond rest
          else if name = second.name then
            match foundSecond with
            | some _ => .error .mismatched
            | none =>
                match second.read value with
                | .error fault => .error fault
                | .ok two => readMembers first second closed foundFirst (some two) rest
          else readMembers first second closed foundFirst foundSecond rest

/-- Reads exactly two elements of an array. -/
def readElements
    (first : Field First)
    (second : Field Second)
    (closed : Bool)
    (elements : List Value) :
    Except Fault (First × Second) :=
  match elements with
  | [] => .error (tooShort closed)
  | value :: rest =>
      match first.read value with
      | .error fault => .error fault
      | .ok one =>
          match rest with
          | [] => .error (tooShort closed)
          | value :: rest =>
              match second.read value with
              | .error fault => .error fault
              | .ok two => if closed ∧ rest.isEmpty then .ok (one, two) else .error .malformed

/-- Reads two named fields. -/
def pair (first : Field First) (second : Field Second) : Value → Except Fault (First × Second)
  | object members closed => readMembers first second closed none none members
  | array elements closed => readElements first second closed elements
  | string raw => .error (if (unquote? raw).isSome then .mismatched else .malformed)
  | number digits => .error (if Numeral.isOutOfRange digits then .malformed else .mismatched)
  | literal => .error .mismatched
  | missing => .error .malformed

end Value

/-- Reads a whole text as a shape; nothing may follow the value. -/
def read
    {Content : Type}
    (shape : Value → Except Fault Content)
    (text : Bytes) :
    Except Fault Content :=
  let (value, rest) := Value.ofTokens (Token.ofBytes text)
  match shape value with
  | .error fault => .error fault
  | .ok content => if rest = some [] then .ok content else .error .malformed

end WorkGate.Json
