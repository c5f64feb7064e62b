import WorkGate.Json.Token

/-!
# JSON values, possibly cut short

Tokens are put together to a value.  If the text stops being JSON, what was read before that point
is kept: an array or object that was not closed is marked as open, and a value that should stand
but does not is `missing`.  A reader that walks the value in the order of the text therefore meets
the first thing that is wrong with the text first, be it a wrong type or the end of the JSON.

Values nest as deeply as the text does, so the builder keeps the containers under construction on
a stack of its own.
-/

namespace WorkGate.Json

/-- A value as far as the text goes. -/
inductive Value where
  | literal
  | number (digits : Bytes)
  | string (raw : Bytes)
  | array (elements : List Value) (closed : Bool)
  | object (members : List (Bytes × Value)) (closed : Bool)
  | missing

namespace Value

/-- A container under construction; what it holds is given latest first. -/
inductive Frame where
  | array (elements : List Value)
  | object (members : List (Bytes × Value)) (key : Bytes)

/-- What must stand next. -/
inductive Expect where
  | value
  /-- The first element of an array, or its end. -/
  | firstElement
  /-- The first key of an object, or its end. -/
  | firstKey
  | key
  | colon
  | separator
deriving DecidableEq

namespace Frame

/-- Adds a value to a container. -/
def add (value : Value) : Frame → Frame
  | array elements => array (value :: elements)
  | object members key => object ((key, value) :: members) key

def toValue (closed : Bool) : Frame → Value
  | array elements => .array elements.reverse closed
  | object members _ => .object members.reverse closed

/-- The container as a value when the text breaks inside it. -/
def toBroken (expect : Expect) : Frame → Value
  | array elements => .array elements.reverse false
  | object members key =>
      match expect with
      | .value => .object ((key, missing) :: members).reverse false
      | .colon => .object ((key, missing) :: members).reverse false
      | _ => .object members.reverse false

end Frame

/-- The value when the text breaks: all containers stay open. -/
def ofBroken (expect : Expect) : List Frame → Value
  | [] => missing
  | innermost :: outer =>
      outer.foldl (fun value frame => (frame.add value).toValue false) (innermost.toBroken expect)

inductive Move where
  | continue (expect : Expect) (stack : List Frame)
  /-- The outermost value is complete. -/
  | finish (value : Value)
  | refuse

/-- A value is complete: it is added to the innermost container, if there is one. -/
def complete (value : Value) : List Frame → Move
  | [] => .finish value
  | innermost :: outer => .continue .separator (innermost.add value :: outer)

def stepValue (stack : List Frame) : Token → Move
  | .literal => complete literal stack
  | .number digits => complete (number digits) stack
  | .string raw => complete (string raw) stack
  | .openArray => .continue .firstElement (.array [] :: stack)
  | .openObject => .continue .firstKey (.object [] [] :: stack)
  | _ => .refuse

def stepKey (stack : List Frame) : Token → Move
  | .string raw =>
      match stack with
      | .object members _ :: outer => .continue .colon (.object members raw :: outer)
      | _ => .refuse
  | _ => .refuse

def stepSeparator (stack : List Frame) (token : Token) : Move :=
  match stack, token with
  | .array elements :: outer, .comma => .continue .value (.array elements :: outer)
  | .array elements :: outer, .closeArray => complete ((Frame.array elements).toValue true) outer
  | .object members key :: outer, .comma => .continue .key (.object members key :: outer)
  | .object members key :: outer, .closeObject =>
      complete ((Frame.object members key).toValue true) outer
  | _, _ => .refuse

def step (stack : List Frame) (token : Token) : Expect → Move
  | .value => stepValue stack token
  | .firstElement =>
      match stack, token with
      | .array elements :: outer, .closeArray =>
          complete ((Frame.array elements).toValue true) outer
      | _, _ => stepValue stack token
  | .firstKey =>
      match stack, token with
      | .object members key :: outer, .closeObject =>
          complete ((Frame.object members key).toValue true) outer
      | _, _ => stepKey stack token
  | .key => stepKey stack token
  | .colon =>
      match token with
      | .colon => .continue .value stack
      | _ => .refuse
  | .separator => stepSeparator stack token

/-- Builds a value; the tokens after it are `none` if the text breaks before its end. -/
def build : Expect → List Frame → List Token → Value × Option (List Token)
  | expect, stack, [] => (ofBroken expect stack, none)
  | expect, stack, token :: rest =>
      match step stack token expect with
      | .continue next stack => build next stack rest
      | .finish value => (value, some rest)
      | .refuse => (ofBroken expect stack, none)

/-- The value that the tokens start with, and the tokens after it. -/
def ofTokens (tokens : List Token) : Value × Option (List Token) :=
  build .value [] tokens

end Value

end WorkGate.Json
