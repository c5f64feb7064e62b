/-!
# Media types

The only question asked of a content type is whether it announces JSON: the type is `application`,
and the subtype is `json` or has the suffix `json`, in any case.  Parameters may follow and have to
be well formed; a header that is not a media type announces nothing.

A parameter follows a semicolon right behind what precedes it, and spaces may follow the semicolon;
a last semicolon may be left without a parameter.  The name of a parameter is a token.  Its value is
a token, possibly empty at the very end, or a quoted text of at least one character; behind a quoted
text spaces may stand.
-/

namespace WorkGate.Http.MediaType

/-- The punctuation that may occur in a token. -/
def tokenMarks : String := "!#$%&'*+-.^_`|~"

def isTokenChar (char : Char) : Bool :=
  char.isAlphanum || tokenMarks.toList.contains char

def isQuotedChar (char : Char) : Bool :=
  ' ' ≤ char ∧ char ≤ '~'

/-- The part of a parameter that is being read. -/
inductive Part where
  | start
  | name
  | valueStart
  | value
  | quotedStart
  | quoted
  | afterQuoted

/-- Whether the rest of a header completes well-formed parameters. -/
def areParameters : Part → List Char → Bool
  | .start, [] => true
  | .start, char :: rest =>
      if char = ' ' then areParameters .start rest
      else isTokenChar char && areParameters .name rest
  | .name, [] => false
  | .name, char :: rest =>
      if char = '=' then areParameters .valueStart rest
      else isTokenChar char && areParameters .name rest
  | .valueStart, [] => true
  | .valueStart, char :: rest =>
      if char = '"' then areParameters .quotedStart rest
      else isTokenChar char && areParameters .value rest
  | .value, [] => true
  | .value, char :: rest =>
      if char = ';' then areParameters .start rest
      else isTokenChar char && areParameters .value rest
  | .quotedStart, [] => false
  | .quotedStart, char :: rest => isQuotedChar char && areParameters .quoted rest
  | .quoted, [] => false
  | .quoted, char :: rest =>
      if char = '"' then areParameters .afterQuoted rest
      else isQuotedChar char && areParameters .quoted rest
  | .afterQuoted, [] => true
  | .afterQuoted, char :: rest =>
      if char = ';' then areParameters .start rest
      else char = ' ' && areParameters .afterQuoted rest

/-- The part of a subtype behind its last plus sign, which may not be its first character. -/
def suffix? (subtype : List Char) : Option (List Char) :=
  let backwards := subtype.drop 1 |>.reverse
  if backwards.contains '+' then some (backwards.takeWhile (· ≠ '+')).reverse else none

/-- The part of a subtype before its suffix. -/
def essence (subtype : List Char) : List Char :=
  match suffix? subtype with
  | some suffix => subtype.take (subtype.length - suffix.length - 1)
  | none => subtype

/-- Whether a subtype in lower case is `json` or has that suffix. -/
def isJsonSubtype (subtype : List Char) : Bool :=
  essence subtype = "json".toList ∨ suffix? subtype = some "json".toList

/-- Whether a content type announces JSON. -/
def isJson (header : String) : Bool :=
  let (kind, rest) := (header.toList.map Char.toLower).span isTokenChar
  match rest with
  | '/' :: rest =>
      let (subtype, rest) := rest.span isTokenChar
      let wellFormed :=
        match rest with
        | [] => true
        | ';' :: parameters => !subtype.isEmpty && areParameters .start parameters
        | _ => false
      wellFormed && kind = "application".toList && isJsonSubtype subtype
  | _ => false

end WorkGate.Http.MediaType
