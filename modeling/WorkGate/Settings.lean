import WorkGate.Policy
import WorkGate.Registration
import WorkGate.Text.Blank
import WorkGate.Text.Unsigned

/-!
# Settings from the environment

The highest ceiling, the wanted solve rate and the terms of service can be set from outside, by two
variables and by a file whose path a third variable gives.  They are read in this order and the
first fault is reported.  A variable whose value is not valid UTF-8 counts as unset.  The ceiling
and the rate may stand between blanks; the file is taken as it is.

Reading the settings does not judge them: a zero is refused later, when the service is created.
-/

namespace WorkGate

/-- Why a file cannot be read as text. -/
inductive FileFault where
  | notFound
  | isDirectory
  | invalidText
deriving DecidableEq

/-- What a program finds around it when it starts. -/
structure Surroundings where
  environment : String → Option Bytes
  file : String → Except FileFault Bytes

namespace Surroundings

/-- The value of a variable, if it is set to a text. -/
def text? (name : String) (surroundings : Surroundings) : Option String :=
  (surroundings.environment name).bind ofUtf8?

/-- The content of a file, if it is a text. -/
def fileText (path : String) (surroundings : Surroundings) : Except FileFault String :=
  match surroundings.file path with
  | .error fault => .error fault
  | .ok bytes =>
      match ofUtf8? bytes with
      | some text => .ok text
      | none => .error .invalidText

end Surroundings

structure Settings where
  policy : Policy
  /-- The terms of service, if there are any. -/
  terms : Option Terms
deriving DecidableEq

/-- Why settings cannot be read. -/
inductive SettingsFault where
  | ceiling (error : WorkError)
  | rate (fault : Text.UnsignedFault)
  | terms (fault : FileFault)
deriving DecidableEq

namespace Settings

def ceilingVariable : String := "POW_INITIAL_MAXIMUM_ALLOWED_HASH_VALUE"

def rateVariable : String := "POW_DESIRED_SOLVE_RATE_PER_MINUTE"

def termsVariable : String := "TERMS_OF_SERVICE_FILE_PATH"

def readCeiling (setting : Option String) (policy : Policy) : Except SettingsFault Policy :=
  match setting with
  | none => .ok policy
  | some text =>
      match policy.withCeilingHex (Text.trim text) with
      | .ok policy => .ok policy
      | .error error => .error (.ceiling error)

def readRate (setting : Option String) (policy : Policy) : Except SettingsFault Policy :=
  match setting with
  | none => .ok policy
  | some text =>
      match Text.readUnsigned 0xFFFFFFFFFFFFFFFF (Text.trim text) with
      | .ok rate => .ok { policy with desiredRate := .ofNat rate }
      | .error fault => .error (.rate fault)

def readTerms
    (path : Option String)
    (surroundings : Surroundings) :
    Except SettingsFault (Option Terms) :=
  match path with
  | none => .ok none
  | some path =>
      match surroundings.fileText path with
      | .ok text => .ok (some { text })
      | .error fault => .error (.terms fault)

/-- Reads the ceiling, the rate and the terms, in this order. -/
def load (surroundings : Surroundings) : Except SettingsFault Settings := do
  let policy ← readCeiling (surroundings.text? ceilingVariable) {}
  let policy ← readRate (surroundings.text? rateVariable) policy
  let terms ← readTerms (surroundings.text? termsVariable) surroundings
  return { policy, terms }

end Settings

end WorkGate
