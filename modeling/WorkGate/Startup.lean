import WorkGate.Registrar
import WorkGate.Settings

/-!
# Starting up

Before a registrar runs, its surroundings are checked in a fixed order: the settings, the number of
the socket to listen on, the address of a database if one is given, and last whether the settings
make a usable policy.  The first check that fails is the refusal.

Registrations are kept in memory here.  An address that is not well formed is refused as such, and
a well-formed one because nothing answers there.
-/

namespace WorkGate

/-- What is wrong with the database that is asked for. -/
inductive DatabaseFault where
  | malformedAddress
  | unreachable
deriving DecidableEq

namespace DatabaseFault

/-- Whether a character may occur in a scheme behind its first letter. -/
def isSchemeChar (char : Char) : Bool :=
  char.isAlphanum || ['+', '-', '.'].contains char

/-- Whether a text is the number of a socket, or empty. -/
def isSocket (text : List Char) : Bool :=
  let number := text.foldl (fun value digit => value * 10 + (digit.toNat - 48)) 0
  text.isEmpty || (text.all Char.isDigit && number ≤ 65535)

/-- Whether what follows the double slash starts with a host and possibly a socket number. -/
def isAuthority (text : List Char) : Bool :=
  let authority := text.takeWhile fun char => ¬ ['/', '?', '#'].contains char
  let hostAndSocket := (authority.reverse.takeWhile (· ≠ '@')).reverse
  match hostAndSocket with
  | '[' :: bracketed =>
      match bracketed.dropWhile (· ≠ ']') with
      | [']'] => true
      | ']' :: ':' :: socket => isSocket socket
      | _ => false
  | plain =>
      let host := plain.takeWhile (· ≠ ':')
      host.all (fun char => ¬ [' ', '[', ']', '<', '>', '^', '|', '\\'].contains char) &&
        isSocket (plain.drop (host.length + 1))

/-- Whether a text is an address: a scheme, a colon, and an authority if two slashes follow. -/
def isAddress (text : String) : Bool :=
  let scheme := text.toList.takeWhile (· ≠ ':')
  let rest := text.toList.drop scheme.length
  match scheme, rest with
  | first :: others, ':' :: '/' :: '/' :: authority =>
      first.isAlpha && others.all isSchemeChar && isAuthority authority
  | first :: others, ':' :: _ => first.isAlpha && others.all isSchemeChar
  | _, _ => false

/-- The fault of asking for a database at an address. -/
def ofAddress (address : String) : DatabaseFault :=
  if isAddress address then unreachable else malformedAddress

end DatabaseFault

/-- Why a registrar does not start. -/
inductive StartupFault where
  | settings (fault : SettingsFault)
  | socket (fault : Text.UnsignedFault)
  | database (fault : DatabaseFault)
  | registrar (error : RegistrationError)
deriving DecidableEq

/-- A registrar ready to run. -/
structure Startup where
  registrar : Registrar
  socket : Nat

namespace Startup

def defaultSocket : Nat := 3000

def socketVariable : String := "SERVER_PORT"

def databaseVariable : String := "DATABASE_URL"

def readSocket (setting : Option String) : Except StartupFault Nat :=
  match setting with
  | none => .ok defaultSocket
  | some text =>
      match Text.readUnsigned 65535 text with
      | .ok socket => .ok socket
      | .error fault => .error (.socket fault)

def checkDatabase (address : Option String) : Except StartupFault Unit :=
  match address with
  | none => .ok ()
  | some address => .error (.database (.ofAddress address))

def readSettings (surroundings : Surroundings) : Except StartupFault Settings :=
  match Settings.load surroundings with
  | .ok settings => .ok settings
  | .error fault => .error (.settings fault)

def createRegistrar (settings : Settings) : Except RegistrationError Registrar :=
  match Registrar.create settings.policy settings.terms {} with
  | .ok registrar => .ok registrar
  | .error error => .error (.work error)

/-- Performs all checks and creates the registrar. -/
def prepare (surroundings : Surroundings) : Except StartupFault Startup := do
  let settings ← readSettings surroundings
  let socket ← readSocket (surroundings.text? socketVariable)
  checkDatabase (surroundings.text? databaseVariable)
  match createRegistrar settings with
  | .ok registrar => return { registrar, socket }
  | .error error => throw (.registrar error)

end Startup

end WorkGate
