import WorkGate.Startup

/-!
# The command line

Checks the surroundings of the process and reports either the refusal, with exit code 1, or the
settings that a registrar would run with.
-/

namespace WorkGate.CommandLine

def variableNames : List String :=
  [Settings.ceilingVariable, Settings.rateVariable, Settings.termsVariable, Startup.socketVariable,
   Startup.databaseVariable]

/-- The sentence that states why a file cannot be read. -/
def fileMessage : FileFault → String
  | .notFound => "no such file"
  | .isDirectory => "is a directory"
  | .invalidText => "stream did not contain valid UTF-8"

/-- The sentence that states why a registrar does not start. -/
def refusal : StartupFault → String
  | .settings (.ceiling error) => error.message
  | .settings (.rate fault) => fault.message
  | .settings (.terms fault) => fileMessage fault
  | .socket fault => fault.message
  | .database .malformedAddress => "malformed database address"
  | .database .unreachable => "database does not answer"
  | .registrar error => error.message

/-- The content of a file, or why it cannot be read. -/
def readFile (path : String) : IO (Except FileFault Bytes) := do
  try
    let content ← IO.FS.readBinFile path
    return .ok content.data.toList
  catch error =>
    match error with
    | .noFileOrDirectory .. => return .error .notFound
    | _ => return .error .isDirectory

def surroundings : IO Surroundings := do
  let settings ← variableNames.mapM fun name => return (name, ← IO.getEnv name)
  let value := fun name => ((settings.lookup name).bind id).map utf8
  let content ←
    match (settings.lookup Settings.termsVariable).bind id with
    | some path => readFile path
    | none => pure (.error .notFound)
  return { environment := value, file := fun _ => content }

end WorkGate.CommandLine

/-- Checks the surroundings and reports the outcome. -/
def main : IO UInt32 := do
  match WorkGate.Startup.prepare (← WorkGate.CommandLine.surroundings) with
  | .error fault =>
      IO.eprintln ("Error: " ++ WorkGate.CommandLine.refusal fault)
      return 1
  | .ok startup =>
      IO.println ("maximum allowed hash value " ++ startup.registrar.gatekeeper.ceiling.toHex)
      IO.println ("socket " ++ toString startup.socket)
      return 0
