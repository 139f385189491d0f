import BulkJobs.Console
import BulkJobs.Http.Script

/-!
# The program

Runs the command line in the environment of the process. The network is the script of replies in the
file that the variable `BULKLINE_REPLIES` names; without it no host can be reached.
-/

set_option autoImplicit false
set_option relaxedAutoImplicit false

namespace BulkJobs.Program

/-- The variables of the environment that the program looks at. -/
def readEnvironment : IO Environment := do
  let names := Credentials.instanceUrlVariables ++ Credentials.accessTokenVariables ++
    Credentials.apiVersionVariables
  names.filterMapM fun name ↦ do
    return (← IO.getEnv name).map fun value ↦ (name, value)

/-- The content of a file, or why it cannot be read. -/
def readBytes (path : String) : IO (Except String Octets) := do
  try
    return .ok (← IO.FS.readBinFile path).toList
  catch
    | .noFileOrDirectory _ _ _ => return .error "No such file or directory (os error 2)"
    | failure => return .error (toString failure)

/-- The network of the process. -/
def readTraffic : IO Http.Traffic := do
  match ← IO.getEnv "BULKLINE_REPLIES" with
  | none => return { reachable := false }
  | some path =>
    match ← readBytes path with
    | .error _ => return { reachable := false }
    | .ok script => return { replies := ((Json.parse? script).map Http.Script.repliesOf).getD [] }

/-- Run the command line and give the exit status. -/
def run (arguments : List String) : IO UInt32 := do
  let data ← match Console.Command.parse? arguments with
    | some (.ingest _ file _) => readBytes file
    | _ => pure (.ok [])
  let surroundings : Console.Surroundings := {
    environment := ← readEnvironment
    fileContent := fun _ ↦ data
    clock := fun _ ↦ ⟨0⟩ }
  let (result, _) :=
    (Console.run surroundings (arguments.map Utf8.encode)).run (← readTraffic)
  (← IO.getStdout).putStr result.output
  (← IO.getStderr).putStr result.errors
  return UInt32.ofNat result.status

end BulkJobs.Program

/-- Run the command line. -/
def main (arguments : List String) : IO UInt32 :=
  BulkJobs.Program.run arguments
