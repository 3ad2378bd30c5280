import Switchboard.CommandLine
import Switchboard.Pattern.Reader

/-!
The command: reads the settings file that the arguments name, and reports on it.
-/

namespace Switchboard.CommandLine

/-- What kept a file from being read. -/
def unreadable : IO.Error → Settings.Unreadable
  | .inappropriateType _ code _ => if code = 21 then .folder else .notFolder
  | .permissionDenied .. => .denied
  | .invalidArgument .. => .nameTooLong
  | _ => .missing

/-- The content of a file. -/
def contentOf (path : String) : IO (Except Settings.Unreadable Bytes) := do
  try return .ok (← IO.FS.readBinFile path).toList
  catch e => return .error (unreadable e)

/-- Reads the settings file, if the arguments name one, carries out the command, and gives its exit code. -/
def perform (args : List String) : IO UInt32 := do
  let content ← match read args with
    | some (.run ⟨some path, _⟩) => contentOf path
    | _ => pure (.error .missing)
  let outcome := carryOut Pattern.language (fun _ => content) args
  (← IO.getStdout).putStr outcome.output
  (← IO.getStderr).putStr outcome.errorOutput
  return UInt32.ofNat outcome.exitCode

end Switchboard.CommandLine

/-- The command. -/
def main (args : List String) : IO UInt32 := Switchboard.CommandLine.perform args
