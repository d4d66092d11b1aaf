import ThreatModel.Command.Arguments

/-!
The program: read the arguments, fetch the files they name, and show the result.
-/

open ThreatModel.Command

/-- What stands at a path now. -/
def fetch (path : String) : IO FileState := do
  try
    return .text (← IO.FS.readFile path)
  catch
    | .noFileOrDirectory .. => return .absent
    | _ => return .unreadable

def main (arguments : List String) : IO UInt32 := do
  let request := readArguments arguments
  let fetched ← request.paths.mapM fun path => return (path, ← fetch path)
  let files : Files := fun path => ((fetched.find? (·.1 == path)).map (·.2)).getD .absent
  let shown := request.run files
  IO.print shown.output
  return .ofNat shown.exitCode
