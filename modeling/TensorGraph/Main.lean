import TensorGraph.Command.Run

/-!
# Main — the command at the terminal
-/

namespace TensorGraph.Command

/-- Reads a file of the file system. -/
def readFile (path : String) : IO (Except GraphFile.ReadFault String) := do
  try
    return .ok (← IO.FS.readFile path)
  catch
    | .noFileOrDirectory .. => return .error .missing
    | .inappropriateType .. => return .error .directory
    | e => return .error (.other (toString e))

/-- What a run with these arguments needs to read: the file to check, if there is one. -/
def readNeeded (arguments : List String) : IO (Except GraphFile.ReadFault String) :=
  match parseFlags {} arguments with
  | .ok (o, []) => if o.check = "" then pure (.error .missing) else readFile o.check
  | _ => pure (.error .missing)

end TensorGraph.Command

open TensorGraph in
/-- Runs the command: its file is read first, and the rest is computed. -/
def main (arguments : List String) : IO UInt32 := do
  let contents ← Command.readNeeded arguments
  let result := Command.run (fun _ => contents) arguments
  IO.print result.output
  if let some failure := result.failure? then
    IO.eprintln failure.message
  return UInt32.ofNat result.exitCode
