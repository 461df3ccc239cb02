import FilterQuery.CommandLine

/-!
# The program

Reads what a request needs, and prints the response.
-/

namespace FilterQuery

namespace CommandLine

/-- Why a file could not be read, in the words of the system. -/
def reasonOf : IO.Error → String
  | .noFileOrDirectory .. => "No such file or directory (os error 2)"
  | e => toString e

/-- Read a file, and keep the reason where that fails. -/
def readText (path : String) : IO (Except String String) := do
  try return .ok (← IO.FS.readFile path)
  catch e => return .error (reasonOf e)

/-- Carry out what the arguments ask for. -/
def run (args : List String) : IO UInt8 := do
  let request := Request.ofArguments args
  let input ←
    if request.any Request.readsInput then (← IO.getStdin).readToEnd else pure ""
  let file ← match request.bind Request.file? with
    | some path => readText path
    | none => pure (.ok "")
  let response := respond (fun _ => file) input args
  (← IO.getStdout).putStr response.output
  (← IO.getStderr).putStr response.complaint
  return response.exit

end CommandLine

end FilterQuery

/-- The program: its arguments in, its exit code out. -/
def main (args : List String) : IO UInt32 := do
  return (← FilterQuery.CommandLine.run args).toUInt32
