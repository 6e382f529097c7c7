import BlockScript.CommandLine.Run

/-!
# The program

Reads the files that the command line names, and writes what the command gives.
-/

open BlockScript CommandLine

/-- What is found at a path on disk. -/
def readFileAt (path : String) : IO FileAt := do
  try return .text (← IO.FS.readFile path)
  catch
    | .noFileOrDirectory .. => return .missing
    | _ => return .directory

def main (args : List String) : IO UInt32 := do
  let paths := match Request.ofArguments args with
    | .run invocation => invocation.paths
    | _ => []
  let found ← paths.mapM fun path => return (path, ← readFileAt path)
  let files (path : String) : FileAt := ((found.find? (·.1 == path)).map (·.2)).getD .missing
  match run files args with
  | .ok exit =>
    (← IO.getStdout).putStr exit.output
    (← IO.getStderr).putStr exit.errors
    return exit.code.toUInt32
  | .error e =>
    (← IO.getStderr).putStrLn (e.message?.getD "The settings cannot be read.")
    return 1
