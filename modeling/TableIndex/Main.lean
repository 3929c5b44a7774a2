import TableIndex.CommandLine.Run

/-!
# The program

The command line of the indexer. No network is built in, so every request is lost, as with a cluster that
cannot be reached; commands that need no request work.
-/

open TableIndex

/-- What is found at a path of the machine. -/
def findOnDisk (path : String) : IO Found := do
  try
    return .file (← IO.FS.readFile path)
  catch _ =>
    try
      let _ ← IO.FS.realPath path
      return .directory
    catch _ =>
      return .nothing

/-- Runs the program. -/
def main (arguments : List String) : IO UInt32 := do
  let environment ← Config.variableNames.filterMapM fun name =>
    return (← IO.getEnv name).map fun value => (name, value)
  let given := match CommandLine.Invocation.parse none arguments with
    | .ok i => i.configPath
    | .error _ => none
  let path := Config.pathOf environment given
  let found ← findOnDisk path
  let outcome := CommandLine.run (fun p => if p = path then found else .nothing) environment arguments
    Http.Web.unreachable
  IO.print outcome.stdout
  IO.eprint outcome.stderr
  return outcome.exitStatus.toUInt32
