import ProofOfWork.Command.Run

/-!
# Main — the program

The environment, the files that the request names, and the exit code are dealt with here.  What is
printed and complained of is decided in `Command/Run`.  The program keeps no log, which leaves of
standard output what a log of errors alone leaves (`Invocation.standardOutput_of_quiet`).
-/

namespace ProofOfWork

/-- The files that a request looks at. -/
def Request.fileNames : Request → List String
  | .perform invocation =>
    let chainFile :=
      match invocation.action with
      | .nextWork name | .legacyRetarget name _ | .wellReport name _ _ _ => [name]
      | _ => []
    invocation.paramsFile.toList ++ chainFile
  | _ => []

/-- A file's name with its contents, if it can be read. -/
def readFile (name : String) : IO (String × Option String) := do
  try
    return (name, some (← IO.FS.readFile name))
  catch _ =>
    return (name, none)

/-- The words on standard error with which a run ends. -/
def complain : Outcome → List String
  | .printed _ => []
  | .failed complaints => ("Error: " ++ complaints.headD "") :: complaints.tail
  | .faulted fault => [fault.message]
  | .misused => ["misused; see powctl --help"]

end ProofOfWork

open ProofOfWork in
def main (arguments : List String) : IO UInt32 := do
  let env : Environment := ⟨← IO.getEnv "POW_NETWORK", ← IO.getEnv "POW_PARAMS"⟩
  let names := ((Request.ofArguments? env arguments).map Request.fileNames).getD []
  let contents ← names.mapM readFile
  let outcome := runCommandLine env (fun name => (contents.lookup name).join) arguments
  IO.print outcome.output
  for complaint in complain outcome do
    IO.eprintln complaint
  return outcome.exitCode
