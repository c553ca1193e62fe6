import Polyquery.CommandLine.Perform

/-!
# The program

The arguments, the environment and the files that a task names are read, and what
the task comes to is printed.  The program itself has no network: clusters and
servers do not answer, and stores are empty when they are opened.
-/

namespace Polyquery.CommandLine

/-- The text of a file, or why it cannot be read. -/
def readText (path : String) : IO (Except FileError String) := do
  try return .ok (← IO.FS.readFile path)
  catch
    | .noFileOrDirectory .. => return .error .notFound
    | .inappropriateType .. => return .error .isDirectory
    | _ => return .error .notText

/-- What can be read and reached, for the files that are named. -/
def readSurroundings (paths : List String) : IO Surroundings := do
  let files ← paths.mapM fun path => return (path, ← readText path)
  let named ← Target.variableNames.mapM fun name => return (name, ← IO.getEnv name)
  let file (path : String) : Except FileError String :=
    (files.lookup path).getD (.error .notFound)
  return {
    file := file
    environment := fun name => (named.lookup name).join
    http := fun _ => ⟨false, [], []⟩
    postgres := .fresh [] [] (some .poolTimedOut)
    mysql := ⟨[], some .poolTimedOut⟩
    sqlite := fun _ => .ok .empty }

/-- Do what the arguments ask for: the text to print, whether it is a result, and
the code to exit with. -/
def runArguments (arguments : List String) : IO (String × Bool × UInt32) := do
  match Invocation.ofArguments arguments with
  | .error cause =>
    return if cause.isAnswer then (cause.message, true, 0) else (cause.message, false, 2)
  | .ok invocation =>
    let surroundings ← readSurroundings (configFileName :: invocation.task.document?.toList)
    match (invocation.perform surroundings).result with
    | .ok answer => return (answer.output, true, 0)
    | .error cause => return ("Error: " ++ cause.message, false, 1)

end Polyquery.CommandLine

def main (arguments : List String) : IO UInt32 := do
  let (text, isResult, code) ← Polyquery.CommandLine.runArguments arguments
  if isResult then IO.println text else IO.eprintln text
  return code
