import QueryCatalog.Command.Outcome

/-!
The program: reads the files that a command names, runs it, and prints what comes of it.
-/
namespace QueryCatalog

def ReadError.ofError : IO.Error → ReadError
  | .noFileOrDirectory _ _ _ => .notFound
  | .inappropriateType _ _ _ => .isDirectory
  | e => .other (toString e)

def readText (path : String) : IO (Except ReadError String) := do
  try
    match String.fromUTF8? (← IO.FS.readBinFile path) with
    | some text => return .ok text
    | none => return .error (.other "stream did not contain valid UTF-8")
  catch e => return .error (.ofError e)

/-- A descriptor with the files that its scripts are read from. -/
def readDescriptor (path : String) : IO (List (String × Except ReadError String)) := do
  let text ← readText path
  let sources := match text with
    | .ok text => Draft.sourcesOf path text
    | .error _ => []
  let read ← sources.mapM fun source => return (source, ← readText source)
  return (path, text) :: read

def readAll (paths : List String) : IO Files := do
  let read ← paths.mapM readDescriptor
  return fun path => (read.flatten.lookup path).getD (.error .notFound)

def Invocation.files : Invocation → List String
  | .run command => command.files
  | _ => []

def printOutcome (o : Outcome) : IO Unit := do
  IO.print o.output
  match o.failure with
  | some failure => IO.eprintln ("Error: " ++ failure.message)
  | none => return

end QueryCatalog

def main (args : List String) : IO UInt32 := do
  let invocation := QueryCatalog.Command.parse args
  let outcome := invocation.outcome (← QueryCatalog.readAll invocation.files)
  QueryCatalog.printOutcome outcome
  return outcome.exitCode.toUInt32
