import QueryCatalog.Command.Help
import QueryCatalog.Mapping.Draft
import QueryCatalog.Plan.Store

/-!
What a command prints and how it ends.
-/
namespace QueryCatalog

inductive CommandFailure where
  | misuse
  /-- The problems themselves are printed. -/
  | problems (count : Nat)
  | query (error : QueryError)
  /-- The value of an option that should be a JSON document and is none. -/
  | document (option : String)

namespace CommandFailure

def message : CommandFailure → String
  | .misuse => "the arguments do not form a command"
  | .problems count => s!"{count} mapping problems found"
  | .query e => e.message
  | .document option => s!"the value of --{option} is not a JSON document"

def exitCode : CommandFailure → Nat
  | .misuse => 2
  | _ => 1

end CommandFailure

structure Outcome where
  output : String := ""
  failure : Option CommandFailure := none

namespace Outcome

def ofLines (lines : List String) : Outcome := { output := String.join (lines.map (· ++ "\n")) }

def failed (failure : CommandFailure) : Outcome := { failure := some failure }

def ofResult : Except CommandFailure (List String) → Outcome
  | .ok lines => ofLines lines
  | .error e => failed e

def exitCode (o : Outcome) : Nat :=
  match o.failure with
  | some failure => failure.exitCode
  | none => 0

end Outcome

namespace Command

def load (files : Files) (paths : List String) : Draft :=
  paths.foldl (fun d path => d.loadFile files path) {}

def catalog (files : Files) (paths : List String) : Except CommandFailure Catalog :=
  (load files paths).build.mapError fun problems => .query (.mapping problems)

def validated (d : Draft) : Outcome :=
  match d.problems with
  | [] => .ofLines [s!"{d.definitions.length} queries OK"]
  | problems =>
    { Outcome.ofLines (problems.map Problem.message) with failure := some (.problems problems.length) }

def listed (q : Query) : String :=
  s!"{q.id}\t{q.script.kind.name}\t{q.fetches.length} fetch queries"

def document (option text : String) : Except CommandFailure Json :=
  match Json.parse? text with
  | some v => .ok v
  | none => .error (.document option)

/-- The statement of a request with its arrays expanded. -/
def rendered (c : Catalog) (query : String) (request : Request)
    (lua : Lua.Compiler := Lua.Script.compile) : Except QueryError (Prepared × BoundStatement) := do
  let p ← (({ catalog := c : PlanStore }.start).prepare { lua } query request).1
  let final ← (Statement.bindPositional p.bound.statement p.bound.args).mapError .statement
  return (p, final)

def renderedLine (p : Prepared) (final : BoundStatement) : String :=
  (Json.obj [("query", .str p.name), ("statement", .str final.statement),
    ("args", .arr final.args)]).pretty

def renderLines (files : Files) (paths : List String) (query param context : String)
    (lua : Lua.Compiler := Lua.Script.compile) : Except CommandFailure (List String) := do
  let catalog ← catalog files paths
  let criteria ← document "param" param
  let context ← document "context" context
  let (p, final) ← (rendered catalog query { criteria, context } lua).mapError .query
  return [renderedLine p final]

def run (files : Files) : Command → Outcome
  | .validate paths => validated (load files paths)
  | .list paths => .ofResult ((catalog files paths).map fun c => c.values.map listed)
  | .render paths query param context => .ofResult (renderLines files paths query param context)

end Command

def Invocation.outcome (files : Files) : Invocation → Outcome
  | .run command => command.run files
  | .help topic => .ofLines topic.lines
  | .misuse => .failed .misuse

end QueryCatalog
