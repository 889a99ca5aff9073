import QueryCatalog.Plan.Prepared

/-!
Plans: queries with their scripts compiled. A plan is made once and serves any number of requests.
-/
namespace QueryCatalog

/-- A compiled script that gives statements. -/
inductive Body where
  | template (nodes : List Template.Node)
  | lua (chunk : Lua.Script)
  | native (script : NativeScript)
  | literal (statement : String)

namespace Body

/-- A literal statement must be well formed although it is kept as text. -/
def compile (w : Workshop) (s : Script) : Except BuildFailure Body :=
  match s.kind with
  | .template => (Template.compile s.code).map Body.template |>.mapError .template
  | .lua => (w.lua s.code).map Body.lua |>.mapError .lua
  | .native =>
    match w.natives.named? s.code with
    | some script => .ok (.native script)
    | none => .error (.unknownNative (Text.trim s.code))
  | .literal => (Statement.parse s.code).map (fun _ => Body.literal s.code) |>.mapError .statement

/-- A literal statement takes its values by position from an array and by name from anything
else. -/
def bindLiteral (statement : String) : Json → Except StatementError BoundStatement
  | .arr items => Statement.bindPositional statement items
  | criteria => Statement.bindNamed statement criteria

def statement (query : String) (request : Request) : Body → Except QueryError BoundStatement
  | .template nodes =>
    ((Template.render nodes request.criteria).map fun out => ⟨out.1, out.2⟩).mapError
      (.build query ∘ .template)
  | .lua chunk =>
    (chunk.statement request.criteria request.context).mapError (.script query ∘ .lua)
  | .native script =>
    (script.statement request.criteria request.context).mapError (.script query ∘ .native)
  | .literal text => (bindLiteral text request.criteria).mapError (.build query ∘ .statement)

def isLiteral : Body → Bool
  | .literal _ => true
  | _ => false

end Body

structure Plan where
  query : Query
  body : Body

namespace Plan

def create (w : Workshop) (q : Query) : Except QueryError Plan :=
  if w.supports q.script.kind then
    ((Body.compile w q.script).map (Plan.mk q)).mapError (.build q.id)
  else .error (.build q.id (.unsupportedKind q.script.kind))

def convert (q : Query) (request : Request) : Except QueryError Request :=
  match Convert.criteria q.parameterTypes request.criteria with
  | .ok criteria => .ok { request with criteria }
  | .error (name, e) => .error (.conversion (.parameter name e))

/-- Binds the plan to a request. -/
def prepare (p : Plan) (request : Request) : Except QueryError Prepared := do
  let request ← convert p.query request
  let bound ← p.body.statement p.query.id request
  if Text.allBlank bound.statement then throw (.build p.query.id .emptyStatement)
  return { query := p.query, request, bound, expanded := p.body.isLiteral }

end Plan

end QueryCatalog
