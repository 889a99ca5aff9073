import QueryCatalog.Script.Evaluation

/-!
Evaluation with a store of compiled chunks, so that a code is compiled once. Codes that are no
chunks are not kept.
-/
namespace QueryCatalog

structure Runner extends Workshop where
  chunks : Dictionary Lua.Script := []

namespace Runner

def chunk (r : Runner) (code : String) : Except ScriptFailure Lua.Script × Runner :=
  match r.chunks.find? code with
  | some chunk => (.ok chunk, r)
  | none =>
    match Script.compileLua r.toWorkshop code with
    | .ok chunk => (.ok chunk, { r with chunks := r.chunks.insert code chunk })
    | .error e => (.error e, r)

def evaluate (r : Runner) (s : Script) (bindings : Bindings) : Except ScriptFailure Json × Runner :=
  match s.kind with
  | .lua =>
    let (chunk, r) := r.chunk s.code
    (chunk.bind fun c => Script.evaluateLua c bindings, r)
  | _ => (s.evaluate r.toWorkshop bindings, r)

end Runner

end QueryCatalog
