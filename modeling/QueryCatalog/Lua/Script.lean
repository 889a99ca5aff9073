import QueryCatalog.Lua.Eval
import QueryCatalog.Lua.Parser
import QueryCatalog.Script.Bindings
import QueryCatalog.Statement.Binding

/-!
Lua chunks as scripts. Each run has a state of its own with the globals `p` (criteria), `ctx`
(context), `rows` and `fetched`, and `sp`, which records a bound value and stands for its marker.
-/
namespace QueryCatalog.Lua

inductive ScriptError where
  | malformed
  | fault (fault : Fault)
  | answer (fault : Fault)
  | statementText
  | notStatement (kind : String)

def ScriptError.message : ScriptError → String
  | .malformed => "Lua syntax error: the chunk is not well formed"
  | .fault f => "Lua error: " ++ f.message
  | .answer f => "Failed to convert Lua to JSON: " ++ f.message
  | .statementText => "Invalid statement text: " ++ Fault.notText.message
  | .notStatement kind => "Lua statement script must return a string, got " ++ kind

/-- A compiled chunk, known by how it runs from a state on and what it returns. Nothing else is
asked of the library that compiles and runs it. -/
structure Script where
  start : State → Course (List Value)

/-- Makes scripts of code, or tells why there is none. -/
abbrev Compiler := String → Except ScriptError Script

def Script.ofChunk (chunk : Chunk) : Script := ⟨runChunk chunk⟩

/-- The code must be a chunk. If it is an expression too, running it gives the expression's value. -/
def Script.compile : Compiler := fun code =>
  match Chunk.parse? code with
  | none => .error .malformed
  | some chunk => .ok (.ofChunk ((Chunk.parse? ("return " ++ code)).getD chunk))

/-- The name of the global variable that holds what `sp` has recorded, -/
def recordName : String := "__sp_args"

/-- and of the field that counts it. -/
def countName : String := "n"

/-- A recorded count; none counts as zero. -/
def countOf (v : Value) : Except Fault Int64 :=
  match v with
  | .nil => .ok 0
  | .num (.int n) => .ok n
  | .num (.float x) => if x.isFinite then .ok x.toInt64 else .error (.argument "sp")
  | other =>
    match (toNumeral? other).bind Numeral.int? with
    | some n => .ok n
    | none => .error (.argument "sp")

namespace State

def setData (s : State) (name : String) (data : Data) : State :=
  let (value, s) := s.load data
  s.setGlobal name value

def setRows (s : State) (name : String) : Option (List Row) → State
  | some rows => s.setData name (.ofRows rows)
  | none => s

def setTable (s : State) (name : String) (entries : List (Value × Value)) : State :=
  let (ref, s) := s.addTable { entries }
  s.setGlobal name (.table ref)

/-- Some of the functions that Lua comes with, as far as the interpreter has them. -/
def withBuiltins (s : State) : State :=
  ([("ipairs", .builtin .ipairs), ("tostring", .builtin .tostring), ("type", .builtin .type),
      ("error", .builtin .error)].foldl (fun s (n, v) => s.setGlobal n v) s).setTable "table"
    [(.text "insert", .builtin .insert), (.text "concat", .builtin .concat)]

def ofBindings (b : Bindings) : State :=
  let s := ((({} : State).withBuiltins.setData "p" (.ofJson b.criteria)).setData "ctx"
    (.ofJson b.context)).setRows "rows" b.rows
  ((s.setRows "fetched" b.fetched).setTable recordName [(.text countName, .int 0)]).setGlobal "sp"
    (.builtin .bind)

def json? (s : State) (v : Value) : Option Json := (s.data? v).bind Data.toJson?

/-- Fails on text outside UTF-8, and does not come to an end on a table that contains itself. -/
def json (s : State) (v : Value) : Except Fault Json :=
  match s.data? v with
  | some d => d.toJson?.elim (.error .notText) .ok
  | none => .error .endless

def recordTable (s : State) : Except Fault Nat :=
  match s.global recordName with
  | .table ref => .ok ref
  | other => .error (.indexing other.typeName)

/-- Records a value under the next number; nil leaves a gap that the count still covers. -/
def record (v : Value) (s : State) : Except Fault State := do
  let ref ← s.recordTable
  let next := (← countOf ((s.table ref).get (.text countName))) + 1
  return s.withTable ref
    (((s.table ref).set (.num (.int next)) v).set (.text countName) (.num (.int next)))

/-- Everything recorded so far, one value for each number that is counted. -/
def recorded (s : State) : Except Fault (List Value) := do
  let t := s.table (← s.recordTable)
  let count ← countOf (t.get (.text countName))
  return (List.range count.toInt.toNat).map fun (i : Nat) => t.get (.int (i + 1))

end State

/-- An array gives its items, the empty table gives none, any other value is bound alone. -/
def explicitArgs : Json → List Json
  | .arr items => items
  | .obj [] => []
  | other => [other]

namespace Script

/-- What the chunk returns, with the state it leaves. -/
def run (script : Script) (bindings : Bindings) : Except ScriptError (List Value × State) :=
  ((script.start (.ofBindings bindings)).run State.record).mapError .fault

/-- The first value that the chunk returns. -/
def evaluate (script : Script) (bindings : Bindings) : Except ScriptError Json := do
  let (values, s) ← script.run bindings
  (s.json (values.headD .nil)).mapError .answer

def statementText : Value → Except ScriptError String
  | .str bytes =>
    match String.fromUTF8? bytes with
    | some text => .ok text
    | none => .error .statementText
  | .nil => .ok ""
  | other => .error (.notStatement other.kindName)

/-- The values to bind: the second value that the chunk returns, or else what it recorded. -/
def boundArgs (s : State) : Value → Except ScriptError (List Json)
  | .nil => (s.recorded.bind (·.mapM s.json)).mapError .fault
  | other => ((s.json other).map explicitArgs).mapError .fault

def statement (script : Script) (criteria context : Json) : Except ScriptError BoundStatement := do
  let (values, s) ← script.run { criteria, context }
  let text ← statementText (values.headD .nil)
  let args ← boundArgs s (values.getD 1 .nil)
  return ⟨text, args⟩

end Script

end QueryCatalog.Lua
