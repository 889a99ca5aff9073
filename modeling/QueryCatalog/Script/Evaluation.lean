import QueryCatalog.Lua.Script
import QueryCatalog.Mapping.Query
import QueryCatalog.Script.Native

/-!
Evaluation of scripts that give values: predicates, parameters, injections and hints.
-/
namespace QueryCatalog

/-- What scripts are compiled and evaluated with. -/
structure Workshop where
  natives : Natives := []
  /-- The kinds of scripts that may be used. -/
  kinds : List ScriptKind := [.template, .lua, .native, .literal]
  lua : Lua.Compiler := Lua.Script.compile

def Workshop.supports (w : Workshop) (kind : ScriptKind) : Bool := w.kinds.contains kind

/-- Why a script gives no answer, or not one that can be used. -/
inductive ScriptFailure where
  | lua (error : Lua.ScriptError)
  | native (text : String)
  | unknownNative (name : String)
  | notEvaluated (kind : ScriptKind)
  | hintRows (key : String)
  | injectionRows (target : String)

def ScriptFailure.message : ScriptFailure → String
  | .lua e => e.message
  | .native text => text
  | .unknownNative name => s!"No native script registered as '{name}'"
  | .notEvaluated kind => s!"Script kind '{kind.name}' cannot be evaluated here"
  | .hintRows key => s!"hint '{key}' script must return a list of rows"
  | .injectionRows target => s!"injection script for {target} must return a list of rows"

namespace Script

def compileLua (w : Workshop) (code : String) : Except ScriptFailure Lua.Script :=
  (w.lua code).mapError .lua

def evaluateLua (chunk : Lua.Script) (bindings : Bindings) : Except ScriptFailure Json :=
  (chunk.evaluate bindings).mapError .lua

def evaluateNative (natives : Natives) (name : String) (bindings : Bindings) :
    Except ScriptFailure Json :=
  match natives.named? name with
  | some native => (native.evaluate bindings).mapError .native
  | none => .error (.unknownNative (Text.trim name))

def evaluate (w : Workshop) (s : Script) (bindings : Bindings) : Except ScriptFailure Json :=
  match s.kind with
  | .lua => do evaluateLua (← compileLua w s.code) bindings
  | .native => evaluateNative w.natives s.code bindings
  | kind => .error (.notEvaluated kind)

end Script

end QueryCatalog
