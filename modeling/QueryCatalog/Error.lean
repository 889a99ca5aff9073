import QueryCatalog.Script.Evaluation
import QueryCatalog.Settings.Basic
import QueryCatalog.Template.Render
import QueryCatalog.Mapping.Problem

/-!
Everything that can go wrong with a query, by its cause, and how it is told.
-/
namespace QueryCatalog

/-- Why a query gives no statement. -/
inductive BuildFailure where
  | template (error : TemplateError)
  | statement (error : StatementError)
  | lua (error : Lua.ScriptError)
  | unknownNative (name : String)
  | unsupportedKind (kind : ScriptKind)
  | emptyStatement

/-- What was to be converted. -/
inductive ConversionFailure where
  | unknownType (type : String)
  | parameter (name : String) (error : ConversionError)
  | resultField (query field : String) (error : ConversionError)
  | fetchParameter (owner name : String) (error : ConversionError)

inductive ErrorKind where
  | queryNotFound
  | mapping
  | build
  | script
  | conversion
  | statement
  | template
  | execution
  | sizeExceeded
  | fetchCycle
  | config
  | shutdown
  | io
  | json
  | toml
  deriving DecidableEq, Repr

inductive QueryError where
  | notFound (name : String)
  | mapping (problems : List Problem)
  | build (query : String) (cause : BuildFailure)
  | script (query : String) (cause : ScriptFailure)
  | conversion (cause : ConversionFailure)
  | statement (error : StatementError)
  | template (error : TemplateError)
  | execution (query text : String)
  | sizeExceeded (query : String) (maximum : Nat)
  | fetchCycle (path : List String)
  | settings (error : SettingsError)
  | shutdown

def statementMessage (e : StatementError) : String := "Statement error: " ++ e.message

def templateMessage (e : TemplateError) : String := "Template error: " ++ e.message

def BuildFailure.message : BuildFailure → String
  | .template e => templateMessage e
  | .statement e => statementMessage e
  | .lua e => e.message
  | .unknownNative name => s!"no native script registered as '{name}'"
  | .unsupportedKind kind => s!"no builder registered for script kind '{kind.name}'"
  | .emptyStatement => "script produced an empty statement"

def ConversionFailure.message : ConversionFailure → String
  | .unknownType type => s!"Unknown parameter type '{type}'"
  | .parameter name e => s!"parameter '{name}': " ++ e.message
  | .resultField query field e => s!"{query}: result field '{field}': " ++ e.message
  | .fetchParameter owner name e => s!"{owner}: fetch parameter '{name}': " ++ e.message

def SettingsError.kind : SettingsError → ErrorKind
  | .malformed => .toml
  | .unreadable _ => .io
  | _ => .config

namespace QueryError

def kind : QueryError → ErrorKind
  | .notFound _ => .queryNotFound
  | .mapping _ => .mapping
  | .build _ _ => .build
  | .script _ _ => .script
  | .conversion _ => .conversion
  | .statement _ => .statement
  | .template _ => .template
  | .execution _ _ => .execution
  | .sizeExceeded _ _ => .sizeExceeded
  | .fetchCycle _ => .fetchCycle
  | .settings e => e.kind
  | .shutdown => .shutdown

def message : QueryError → String
  | .notFound name => s!"Query '{name}' not found"
  | .mapping problems =>
    "Invalid query mapping: " ++ "; ".intercalate (problems.map Problem.message)
  | .build query cause => s!"Failed to build querier for '{query}': " ++ cause.message
  | .script query cause => s!"Script error in '{query}': " ++ cause.message
  | .conversion cause => "Conversion error: " ++ cause.message
  | .statement e => statementMessage e
  | .template e => templateMessage e
  | .execution query text => s!"Execution of '{query}' failed: " ++ text
  | .sizeExceeded query maximum => s!"Result of '{query}' exceeds the maximum size of {maximum}"
  | .fetchCycle path => "Fetch cycle detected: " ++ " -> ".intercalate path
  | .settings e => e.message
  | .shutdown => "Querier resolver is not running"

end QueryError

/-- A type by its name, or the failure that it is unknown. -/
def ParameterType.parse (name : String) : Except QueryError ParameterType :=
  match ParameterType.ofName? name with
  | some type => .ok type
  | none => .error (.conversion (.unknownType (ParameterType.canonical name)))

end QueryCatalog
