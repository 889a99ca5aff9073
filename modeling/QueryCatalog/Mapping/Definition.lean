import QueryCatalog.Dictionary
import QueryCatalog.Json.Value
import QueryCatalog.Text.Blank

/-!
Queries as they are written down: the attributes of a descriptor, before anything is checked.
-/
namespace QueryCatalog

/-- The name under which a query is known: its name and, if it has one, its version. -/
def versionedName (name version : String) : String :=
  if Text.allBlank version then Text.trim name else Text.trim name ++ ":" ++ Text.trim version

inductive ScriptKind where
  | template
  | lua
  | native
  | literal
  deriving DecidableEq, Repr

namespace ScriptKind

def name : ScriptKind → String
  | .template => "template"
  | .lua => "lua"
  | .native => "native"
  | .literal => "literal"

def words : List (String × ScriptKind) :=
  [("template", .template), ("tpl", .template), ("fm", .template),
    ("lua", .lua), ("js", .lua), ("script", .lua),
    ("native", .native), ("bean", .native), ("cdi", .native),
    ("literal", .literal), ("sql", .literal), ("raw", .literal)]

def ofWord? (word : String) : Option ScriptKind := words.lookup word

/-- The kinds whose scripts give values; the others only give statements. -/
def isEvaluated : ScriptKind → Bool
  | .lua => true
  | .native => true
  | _ => false

end ScriptKind

/-- The family of storage that a query is written for. -/
inductive QueryType where
  | sql
  | mongodb
  | elastic
  | cassandra
  deriving DecidableEq, Repr

namespace QueryType

def name : QueryType → String
  | .sql => "sql"
  | .mongodb => "mongodb"
  | .elastic => "elastic"
  | .cassandra => "cassandra"

def title : QueryType → String
  | .sql => "Sql"
  | .mongodb => "Mongodb"
  | .elastic => "Elastic"
  | .cassandra => "Cassandra"

def ofWord? (word : String) : Option QueryType :=
  [("sql", .sql), ("mongodb", .mongodb), ("elastic", .elastic), ("cassandra", .cassandra)].lookup word

end QueryType

/-- Where the parameter of a fetch takes its value from. -/
inductive ParameterSource where
  | parentParameter
  | parentResultField
  | constant
  | script
  deriving DecidableEq, Repr

namespace ParameterSource

def name : ParameterSource → String
  | .parentParameter => "parent-parameter"
  | .parentResultField => "parent-result-field"
  | .constant => "constant"
  | .script => "script"

def ofWord? (word : String) : Option ParameterSource :=
  [("parent-parameter", .parentParameter), ("P", .parentParameter),
    ("parent-result-field", .parentResultField), ("R", .parentResultField),
    ("constant", .constant), ("C", .constant), ("script", .script), ("S", .script)].lookup word

def needsSourceName : ParameterSource → Bool
  | .parentParameter => true
  | .parentResultField => true
  | _ => false

end ParameterSource

structure ScriptDefinition where
  kind : Option ScriptKind := none
  code : Option String := none
  /-- A file that holds the code, where there is none yet. -/
  source : Option String := none

namespace ScriptDefinition

def text (s : ScriptDefinition) : String := s.code.getD ""

def isBlank (s : ScriptDefinition) : Bool := Text.allBlank s.text

/-- The file that the code has to be read from. -/
def pending? (s : ScriptDefinition) : Option String := if s.isBlank then s.source else none

end ScriptDefinition

structure ParameterDefinition where
  name : String
  source : ParameterSource := .parentParameter
  sourceName : Option String := none
  value : Option Json := none
  type : Option String := none
  script : Option ScriptDefinition := none
  distinct : Bool := false
  singleAsList : Bool := false

/-- A query whose rows are fetched for the rows of another one. -/
structure FetchDefinition where
  reference : String
  referenceVersion : String := ""
  referenceType : Option QueryType := none
  property : Option String := none
  injection : Option ScriptDefinition := none
  parameters : List ParameterDefinition := []
  multiple : Bool := true
  maxSize : Nat := 1024
  predicate : Option ScriptDefinition := none
  eager : Bool := true

namespace FetchDefinition

def target (f : FetchDefinition) : String := versionedName f.reference f.referenceVersion

/-- The path to inject into; a blank one counts as none. -/
def path? (f : FetchDefinition) : Option String :=
  (f.property.map Text.trim).filter fun p => !p.isEmpty

def scripts (f : FetchDefinition) : List ScriptDefinition :=
  f.injection.toList ++ f.predicate.toList ++ f.parameters.flatMap (·.script.toList)

end FetchDefinition

structure HintDefinition where
  key : String
  parameters : Dictionary (List String) := []
  script : Option ScriptDefinition := none

structure QueryDefinition where
  name : String
  version : String := ""
  description : Option String := none
  resultClass : Option String := none
  resultSetMapping : Option String := none
  cache : Bool := false
  cacheMetadata : Bool := false
  type : QueryType := .sql
  script : ScriptDefinition := {}
  fetches : List FetchDefinition := []
  hints : List HintDefinition := []
  parameterTypes : Dictionary String := []
  properties : Dictionary String := []

namespace QueryDefinition

def id (q : QueryDefinition) : String := versionedName q.name q.version

/-- All scripts of a query, its body first. -/
def scripts (q : QueryDefinition) : List ScriptDefinition :=
  q.script :: q.fetches.flatMap FetchDefinition.scripts ++ q.hints.flatMap (·.script.toList)

end QueryDefinition

end QueryCatalog
