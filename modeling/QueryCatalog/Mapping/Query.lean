import QueryCatalog.Mapping.Definition
import QueryCatalog.Convert.Conversion

/-!
Queries as they are served: names trimmed, types known, blank paths dropped. A definition is
always made into a query; whether it should be is what validation decides.
-/
namespace QueryCatalog

structure Script where
  kind : ScriptKind
  code : String
  deriving DecidableEq, Repr

namespace Script

def isValid (s : Script) : Bool := !Text.allBlank s.code

def ofDefinition (s : ScriptDefinition) : Script := ⟨s.kind.getD .literal, s.text⟩

end Script

structure Parameter where
  name : String
  source : ParameterSource
  sourceName : Option String
  value : Option Json
  type : Option ParameterType
  script : Option Script
  distinct : Bool
  singleAsList : Bool

def Parameter.ofDefinition (p : ParameterDefinition) : Parameter :=
  { name := p.name
    source := p.source
    sourceName := p.sourceName.map Text.trim
    value := p.value
    type := p.type.bind ParameterType.ofName?
    script := p.script.map Script.ofDefinition
    distinct := p.distinct
    singleAsList := p.singleAsList }

structure Fetch where
  referenceName : String
  referenceVersion : String
  property : Option String
  injection : Option Script
  parameters : List Parameter
  multiple : Bool
  maxSize : Nat
  predicate : Option Script
  eager : Bool

namespace Fetch

/-- The name of the query that is fetched. -/
def target (f : Fetch) : String := versionedName f.referenceName f.referenceVersion

def ofDefinition (f : FetchDefinition) : Fetch :=
  { referenceName := Text.trim f.reference
    referenceVersion := Text.trim f.referenceVersion
    property := f.path?
    injection := f.injection.map Script.ofDefinition
    parameters := f.parameters.map Parameter.ofDefinition
    multiple := f.multiple
    maxSize := f.maxSize
    predicate := f.predicate.map Script.ofDefinition
    eager := f.eager }

end Fetch

structure Hint where
  key : String
  parameters : Dictionary (List String)
  script : Option Script

namespace Hint

def parameter (h : Hint) (name : String) : List String := (h.parameters.find? name).getD []

def ofDefinition (h : HintDefinition) : Hint :=
  { key := Text.trim h.key
    parameters := h.parameters
    script := h.script.map Script.ofDefinition }

end Hint

structure Query where
  name : String
  version : String
  description : Option String
  resultClass : Option String
  resultSetMapping : Option String
  cache : Bool
  cacheMetadata : Bool
  type : QueryType
  script : Script
  fetches : List Fetch
  hints : List Hint
  parameterTypes : Convert.Schema
  properties : Dictionary String

namespace Query

def id (q : Query) : String := versionedName q.name q.version

/-- Types without a meaning are left out. -/
def schema (types : Dictionary String) : Convert.Schema :=
  types.filterMap fun entry => (ParameterType.ofName? entry.2).map (entry.1, ·)

def ofDefinition (q : QueryDefinition) : Query :=
  { name := Text.trim q.name
    version := Text.trim q.version
    description := q.description
    resultClass := q.resultClass
    resultSetMapping := q.resultSetMapping
    cache := q.cache
    cacheMetadata := q.cacheMetadata
    type := q.type
    script := Script.ofDefinition q.script
    fetches := q.fetches.map Fetch.ofDefinition
    hints := q.hints.map Hint.ofDefinition
    parameterTypes := schema q.parameterTypes
    properties := q.properties }

/-- A property as an unsigned number of 64 bits; what is written otherwise counts as absent. -/
def wordProperty? (q : Query) (key : String) : Option Nat :=
  (q.properties.find? key).bind fun v => Text.word? (Text.trimChars v.toList)

end Query

/-- The queries that are served, by their names. -/
abbrev Catalog := Dictionary Query

def Catalog.ofDefinitions (definitions : List QueryDefinition) : Catalog :=
  Dictionary.ofList (definitions.map fun q => ((Query.ofDefinition q).id, Query.ofDefinition q))

end QueryCatalog
