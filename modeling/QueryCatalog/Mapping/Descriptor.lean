import QueryCatalog.Mapping.Definition
import QueryCatalog.Json.Reader
import QueryCatalog.Toml.Reader
import QueryCatalog.Files
import QueryCatalog.Text.Case

/-!
Descriptors: documents that define queries, in TOML or JSON. Unknown fields are ignored; a field
that is known may be written once. A structure may also be written as an array of its fields in
order.
-/
namespace QueryCatalog

inductive DescriptorFormat where
  | toml
  | json
  deriving DecidableEq, Repr

namespace DescriptorFormat

def ofPath? (path : String) : Option DescriptorFormat :=
  match (Files.extension? path).map Text.toAsciiLower with
  | some "toml" => some .toml
  | some "json" => some .json
  | _ => none

/-- The document as it is written, before repeated names are settled. -/
def read? (format : DescriptorFormat) (text : String) : Option Json :=
  match format with
  | .toml => Toml.parse? text
  | .json => Json.readRaw? text

end DescriptorFormat

namespace Descriptor

abbrev Decoder (α : Type) := Json → Option α

def text : Decoder String
  | .str s => some s
  | _ => none

def flag : Decoder Bool
  | .bool b => some b
  | _ => none

/-- A number of things, below a bound. -/
def countBelow (bound : Nat) : Decoder Nat
  | .num (.int n) => if 0 ≤ n ∧ n.toNat < bound then some n.toNat else none
  | _ => none

def count : Decoder Nat := countBelow Text.wordBound

def listOf {α : Type} (decode : Decoder α) : Decoder (List α)
  | .arr items => items.mapM decode
  | _ => none

def dictionaryOf {α : Type} (decode : Decoder α) : Decoder (Dictionary α)
  | .obj fields =>
    (fields.mapM fun field => (decode field.2).map (field.1, ·)).map Dictionary.ofList
  | _ => none

/-- What stands for nothing behind a word that is written as the name of a field. -/
def isUnit (format : DescriptorFormat) (v : Json) : Bool :=
  match format, v with
  | .json, .null => true
  | .toml, .obj [] => true
  | .toml, .arr [] => true
  | _, _ => false

def word {α : Type} (format : DescriptorFormat) (ofWord? : String → Option α) : Decoder α
  | .str s => ofWord? s
  | .obj [(s, v)] => if isUnit format v then ofWord? s else none
  | _ => none

/-- The fields of a structure with the given names. -/
def fieldsOf (format : DescriptorFormat) (names : List String) :
    Json → Option (String → Option Json)
  | .obj fields =>
    if names.all fun n => (fields.filter fun field => field.1 == n).length ≤ 1 then
      some fun n => fields.lookup n
    else none
  | .arr items =>
    if format == .json && names.length < items.length then none
    else some fun n => (names.zip items).lookup n
  | _ => none

def required {α : Type} (decode : Decoder α) (field : Option Json) : Option α := field.bind decode

def withDefault {α : Type} (fallback : α) (decode : Decoder α) : Option Json → Option α
  | none => some fallback
  | some v => decode v

/-- Null counts as absent. -/
def optional {α : Type} (decode : Decoder α) : Option Json → Option (Option α)
  | none => some none
  | some .null => some none
  | some v => (decode v).map some

variable (format : DescriptorFormat)

/-- By position the kind has to be there. -/
def script (v : Json) : Option ScriptDefinition := do
  let field ← match v with
    | .arr [] => none
    | v => fieldsOf format ["type", "code", "src"] v
  return {
    kind := ← optional (word format ScriptKind.ofWord?) (field "type")
    code := ← optional text (field "code")
    source := ← optional text (field "src") }

def parameter (v : Json) : Option ParameterDefinition := do
  let field ← fieldsOf format
    ["name", "source", "source-name", "value", "type", "script", "distinct", "single-as-list"] v
  return {
    name := ← required text (field "name")
    source := ← withDefault .parentParameter (word format ParameterSource.ofWord?) (field "source")
    sourceName := ← optional text (field "source-name")
    value := ← optional (some ·.settle) (field "value")
    type := ← optional text (field "type")
    script := ← optional (script format) (field "script")
    distinct := ← withDefault false flag (field "distinct")
    singleAsList := ← withDefault false flag (field "single-as-list") }

def fetch (v : Json) : Option FetchDefinition := do
  let field ← fieldsOf format
    ["reference-query", "reference-query-version", "reference-query-type", "inject-property-name",
      "injection-script", "parameter", "multi-records", "max-fetch-size", "predicate-script",
      "eager-inject"] v
  return {
    reference := ← required text (field "reference-query")
    referenceVersion := ← withDefault "" text (field "reference-query-version")
    referenceType := ← optional (word format QueryType.ofWord?) (field "reference-query-type")
    property := ← optional text (field "inject-property-name")
    injection := ← optional (script format) (field "injection-script")
    parameters := ← withDefault [] (listOf (parameter format)) (field "parameter")
    multiple := ← withDefault true flag (field "multi-records")
    maxSize := ← withDefault 1024 count (field "max-fetch-size")
    predicate := ← optional (script format) (field "predicate-script")
    eager := ← withDefault true flag (field "eager-inject") }

def hint (v : Json) : Option HintDefinition := do
  let field ← fieldsOf format ["key", "parameter", "script"] v
  return {
    key := ← required text (field "key")
    parameters := ← withDefault [] (dictionaryOf (listOf text)) (field "parameter")
    script := ← optional (script format) (field "script") }

def query (v : Json) : Option QueryDefinition := do
  let field ← fieldsOf format
    ["name", "version", "description", "result-class", "result-set-mapping", "cache",
      "cache-result-set-metadata", "query-type", "script", "fetch-query", "hint",
      "parameter-types", "properties"] v
  return {
    name := ← required text (field "name")
    version := ← withDefault "" text (field "version")
    description := ← optional text (field "description")
    resultClass := ← optional text (field "result-class")
    resultSetMapping := ← optional text (field "result-set-mapping")
    cache := ← withDefault false flag (field "cache")
    cacheMetadata := ← withDefault false flag (field "cache-result-set-metadata")
    type := ← withDefault .sql (word format QueryType.ofWord?) (field "query-type")
    script := ← withDefault {} (script format) (field "script")
    fetches := ← withDefault [] (listOf (fetch format)) (field "fetch-query")
    hints := ← withDefault [] (listOf (hint format)) (field "hint")
    parameterTypes := ← withDefault [] (dictionaryOf text) (field "parameter-types")
    properties := ← withDefault [] (dictionaryOf text) (field "properties") }

/-- The queries of a document. -/
def queries (v : Json) : Option (List QueryDefinition) := do
  let field ← fieldsOf format ["query"] v
  withDefault [] (listOf (query format)) (field "query")

def parse? (text : String) : Option (List QueryDefinition) := (format.read? text).bind (queries format)

end Descriptor

end QueryCatalog
