import QueryCatalog.Mapping.Problem
import QueryCatalog.Convert.ParameterType

/-!
Validation of a set of definitions. Every fault of every definition is found, in the order of the
definitions.
-/
namespace QueryCatalog

/-- A definition with the place that it comes from. -/
structure Sourced where
  origin : String
  definition : QueryDefinition

namespace Validation

/-- The faults of a script; some places take scripts that give values only. -/
def scriptFaults (place : ScriptUse) (valuesOnly : Bool) (s : ScriptDefinition) : List Fault :=
  match s.kind with
  | none => [.untypedScript place]
  | some kind =>
    (if s.isBlank then [.emptyScript place] else []) ++
      (if valuesOnly && !kind.isEvaluated then [.scriptKind place kind] else [])

def optionalScriptFaults (place : ScriptUse) : Option ScriptDefinition → List Fault
  | some s => scriptFaults place true s
  | none => []

def isUnknownType (type : String) : Bool := (ParameterType.ofName? type).isNone

def typeFaults (types : Dictionary String) : List Fault :=
  types.filterMap fun entry =>
    if isUnknownType entry.2 then some (.unknownType entry.2 entry.1) else none

def hintFaults (h : HintDefinition) : List Fault :=
  (if Text.allBlank h.key then [.hintWithoutKey] else []) ++
    optionalScriptFaults (.hint h.key) h.script

def sourceFaults (target : String) (p : ParameterDefinition) : List Fault :=
  match p.source with
  | .constant => if p.value.isNone then [.missingValue target p.name] else []
  | .script =>
    match p.script with
    | none => [.missingScript target p.name]
    | some s => scriptFaults (.parameter target p.name) true s
  | _ => []

def parameterFaults (target : String) (p : ParameterDefinition) : List Fault :=
  (if Text.allBlank p.name then [.unnamedParameter target] else []) ++
    (if p.source.needsSourceName && (p.sourceName.map Text.allBlank).getD true then
      [.missingSourceName target p.name] else []) ++
    sourceFaults target p ++
    match p.type with
    | some type => if isUnknownType type then [.parameterType target p.name type] else []
    | none => []

def referenceFaults (known : List (String × QueryType)) (f : FetchDefinition) : List Fault :=
  match known.lookup f.target with
  | none => [.unknownReference f.target]
  | some found =>
    match f.referenceType with
    | some expected =>
      if expected == found then [] else [.referenceType f.target expected found]
    | none => []

/-- Exactly one way of injection; `taken` holds the paths of the fetches before. -/
def injectionFaults (taken : List String) (f : FetchDefinition) : List Fault :=
  match f.path?, f.injection with
  | some path, none => if taken.contains path then [.sharedPath path] else []
  | none, some s => scriptFaults (.injection f.target) true s
  | _, _ => [.injectionChoice f.target]

def fetchFaults (known : List (String × QueryType)) (id : String) (taken : List String)
    (f : FetchDefinition) : List Fault :=
  if Text.allBlank f.reference then [.fetchWithoutReference]
  else
    (if f.target == id then [.selfReference] else []) ++
      referenceFaults known f ++
      injectionFaults taken f ++
      optionalScriptFaults (.predicate f.target) f.predicate ++
      f.parameters.flatMap (parameterFaults f.target)

/-- The path that a fetch takes for itself. -/
def takenPath? (f : FetchDefinition) : Option String :=
  if Text.allBlank f.reference || f.injection.isSome then none else f.path?

def fetchesFaults (known : List (String × QueryType)) (id : String) (taken : List String) :
    List FetchDefinition → List Fault
  | [] => []
  | f :: rest =>
    fetchFaults known id taken f ++ fetchesFaults known id ((takenPath? f).toList ++ taken) rest

/-- The faults of a definition on its own, once it has a name. -/
def ownFaults (known : List (String × QueryType)) (q : QueryDefinition) : List Fault :=
  scriptFaults .body false q.script ++ typeFaults q.parameterTypes ++ q.hints.flatMap hintFaults ++
    fetchesFaults known q.id [] q.fetches

/-- The names of a set of definitions with their types, the last definition of a name first. -/
def knownTypes (set : List Sourced) : List (String × QueryType) :=
  (set.map fun s => (s.definition.id, s.definition.type)).reverse

/-- A name that is there already was defined where it was met last. -/
def duplicateFaults (earlier : List (String × String)) (id : String) : List Fault :=
  match earlier.lookup id with
  | some first => [.duplicate first]
  | none => []

def problemsFrom (known : List (String × QueryType)) (earlier : List (String × String)) :
    List Sourced → List Problem
  | [] => []
  | ⟨origin, q⟩ :: rest =>
    if Text.allBlank q.name then
      .definition origin q.id .unnamed :: problemsFrom known earlier rest
    else
      (duplicateFaults earlier q.id ++ ownFaults known q).map (.definition origin q.id) ++
        problemsFrom known ((q.id, origin) :: earlier) rest

def problems (set : List Sourced) : List Problem := problemsFrom (knownTypes set) [] set

end Validation

end QueryCatalog
