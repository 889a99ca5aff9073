import QueryCatalog.Mapping.Definition
import QueryCatalog.Files

/-!
What can be wrong with a set of definitions, and how it is told.
-/
namespace QueryCatalog

/-- The place of a script in its query. -/
inductive ScriptUse where
  | body
  | hint (key : String)
  | injection (target : String)
  | predicate (target : String)
  | parameter (target name : String)

namespace ScriptUse

def fetchLabel (target : String) : String := s!"fetch query '{target}'"

def parameterLabel (target name : String) : String := fetchLabel target ++ s!" parameter '{name}'"

def label : ScriptUse → String
  | .body => "script"
  | .hint key => s!"hint '{key}' script"
  | .injection target => fetchLabel target ++ " injection script"
  | .predicate target => fetchLabel target ++ " predicate script"
  | .parameter target name => parameterLabel target name

end ScriptUse

/-- What is wrong with a definition. -/
inductive Fault where
  | unnamed
  | duplicate (first : String)
  | untypedScript (place : ScriptUse)
  | emptyScript (place : ScriptUse)
  | scriptKind (place : ScriptUse) (kind : ScriptKind)
  | unknownType (type parameter : String)
  | hintWithoutKey
  | fetchWithoutReference
  | selfReference
  | unknownReference (target : String)
  | referenceType (target : String) (expected found : QueryType)
  | injectionChoice (target : String)
  | sharedPath (path : String)
  | unnamedParameter (target : String)
  | missingSourceName (target name : String)
  | missingValue (target name : String)
  | missingScript (target name : String)
  | parameterType (target name type : String)

namespace Fault

/-- The text after the name of the query. -/
def detail : Fault → String
  | .unnamed => ""
  | .duplicate _ => ""
  | .untypedScript place => s!"{place.label} has no type"
  | .emptyScript place => s!"{place.label} is empty"
  | .scriptKind place kind => s!"{place.label} cannot be of type {kind.name}"
  | .unknownType type parameter => s!"declares unknown type '{type}' for parameter '{parameter}'"
  | .hintWithoutKey => "has a hint without a key"
  | .fetchWithoutReference => "has a fetch query without a reference query"
  | .selfReference => "fetch query references itself"
  | .unknownReference target => ScriptUse.fetchLabel target ++ " references an unknown query"
  | .referenceType target expected found =>
    ScriptUse.fetchLabel target ++
      s!" expects query type {expected.title} but found {found.title}"
  | .injectionChoice target =>
    ScriptUse.fetchLabel target ++
      " must define exactly one of inject-property-name or injection-script"
  | .sharedPath path => s!"has more than one fetch query injecting into '{path}'"
  | .unnamedParameter target => ScriptUse.fetchLabel target ++ " has a parameter without a name"
  | .missingSourceName target name =>
    ScriptUse.parameterLabel target name ++ " requires a source-name"
  | .missingValue target name =>
    ScriptUse.parameterLabel target name ++ " is constant but has no value"
  | .missingScript target name =>
    ScriptUse.parameterLabel target name ++ " is scripted but has no script"
  | .parameterType target name type =>
    ScriptUse.parameterLabel target name ++ s!" has unknown type '{type}'"

def message (id : String) : Fault → String
  | .unnamed => "query without a name"
  | .duplicate first => s!"duplicate query '{id}' (first defined in {first})"
  | fault => s!"query '{id}' " ++ fault.detail

end Fault

inductive Problem where
  | unparsable (origin : String)
  | unsupported (origin : String)
  | unreadable (origin : String) (error : ReadError)
  | unreadableSource (origin id path : String) (error : ReadError)
  | definition (origin id : String) (fault : Fault)

namespace Problem

def origin : Problem → String
  | .unparsable origin => origin
  | .unsupported origin => origin
  | .unreadable origin _ => origin
  | .unreadableSource origin _ _ _ => origin
  | .definition origin _ _ => origin

def detail : Problem → String
  | .unparsable _ => "cannot parse descriptor: no queries can be read from it"
  | .unsupported _ => "unsupported descriptor extension"
  | .unreadable _ e => "cannot read descriptor: " ++ e.message
  | .unreadableSource _ id path e => s!"query '{id}' cannot read script source {path}: " ++ e.message
  | .definition _ id fault => fault.message id

def message (p : Problem) : String := s!"[{p.origin}] " ++ p.detail

end Problem

end QueryCatalog
