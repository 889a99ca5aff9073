import QueryCatalog.Mapping.Descriptor
import QueryCatalog.Mapping.Validation
import QueryCatalog.Mapping.Query

/-!
Collecting definitions from descriptors and from code. What cannot be loaded is noted as a problem
beside those that validation finds; without any problem the definitions become a catalog.
-/
namespace QueryCatalog

structure Draft where
  definitions : List Sourced := []
  /-- What could not be loaded. -/
  failures : List Problem := []

namespace Draft

def add (d : Draft) (origin : String) (q : QueryDefinition) : Draft :=
  { d with definitions := d.definitions ++ [⟨origin, q⟩] }

def addAll (d : Draft) (origin : String) (qs : List QueryDefinition) : Draft :=
  qs.foldl (fun d q => d.add origin q) d

def fail (d : Draft) (p : Problem) : Draft := { d with failures := d.failures ++ [p] }

/-- Definitions with the problems that have come up on the way. -/
abbrev Loading (α : Type) := StateM (List Problem) α

/-- Where the sources of a descriptor's scripts are, and how a missing one is told. -/
structure Sources where
  files : Files
  directory : Option String
  origin : String
  id : String

def Sources.path (s : Sources) (source : String) : String :=
  match s.directory with
  | some directory => Files.join directory source
  | none => source

/-- Reads the file of a script that has no code yet. -/
def loadScript (s : Sources) (script : ScriptDefinition) : Loading ScriptDefinition :=
  match script.pending? with
  | none => return script
  | some source =>
    match s.files (s.path source) with
    | .ok code => return { script with code := some code }
    | .error e => do
      modify (· ++ [.unreadableSource s.origin s.id (s.path source) e])
      return script

def loadOptional (s : Sources) : Option ScriptDefinition → Loading (Option ScriptDefinition)
  | none => return none
  | some script => do return some (← loadScript s script)

def loadParameter (s : Sources) (p : ParameterDefinition) : Loading ParameterDefinition := do
  return { p with script := ← loadOptional s p.script }

def loadFetch (s : Sources) (f : FetchDefinition) : Loading FetchDefinition := do
  let injection ← loadOptional s f.injection
  let predicate ← loadOptional s f.predicate
  let parameters ← f.parameters.mapM (loadParameter s)
  return { f with injection, predicate, parameters }

def loadHint (s : Sources) (h : HintDefinition) : Loading HintDefinition := do
  return { h with script := ← loadOptional s h.script }

def loadQuery (files : Files) (directory : Option String) (origin : String) (q : QueryDefinition) :
    Loading QueryDefinition := do
  let s : Sources := { files, directory, origin, id := q.id }
  let script ← loadScript s q.script
  let fetches ← q.fetches.mapM (loadFetch s)
  let hints ← q.hints.mapM (loadHint s)
  return { q with script, fetches, hints }

/-- Adds the queries of a descriptor's text; sources are looked for in the given directory. -/
def loadText (d : Draft) (files : Files) (origin text : String) (format : DescriptorFormat)
    (directory : Option String) : Draft :=
  match Descriptor.parse? format text with
  | none => d.fail (.unparsable origin)
  | some qs =>
    let (qs, problems) := (qs.mapM (loadQuery files directory origin)).run []
    { d with failures := d.failures ++ problems }.addAll origin qs

/-- Adds the queries of a file; sources are looked for beside it. -/
def loadFile (d : Draft) (files : Files) (path : String) : Draft :=
  match DescriptorFormat.ofPath? path with
  | none => d.fail (.unsupported path)
  | some format =>
    match files path with
    | .ok text => d.loadText files path text format (some (Files.parent path))
    | .error e => d.fail (.unreadable path e)

/-- The files that the scripts of a descriptor are read from. -/
def sourcesOf (path text : String) : List String :=
  let definitions := ((DescriptorFormat.ofPath? path).bind fun f => Descriptor.parse? f text).getD []
  (definitions.flatMap fun q => q.scripts.filterMap (·.pending?)).map
    (Files.join (Files.parent path))

def problems (d : Draft) : List Problem := d.failures ++ Validation.problems d.definitions

/-- The catalog, or everything that is wrong. -/
def build (d : Draft) : Except (List Problem) Catalog :=
  match d.problems with
  | [] => .ok (Catalog.ofDefinitions (d.definitions.map (·.definition)))
  | problems => .error problems

end Draft

end QueryCatalog
