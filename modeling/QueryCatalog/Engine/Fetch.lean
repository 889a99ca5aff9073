import QueryCatalog.Plan.Prepared

/-!
What a fetch asks for and where its rows go: the values of its parameters, gathered from the
criteria and the rows of the owner, and the injection of the fetched rows into these.
-/
namespace QueryCatalog

namespace Parameter

/-- The values of a field over all rows, without nulls. -/
def gather (p : Parameter) (path : String) (rows : List Row) : List Json :=
  rows.foldl (fun values row =>
    match row.path? path with
    | none => values
    | some .null => values
    | some v => Json.pushUnique values v p.distinct) []

/-- A single row gives its value alone. -/
def gathered (p : Parameter) (path : String) (rows : List Row) : Json :=
  let values := p.gather path rows
  match rows with
  | [_] => .orNull values.getLast?
  | _ => .arr values

def unique (items : List Json) : List Json :=
  items.foldl (fun out item => Json.pushUnique out item true) []

def deduplicated (p : Parameter) (value : Json) : Json :=
  match p.distinct, value with
  | true, .arr items => .arr (unique items)
  | _, v => v

def converted (p : Parameter) (owner : String) (value : Json) : Except QueryError Json :=
  match p.type with
  | none => .ok value
  | some type =>
    (Convert.value type value).mapError fun e => .conversion (.fetchParameter owner p.name e)

def listed (p : Parameter) : Json → Json
  | .arr items => .arr items
  | .null => .null
  | v => if p.singleAsList then .arr [v] else v

def path (p : Parameter) : String := p.sourceName.getD ""

/-- What the source gives before anything is done with it. -/
def sourceValue (p : Parameter) (evaluate : Script → Except QueryError Json) (criteria : Json)
    (rows : List Row) : Except QueryError Json :=
  match p.source with
  | .parentParameter => .ok (criteria.field p.path)
  | .parentResultField => .ok (p.gathered p.path rows)
  | .constant => .ok (.orNull p.value)
  | .script =>
    match p.script with
    | some script => evaluate script
    | none => .ok .null

def resolve (p : Parameter) (owner : String) (evaluate : Script → Except QueryError Json)
    (criteria : Json) (rows : List Row) : Except QueryError Json := do
  let v ← p.sourceValue evaluate criteria rows
  let v ← p.converted owner (p.deduplicated v)
  return p.listed v

end Parameter

namespace Fetch

/-- The criteria of a fetch, written at the names of its parameters one after the other. -/
def criteria (f : Fetch) (owner : String) (evaluate : Script → Except QueryError Json)
    (criteria : Json) (rows : List Row) : Except QueryError Json := do
  let row ← f.parameters.foldlM (fun (row : Row) p => do
    return row.setPath p.name (← p.resolve owner evaluate criteria rows)) []
  return .obj row

/-- The parameters by which fetched rows are told apart. -/
def keys (f : Fetch) : List Parameter := f.parameters.filter (·.source == .parentResultField)

/-- A row that lacks the field matches, and so does one whose value is, or is among, the
parent's. -/
def matchesKey (parent fetched : Row) (key : Parameter) : Bool :=
  match fetched.path? key.name with
  | none => true
  | some needle =>
    (Json.orNull (key.sourceName.bind fun path => parent.path? path)).matchesValue needle

def matchesParent (keys : List Parameter) (parent fetched : Row) : Bool :=
  keys.all (matchesKey parent fetched)

/-- What is injected into a parent: all rows that match it, or the first of them. -/
def injected (f : Fetch) (fetched : List Row) (parent : Row) : Json :=
  if f.multiple then .arr ((fetched.filter (matchesParent f.keys parent)).map .obj)
  else .orNull ((fetched.find? (matchesParent f.keys parent)).map .obj)

def inject (f : Fetch) (property : String) (fetched : List Row) (parents : List Row) : List Row :=
  parents.map fun parent => parent.setPath property (f.injected fetched parent)

end Fetch

end QueryCatalog
