import QueryCatalog.Engine.Session
import QueryCatalog.Engine.Fetch

/-!
Selection of rows and their completion. The fetches of a query run one after the other over all of
its rows, each as a selection of its own, and then its hints are applied. The path holds the names
of the queries that are being executed, outermost first; none of them may be fetched again.
-/
namespace QueryCatalog.Engine

variable {σ : Type} (e : Engine σ)

/-- The selection of a referenced query: its path, its name, the request and the size it may
have. -/
abbrev Nested (σ : Type) := List String → String → Request → Nat → Run σ (List Row)

/-- A fetch without a predicate is always wanted. -/
def wanted (owner : String) (f : Fetch) (bindings : Bindings) : Except QueryError Bool :=
  match f.predicate with
  | none => .ok true
  | some script => (e.evaluate owner script bindings).map Json.truthy

/-- The answer of an injection script takes the place of the rows, unless it is null. -/
def injectByScript (owner : String) (f : Fetch) (script : Script) (bindings : Bindings)
    (rows : List Row) : Except QueryError (List Row) := do
  let answer ← e.evaluate owner script bindings
  if answer.isNull then return rows
  match answer.rows? with
  | some rows => return rows
  | none => throw (.script owner (.injectionRows f.target))

def injectRows (owner : String) (f : Fetch) (bindings : Bindings) (fetched rows : List Row) :
    Except QueryError (List Row) :=
  match f.injection, f.property with
  | some script, _ =>
    e.injectByScript owner f script { bindings with rows := some rows, fetched := some fetched } rows
  | none, some property => .ok (f.inject property fetched rows)
  | none, none => .ok rows

/-- Runs one fetch. The rows it brings are selected under the path with its target added. -/
def runFetch (nested : Nested σ) (path : List String) (p : Prepared) (rows : List Row)
    (f : Fetch) : Run σ (List Row) := do
  if !f.eager then return rows
  let bindings := { p.request.bindings with rows := some rows }
  if !(← e.wanted p.name f bindings) then return rows
  let criteria ← f.criteria p.name (fun s => e.evaluate p.name s bindings) p.request.criteria rows
  if path.contains f.target then throw (.fetchCycle (path ++ [f.target]))
  let fetched ←
    nested (path ++ [f.target]) f.target { criteria, context := p.request.context } f.maxSize
  e.injectRows p.name f bindings fetched rows

/-- Without any rows there is nothing to fetch for. -/
def runFetches (nested : Nested σ) (path : List String) (p : Prepared) (rows : List Row) :
    Run σ (List Row) :=
  if rows.isEmpty then return rows
  else p.query.fetches.foldlM (e.runFetch nested path p) rows

def complete (nested : Nested σ) (path : List String) (p : Prepared) (rows : List Row) :
    Run σ (List Row) := do
  let rows ← e.runFetches nested path p rows
  e.handleHints p rows

/-- Applies the policy to rows of which there may be no more than `maximum`. -/
def capped (name : String) (maximum : Nat) (rows : List Row) : Except QueryError (List Row) :=
  if rows.length ≤ maximum then .ok rows
  else
    match e.settings.sizeViolation with
    | .raise => .error (.sizeExceeded name maximum)
    | .truncate => .ok (rows.take maximum)

/-- How many rows to expect, so that one too many is noticed. -/
def expectedFor (maximum : Nat) : Nat := min (maximum + 1) (Text.wordBound - 1)

section

/-! What completes the rows of a query is open here. -/

variable (complete : Prepared → List Row → Run σ (List Row)) (name : String) (request : Request)

def selectBy (maximum : Option Nat) : Run σ (List Row) := do
  let p ← e.prepare name request
  let final ← p.final
  let maximum := maximum.getD (e.settings.maxSelectSizeOf p.query)
  let rows ← e.selectRows p name final.statement (expectedFor maximum) final.args
  let rows ← e.capped name maximum rows
  complete p rows

def getBy : Run σ (Option Row) := do
  let p ← e.prepare name request
  let final ← p.final
  match ← e.getRow p name final.statement final.args with
  | none => return none
  | some row => return (← complete p [row]).head?

end

/-- Selects within a path. The names in a path are different queries of the catalog, so a path
that is longer than the catalog ends in a name that is not there. -/
def selectWithin : Nat → List String → String → Request → Option Nat → Run σ (List Row)
  | 0, _, name, _, _ => throw (.notFound name)
  | depth + 1, path, name, request, maximum =>
    e.selectBy (e.complete
      (fun path name request size => selectWithin depth path name request (some size)) path)
      name request maximum

/-- How deep fetches may nest. -/
def depth : Run σ Nat := do return (← get).store.catalog.length + 1

def nestedOf (depth : Nat) : Nested σ := fun path name request size =>
  e.selectWithin depth path name request (some size)

/-- All rows, as many as the query may have. -/
def select (name : String) (request : Request) : Run σ (List Row) := do
  e.selectWithin (← depth) [name] name request none

/-- The first row. -/
def get (name : String) (request : Request) : Run σ (Option Row) := do
  e.getBy (e.complete (e.nestedOf (← depth)) [name]) name request

end QueryCatalog.Engine
