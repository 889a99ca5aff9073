import QueryCatalog.Plan.Basic

/-!
The store of plans over a catalog. It answers while it is running, and keeps each plan it has made
until it is started, stopped or given another catalog.
-/
namespace QueryCatalog

structure PlanStore where
  catalog : Catalog
  plans : Dictionary Plan := []
  running : Bool := false

namespace PlanStore

def start (s : PlanStore) : PlanStore := { s with plans := [], running := true }

def stop (s : PlanStore) : PlanStore := { s with plans := [], running := false }

def reload (s : PlanStore) (catalog : Catalog) : PlanStore := { s with catalog, plans := [] }

/-- Queries can be looked up also while the store is stopped. -/
def query (s : PlanStore) (name : String) : Except QueryError Query :=
  match s.catalog.find? name with
  | some q => .ok q
  | none => .error (.notFound name)

/-- The plan of a query, which is made where it is not kept yet. -/
def plan (w : Workshop) (s : PlanStore) (name : String) : Except QueryError Plan × PlanStore :=
  if !s.running then (.error .shutdown, s)
  else
    match s.plans.find? name with
    | some p => (.ok p, s)
    | none =>
      match (s.query name).bind (Plan.create w) with
      | .ok p => (.ok p, { s with plans := s.plans.insert name p })
      | .error e => (.error e, s)

def prepare (w : Workshop) (s : PlanStore) (name : String) (request : Request) :
    Except QueryError Prepared × PlanStore :=
  let (plan, s) := s.plan w name
  (plan.bind (·.prepare request), s)

end PlanStore

end QueryCatalog
