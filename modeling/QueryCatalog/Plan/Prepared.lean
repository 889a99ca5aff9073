import QueryCatalog.Error

/-!
Requests, and queries that are bound to a request and ready to be executed.
-/
namespace QueryCatalog

/-- What the caller gives: the values asked for, what surrounds the call, and a window of rows. -/
structure Request where
  criteria : Json := .null
  context : Json := .null
  offset : Option Nat := none
  limit : Option Nat := none
  deriving Inhabited

def Request.bindings (r : Request) : Bindings := { criteria := r.criteria, context := r.context }

structure Prepared where
  query : Query
  /-- The request after the conversion of its criteria. -/
  request : Request
  bound : BoundStatement
  /-- The statement already has a mark for each element of an array. -/
  expanded : Bool

namespace Prepared

def name (p : Prepared) : String := p.query.id

/-- The statement as it is executed. -/
def final (p : Prepared) : Except QueryError BoundStatement :=
  if p.expanded then .ok p.bound
  else (Statement.bindPositional p.bound.statement p.bound.args).mapError .statement

end Prepared

end QueryCatalog
