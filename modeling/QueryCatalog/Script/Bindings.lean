import QueryCatalog.Json.Value

/-!
What a script is given to work on.
-/
namespace QueryCatalog

structure Bindings where
  criteria : Json
  context : Json
  /-- The rows that are being completed. -/
  rows : Option (List Row) := none
  /-- The rows that a fetch has brought for them. -/
  fetched : Option (List Row) := none

namespace Json

/-- A script's answer as rows; an empty object counts as no rows. -/
def rows? : Json → Option (List Row)
  | .arr items => items.mapM fun item =>
      match item with
      | .obj row => some row
      | _ => none
  | .obj [] => some []
  | _ => none

end Json

end QueryCatalog
