import QueryCatalog.Mapping.Query

/-!
Dialects turn a statement into one for a window of its rows, or for the number of them.
-/
namespace QueryCatalog

structure Dialect where
  /-- The statement with an offset and a limit. -/
  limit : String → Nat → Nat → List Hint → String
  count : String → List Hint → String
  /-- The field of a count statement's row that holds the number. -/
  totalField : String

namespace Dialect

/-- A statement without blanks around it and without semicolons at its end. -/
def bare (statement : String) : String :=
  String.ofList (Text.trimEnd (Text.dropWhileEnd (· == ';') (Text.trimChars statement.toList)))

def limitClause (offset limit : Nat) : String :=
  if offset == 0 then s!" LIMIT {limit}" else s!" LIMIT {limit} OFFSET {offset}"

/-- The dialect that most engines understand. -/
def ansi : Dialect where
  limit statement offset limit _ := bare statement ++ limitClause offset limit
  count statement _ := "SELECT COUNT(*) AS total_ FROM (" ++ bare statement ++ ") AS count_"
  totalField := "total_"

end Dialect

end QueryCatalog
