import QueryCatalog.Statement.Placeholder
import QueryCatalog.Json.Path

/-!
Statements with their values bound, in the form in which they are executed: one `?` and one
argument for each scalar, and as many of both as an array has elements.
-/
namespace QueryCatalog

structure BoundStatement where
  statement : String
  args : List Json
  deriving Inhabited

namespace Statement

/-- The arguments that a value takes up; an empty array still takes one, or the statement would
lose its operand. -/
def expand : Json → List Json
  | .arr [] => [.null]
  | .arr items => items
  | value => [value]

/-- Question marks joined by commas. -/
def marks : Nat → List Char
  | 0 => []
  | 1 => ['?']
  | n + 2 => '?' :: ',' :: marks (n + 1)

/-- Writes each placeholder anew for the value that stands at its place in the list. -/
def markedText : List Piece → List Json → List Char
  | [], _ => []
  | .plain c :: rest, values => c :: markedText rest values
  | .marker _ _ :: rest, [] => '?' :: markedText rest []
  | .marker _ _ :: rest, v :: values => marks (expand v).length ++ markedText rest values

def bindMarkers (ps : List Piece) (values : List Json) : BoundStatement :=
  { statement := String.ofList (markedText ps values), args := values.flatMap expand }

/-- Checks and expands a statement of `?` placeholders. Fixed indices stay as they are, because
expansion would shift them. -/
def bindPieces (statement : String) (args : List Json) (ps : List Piece) :
    Except StatementError BoundStatement :=
  if hasNamed ps then .error .namedAmongPositional
  else if hasIndexed ps then
    if hasPositional ps then .error .indexedAmongPositional else .ok ⟨statement, args⟩
  else if (placeholders ps).length ≠ args.length then
    .error (.countMismatch (placeholders ps).length args.length)
  else .ok (bindMarkers ps args)

/-- Expands array arguments; without any the statement is not even read. -/
def bindPositional (statement : String) (args : List Json) :
    Except StatementError BoundStatement :=
  if args.any Json.isArray then (parse statement).bind (bindPieces statement args)
  else .ok ⟨statement, args⟩

/-- What a placeholder stands for in a source document. -/
def lookup (source : Json) : Placeholder → Json
  | .named name => source.field name
  | _ => .null

/-- Binds `:name` placeholders by their paths into a source; what is missing binds null. -/
def bindNamed (statement : String) (source : Json) : Except StatementError BoundStatement :=
  (parse statement).bind fun ps =>
    if hasPositional ps || hasIndexed ps then .error .namedAmongPositional
    else .ok (bindMarkers ps ((placeholders ps).map (lookup source)))

end Statement

end QueryCatalog
