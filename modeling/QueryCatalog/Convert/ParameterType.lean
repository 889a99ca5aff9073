import QueryCatalog.Text.Blank
import QueryCatalog.Text.Case

/-!
The types a query may declare for its parameters, under any of their names.
-/
namespace QueryCatalog

inductive ParameterType where
  | string
  | integer
  | decimal
  | boolean
  | date
  | datetime
  | json
  deriving DecidableEq, Repr

namespace ParameterType

def name : ParameterType → String
  | .string => "string"
  | .integer => "integer"
  | .decimal => "decimal"
  | .boolean => "boolean"
  | .date => "date"
  | .datetime => "datetime"
  | .json => "json"

def names : List (String × ParameterType) :=
  [("string", .string), ("str", .string), ("text", .string),
    ("integer", .integer), ("int", .integer), ("long", .integer),
    ("decimal", .decimal), ("double", .decimal), ("float", .decimal), ("number", .decimal),
    ("boolean", .boolean), ("bool", .boolean),
    ("date", .date),
    ("datetime", .datetime), ("instant", .datetime), ("timestamp", .datetime),
    ("json", .json), ("any", .json)]

/-- How names are compared: without surrounding blanks, in lower case. -/
def canonical (text : String) : String := Text.toAsciiLower (Text.trim text)

def ofName? (text : String) : Option ParameterType := names.lookup (canonical text)

end ParameterType

end QueryCatalog
