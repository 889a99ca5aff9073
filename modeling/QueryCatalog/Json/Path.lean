import QueryCatalog.Json.Value

/-!
Dotted paths into documents. A number among the segments indexes an array; writing goes through
objects only, and makes them where they are missing.
-/
namespace QueryCatalog

abbrev Path := List String

namespace Path

def splitDots (current : List Char) : List Char → Path
  | [] => [String.ofList current.reverse]
  | c :: rest =>
    if c == '.' then String.ofList current.reverse :: splitDots [] rest
    else splitDots (c :: current) rest

/-- The segments between dots; there is always at least one. -/
def ofString (text : String) : Path := splitDots [] text.toList

end Path

namespace Json

def step? : Json → String → Option Json
  | .obj fields, key => Row.get? fields key
  | .arr items, key => (Text.word? key.toList).bind fun i => items[i]?
  | _, _ => none

def at? (value : Json) : Path → Option Json
  | [] => some value
  | key :: rest =>
    match value.step? key with
    | some next => next.at? rest
    | none => none

def get? (value : Json) (path : String) : Option Json := value.at? (.ofString path)

def field (value : Json) (path : String) : Json := .orNull (value.get? path)

/-- The fields of an object; anything else counts as an empty one. -/
def fieldsOrEmpty : Json → Row
  | .obj fields => fields
  | _ => []

end Json

namespace Row

def at? (row : Row) : Path → Option Json
  | [] => none
  | key :: rest =>
    match row.get? key with
    | some value => value.at? rest
    | none => none

def path? (row : Row) (path : String) : Option Json := row.at? (.ofString path)

/-- Writes at a path; what stands in the way of an inner segment gives way to an object. -/
def putAt (value : Json) : Path → Row → Row
  | [], row => row
  | [key], row => row.put key value
  | key :: rest, row => row.put key (.obj (putAt value rest (Json.orNull (row.get? key)).fieldsOrEmpty))

def setPath (row : Row) (path : String) (value : Json) : Row :=
  putAt value (.ofString path) row

end Row

end QueryCatalog
