import QueryCatalog.Json.Number
import QueryCatalog.Text.Blank

/-!
Document values. An object is a list of fields in the order of their first writing.
-/
namespace QueryCatalog

inductive Json where
  | null
  | bool (value : Bool)
  | num (value : Number)
  | str (value : String)
  | arr (items : List Json)
  | obj (fields : List (String × Json))
  deriving Inhabited

/-- A result row: column names with their values, in order. -/
abbrev Row := List (String × Json)

namespace Row

def get? (row : Row) (key : String) : Option Json := row.lookup key

def has (row : Row) (key : String) : Bool := row.any fun field => field.1 == key

/-- Writes a field; one that is there keeps its place. -/
def put (key : String) (value : Json) : Row → Row
  | [] => [(key, value)]
  | (k, v) :: rest => if k == key then (k, value) :: rest else (k, v) :: put key value rest

def ofList (fields : List (String × Json)) : Row :=
  fields.foldl (fun row field => row.put field.1 field.2) []

end Row

namespace Json

def int (n : Int) : Json := .num (.int n)

def nat (n : Nat) : Json := .num (.int n)

def float (x : Float) : Json := .num (.float x)

def isNull : Json → Bool
  | .null => true
  | _ => false

def isArray : Json → Bool
  | .arr _ => true
  | _ => false

def orNull : Option Json → Json
  | some v => v
  | none => .null

mutual

/-- Equality of documents; the order of an object's fields does not count. -/
def same : Json → Json → Bool
  | .null, .null => true
  | .bool a, .bool b => a == b
  | .num a, .num b => a == b
  | .str a, .str b => a == b
  | .arr a, .arr b => sameItems a b
  | .obj a, .obj b => a.length == b.length && sameFields a b
  | _, _ => false

def sameItems : List Json → List Json → Bool
  | [], [] => true
  | a :: as, b :: bs => same a b && sameItems as bs
  | _, _ => false

def sameFields : List (String × Json) → Row → Bool
  | [], _ => true
  | (k, v) :: rest, other =>
    (match other.get? k with
      | some w => same v w
      | none => false) && sameFields rest other

end

instance : BEq Json := ⟨same⟩

/-- Equality in the matching of values: at the top, numbers are compared as floats. -/
def equals : Json → Json → Bool
  | .num a, .num b => a.toFloat == b.toFloat
  | a, b => a == b

/-- An array on the left is a set of candidates. -/
def matchesValue : Json → Json → Bool
  | .arr items, needle => items.any (equals · needle)
  | candidate, needle => equals candidate needle

def compareFloat (a b : Float) : Ordering :=
  if a < b then .lt else if b < a then .gt else .eq

/-- Null comes first; values of different kinds are not told apart. -/
def order : Json → Json → Ordering
  | .null, .null => .eq
  | .null, _ => .lt
  | _, .null => .gt
  | .bool a, .bool b => compare a b
  | .num a, .num b => compareFloat a.toFloat b.toFloat
  | .str a, .str b => compare a b
  | _, _ => .eq

def truthy : Json → Bool
  | .bool b => b
  | .null => false
  | .num n => n.toFloat != 0.0
  | .str s => !s.isEmpty
  | .arr items => !items.isEmpty
  | .obj fields => !fields.isEmpty

/-- Appends a value, unless only new values are wanted and it is there already. -/
def pushUnique (out : List Json) (value : Json) (distinct : Bool) : List Json :=
  if distinct && out.any (equals · value) then out else out ++ [value]

end Json

end QueryCatalog
