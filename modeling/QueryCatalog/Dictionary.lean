/-!
Maps from names to values, as lists in the order of the names. Writing a name that is there
replaces its value.
-/
namespace QueryCatalog

abbrev Dictionary (α : Type) := List (String × α)

namespace Dictionary

variable {α : Type}

def find? (d : Dictionary α) (name : String) : Option α := d.lookup name

def contains (d : Dictionary α) (name : String) : Bool := d.any fun entry => entry.1 == name

def insert (name : String) (value : α) : Dictionary α → Dictionary α
  | [] => [(name, value)]
  | (n, v) :: rest =>
    if name == n then (name, value) :: rest
    else if name < n then (name, value) :: (n, v) :: rest
    else (n, v) :: insert name value rest

def ofList (entries : List (String × α)) : Dictionary α :=
  entries.foldl (fun d entry => d.insert entry.1 entry.2) []

def names (d : Dictionary α) : List String := d.map (·.1)

def values (d : Dictionary α) : List α := d.map (·.2)

end Dictionary

end QueryCatalog
