import QueryCatalog.Json.Value

/-!
The tables of a TOML document while it is read. A header may open a table once; a dotted key may
open tables of its own and write into those, but not into a table that a header has opened, and a
finished value takes no more entries.
-/
namespace QueryCatalog.Toml

inductive Node where
  | value (value : Json)
  /-- A table is implicit until a header names it; `dotted` tells those that dotted keys opened. -/
  | table (implicit : Bool) (dotted : Bool) (entries : List (String × Node))
  /-- An array of tables; new entries go to the last one. -/
  | tables (items : List (List (String × Node)))

abbrev Entries := List (String × Node)

namespace Entries

def replace (key : String) (node : Node) : Entries → Entries
  | [] => []
  | (k, n) :: rest => if k == key then (k, node) :: rest else (k, n) :: replace key node rest

def erase (key : String) (entries : Entries) : Entries := entries.filter fun e => e.1 != key

def append (entries : Entries) (key : String) (node : Node) : Entries := entries ++ [(key, node)]

/-- Changes the last of a list of tables. -/
def changeLast (f : Entries → Option Entries) : List Entries → Option (List Entries)
  | [] => none
  | [t] => (f t).map fun t => [t]
  | t :: rest => (changeLast f rest).map (t :: ·)

/-- What the header `[key]` does to the table around it: a table that is only implied so far is
named, and takes its place at the end. -/
def openTable (key : String) (entries : Entries) : Option Entries :=
  match entries.lookup key with
  | none => some (entries.append key (.table false false []))
  | some (.table true false inner) => some ((entries.erase key).append key (.table false false inner))
  | some _ => none

/-- What the header `[[key]]` does to the table around it. -/
def openItem (key : String) (entries : Entries) : Option Entries :=
  match entries.lookup key with
  | none => some (entries.append key (.tables [[]]))
  | some (.tables items) => some (entries.replace key (.tables (items ++ [[]])))
  | some _ => none

/-- Follows a header to the table around its last key, and opens missing tables on the way. -/
def atHeader (update : String → Entries → Option Entries) : List String → Entries → Option Entries
  | [], _ => none
  | [key], entries => update key entries
  | key :: rest, entries =>
    match entries.lookup key with
    | none => (atHeader update rest []).map fun inner =>
        entries.append key (.table true false inner)
    | some (.table implicit dotted inner) =>
      (atHeader update rest inner).map fun inner =>
        entries.replace key (.table implicit dotted inner)
    | some (.tables items) =>
      (changeLast (atHeader update rest) items).map fun items => entries.replace key (.tables items)
    | some (.value _) => none

/-- Changes the table that the last header has opened. -/
def within (f : Entries → Option Entries) : List String → Entries → Option Entries
  | [], entries => f entries
  | key :: rest, entries =>
    match entries.lookup key with
    | some (.table implicit dotted inner) =>
      (within f rest inner).map fun inner => entries.replace key (.table implicit dotted inner)
    | some (.tables items) =>
      (changeLast (within f rest) items).map fun items => entries.replace key (.tables items)
    | _ => none

/-- Writes a value under a dotted key. -/
def assign (value : Json) : List String → Entries → Option Entries
  | [], _ => none
  | [key], entries =>
    match entries.lookup key with
    | none => some (entries.append key (.value value))
    | some _ => none
  | key :: rest, entries =>
    match entries.lookup key with
    | none => (assign value rest []).map fun inner =>
        entries.append key (.table true true inner)
    | some (.table implicit dotted inner) =>
      if !implicit || (rest.length == 1 && !dotted) then none
      else (assign value rest inner).map fun inner =>
        entries.replace key (.table implicit dotted inner)
    | some _ => none

mutual

def nodeJson : Node → Json
  | .value v => v
  | .table _ _ entries => .obj (entriesJson entries)
  | .tables items => .arr (itemsJson items)

def entriesJson : List (String × Node) → List (String × Json)
  | [] => []
  | (k, n) :: rest => (k, nodeJson n) :: entriesJson rest

def itemsJson : List (List (String × Node)) → List Json
  | [] => []
  | t :: rest => .obj (entriesJson t) :: itemsJson rest

end

end Entries

end QueryCatalog.Toml
