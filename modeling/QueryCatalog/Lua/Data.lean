import QueryCatalog.Lua.Numeral

/-!
Values of Lua as trees, which is how they enter and leave a script. A table is a finite map in
which nothing is stored under a key that holds nil. A table whose keys are all positive integers
reads as an array, every other table as an object, so the empty table is an object.
-/
namespace QueryCatalog.Lua

inductive Key where
  | bool (value : Bool)
  | num (value : Numeral)
  | str (bytes : ByteArray)
  /-- Tables, functions and all else that has no text. -/
  | handle

inductive Data where
  | nil
  | bool (value : Bool)
  | num (value : Numeral)
  | str (bytes : ByteArray)
  | table (entries : List (Key × Data))
  /-- Functions and all else that is no data. -/
  | function

namespace Data

def isNil : Data → Bool
  | .nil => true
  | _ => false

/-- Integers beyond 64 bits become floats. -/
def ofNumber (n : Number) : Data :=
  match n.int64? with
  | some i => .num (.int (Int64.ofInt i))
  | none => .num (.float n.toFloat)

/-- Storing nil under a key stores nothing. -/
def store (key : Key) (value : Data) (rest : List (Key × Data)) : List (Key × Data) :=
  match value with
  | .nil => rest
  | value => (key, value) :: rest

mutual

def ofJson : Json → Data
  | .null => .nil
  | .bool b => .bool b
  | .num n => ofNumber n
  | .str s => .str s.toUTF8
  | .arr items => .table (ofItems 1 items)
  | .obj fields => .table (ofFields fields)

def ofItems (index : Nat) : List Json → List (Key × Data)
  | [] => []
  | v :: rest => store (.num (.int (Int64.ofNat index))) (ofJson v) (ofItems (index + 1) rest)

def ofFields : List (String × Json) → List (Key × Data)
  | [] => []
  | (k, v) :: rest => store (.str k.toUTF8) (ofJson v) (ofFields rest)

end

def ofRows (rows : List Row) : Data := ofJson (.arr (rows.map .obj))

def position? : Key → Option Nat
  | .num (.int n) => if n > 0 then some n.toInt.toNat else none
  | _ => none

/-- The largest index, if there are entries and all of them are under positive integers. -/
def arrayLength? (entries : List (Key × Data)) : Option Nat :=
  if entries.isEmpty then none
  else entries.foldlM (fun longest entry => (position? entry.1).map (max longest)) 0

/-- Entries under these keys are left out of objects. -/
def isUnnamed : Key → Bool
  | .bool _ => true
  | .handle => true
  | _ => false

def floatName (x : Float) : String :=
  if x.isFinite then Decimal.renderPlain x else Decimal.sign x ++ "inf"

def name? : Key → Option String
  | .str bytes => String.fromUTF8? bytes
  | .num (.int n) => some (toString n.toInt)
  | .num (.float x) => some (floatName x)
  | _ => none

/-- The items of an array, null where there is a gap. -/
def fill (length : Nat) (slots : List (Nat × Json)) : List Json :=
  (List.range length).map fun i => .orNull (slots.lookup (i + 1))

mutual

/-- None if some text is no UTF-8. Functions and floats that are not finite become null. -/
def toJson? : Data → Option Json
  | .nil => some .null
  | .bool b => some (.bool b)
  | .num (.int n) => some (.num (.int n.toInt))
  | .num (.float x) => some (if x.isFinite then .num (.float x) else .null)
  | .str bytes => (String.fromUTF8? bytes).map .str
  | .table entries =>
    match arrayLength? entries with
    | some length => (toSlots? entries).map fun slots => .arr (fill length slots)
    | none => (toFields? entries).map fun fields => .obj (Row.ofList fields)
  | .function => some .null

def toSlots? : List (Key × Data) → Option (List (Nat × Json))
  | [] => some []
  | (k, v) :: rest =>
    match position? k, toJson? v, toSlots? rest with
    | some i, some w, some more => some ((i, w) :: more)
    | _, _, _ => none

def toFields? : List (Key × Data) → Option (List (String × Json))
  | [] => some []
  | (k, v) :: rest =>
    if isUnnamed k then toFields? rest
    else
      match name? k, toJson? v, toFields? rest with
      | some key, some w, some more => some ((key, w) :: more)
      | _, _, _ => none

end

end Data

end QueryCatalog.Lua
