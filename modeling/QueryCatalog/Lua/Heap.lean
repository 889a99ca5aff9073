import QueryCatalog.Lua.Chunk
import QueryCatalog.Lua.Data

/-!
The state of a running script: tables, local variables and functions, each known by its number.
Trees of data are copied into the state and out of it.
-/
namespace QueryCatalog.Lua

inductive Builtin where
  | ipairs
  /-- The step function of `ipairs`. -/
  | advance
  | tostring
  | type
  | error
  | insert
  | concat
  /-- `sp`, which records a bound value. -/
  | bind
  deriving DecidableEq, Repr

inductive Value where
  | nil
  | bool (value : Bool)
  | num (value : Numeral)
  | str (bytes : ByteArray)
  | table (ref : Nat)
  | closure (ref : Nat)
  | builtin (builtin : Builtin)
  /-- Coroutines and values from outside of Lua, by the name of their type. -/
  | foreign (kind : String) (ref : Nat)
  deriving Inhabited

namespace Value

def same : Value → Value → Bool
  | .nil, .nil => true
  | .bool a, .bool b => a == b
  | .num a, .num b => a.equal b
  | .str a, .str b => a == b
  | .table a, .table b => a == b
  | .closure a, .closure b => a == b
  | .builtin a, .builtin b => a == b
  | .foreign kind a, .foreign kind' b => kind == kind' && a == b
  | _, _ => false

def isNil : Value → Bool
  | .nil => true
  | _ => false

def truthy : Value → Bool
  | .nil => false
  | .bool b => b
  | _ => true

def int (n : Int) : Value := .num (.int (Int64.ofInt n))

def text (s : String) : Value := .str s.toUTF8

def typeName : Value → String
  | .nil => "nil"
  | .bool _ => "boolean"
  | .num _ => "number"
  | .str _ => "string"
  | .table _ => "table"
  | .closure _ => "function"
  | .builtin _ => "function"
  | .foreign kind _ => kind

/-- Integers and floats are told apart. -/
def kindName : Value → String
  | .num (.int _) => "integer"
  | v => v.typeName

/-- A float without fraction is the same key as the integer. -/
def asKey : Value → Value
  | .num (.float x) =>
    match Numeral.wholeOf? x with
    | some n => .num (.int n)
    | none => .num (.float x)
  | v => v

end Value

structure Table where
  entries : List (Value × Value) := []
  /-- The positions that were set aside when the table was built. -/
  slots : Nat := 0
  deriving Inhabited

namespace Table

def get (t : Table) (key : Value) : Value :=
  let key := key.asKey
  ((t.entries.find? fun entry => entry.1.same key).map (·.2)).getD .nil

def putEntry (key value : Value) : List (Value × Value) → List (Value × Value)
  | [] => if value.isNil then [] else [(key, value)]
  | (k, v) :: rest =>
    if k.same key then (if value.isNil then rest else (k, value) :: rest)
    else (k, v) :: putEntry key value rest

/-- Storing nil removes the key. -/
def set (t : Table) (key value : Value) : Table :=
  { t with entries := putEntry key.asKey value t.entries }

def holds (t : Table) (i : Nat) : Bool := !(t.get (.int i)).isNil

def countFrom (t : Table) : Nat → Nat → Nat
  | 0, n => n
  | fuel + 1, n => if t.holds (n + 1) then countFrom t fuel (n + 1) else n

/-- Halves the distance between a position that is held, or zero, and one that is not. -/
def bisect (t : Table) : Nat → Nat → Nat → Nat
  | 0, low, _ => low
  | fuel + 1, low, high =>
    if high - low ≤ 1 then low
    else
      let middle := (low + high) / 2
      if t.holds middle then bisect t fuel middle high else bisect t fuel low middle

/-- The length: a position that is held while the next one is not. Where there are gaps there may be
several, and Lua leaves open which one of them it is. -/
def border (t : Table) : Nat :=
  if t.slots > 0 && !t.holds t.slots then
    if t.slots ≥ 2 && t.holds (t.slots - 1) then t.slots - 1 else bisect t t.slots 0 t.slots
  else countFrom t t.entries.length t.slots

end Table

/-- Visible local variables with the cells that hold them, the innermost first. -/
abbrev Locals := List (String × Nat)

structure Closure where
  params : List String
  variadic : Bool
  body : List Stmt
  locals : Locals

/-- The ways in which a running script can fail. -/
inductive Fault where
  | arithmetic (kind : String)
  | concatenation (kind : String)
  | length (kind : String)
  | comparison (left right : String)
  | indexing (kind : String)
  | calling (kind : String)
  | zeroDivision
  | badKey
  | loopBound
  | argument (function : String)
  | raised (value : String)
  | notText
  /-- A table that contains itself was to be turned into a tree. -/
  | endless
  | tooDeep
  | outOfFuel

def Fault.message : Fault → String
  | .arithmetic kind => s!"attempt to perform arithmetic on a {kind} value"
  | .concatenation kind => s!"attempt to concatenate a {kind} value"
  | .length kind => s!"attempt to get length of a {kind} value"
  | .comparison left right => s!"attempt to compare {left} with {right}"
  | .indexing kind => s!"attempt to index a {kind} value"
  | .calling kind => s!"attempt to call a {kind} value"
  | .zeroDivision => "attempt to perform 'n//0'"
  | .badKey => "index is nil or NaN"
  | .loopBound => "'for' bounds must be numbers and the step must not be zero"
  | .argument function => s!"bad argument to '{function}'"
  | .raised value => value
  | .notText => "invalid utf-8 sequence"
  | .endless => "a table contains itself"
  | .tooDeep => "stack overflow"
  | .outOfFuel => "script does not come to an end"

/-- The first table holds the global variables. -/
structure State where
  tables : Array Table := #[{}]
  cells : Array Value := #[]
  closures : Array Closure := #[]

namespace State

def globalRef : Nat := 0

def table (s : State) (ref : Nat) : Table := s.tables.getD ref {}

def withTable (s : State) (ref : Nat) (t : Table) : State :=
  { s with tables := s.tables.setIfInBounds ref t }

def addTable (s : State) (t : Table) : Nat × State :=
  (s.tables.size, { s with tables := s.tables.push t })

def global (s : State) (name : String) : Value := (s.table globalRef).get (.text name)

def setGlobal (s : State) (name : String) (value : Value) : State :=
  s.withTable globalRef ((s.table globalRef).set (.text name) value)

def keyValue : Key → Value
  | .bool b => .bool b
  | .num n => .num n
  | .str bytes => .str bytes
  | .handle => .nil

mutual

def load (s : State) : Data → Value × State
  | .nil => (.nil, s)
  | .bool b => (.bool b, s)
  | .num n => (.num n, s)
  | .str bytes => (.str bytes, s)
  | .table entries =>
    let (t, s) := loadEntries s {} entries
    let (ref, s) := s.addTable t
    (.table ref, s)
  | .function => (.nil, s)

def loadEntries (s : State) (t : Table) : List (Key × Data) → Table × State
  | [] => (t, s)
  | (k, v) :: rest =>
    let (value, s) := load s v
    loadEntries s (t.set (keyValue k) value) rest

end

def snapshotKey : Value → Key
  | .bool b => .bool b
  | .num n => .num n
  | .str bytes => .str bytes
  | _ => .handle

/-- The tree below a value; a table that contains itself has none. -/
def snapshot? (s : State) : Nat → Value → Option Data
  | 0, _ => none
  | fuel + 1, v =>
    match v with
    | .nil => some .nil
    | .bool b => some (.bool b)
    | .num n => some (.num n)
    | .str bytes => some (.str bytes)
    | .table ref =>
      ((s.table ref).entries.mapM fun entry =>
        (snapshot? s fuel entry.2).map fun d => (snapshotKey entry.1, d)).map .table
    | .closure _ => some .function
    | .builtin _ => some .function
    | .foreign _ _ => some .function

/-- A tree is at most as deep as there are tables. -/
def data? (s : State) (v : Value) : Option Data := s.snapshot? (s.tables.size + 1) v

end State

end QueryCatalog.Lua
