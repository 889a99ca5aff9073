import QueryCatalog.Lua.Course

/-!
The operators and the built-in functions of scripts, as actions on the state.
-/
namespace QueryCatalog.Lua

def getTable (ref : Nat) : Run Table := do return (← get).table ref

def setTable (ref : Nat) (t : Table) : Run Unit := modify (·.withTable ref t)

def newTable (t : Table) : Run Value := do
  let (ref, s) := (← get).addTable t
  set s
  return .table ref

def newCell (v : Value) : Run Nat := do
  let s ← get
  set { s with cells := s.cells.push v }
  return s.cells.size

/-- Texts have no fields of their own. -/
def readField (object key : Value) : Run Value :=
  match object with
  | .table ref => do return (← getTable ref).get key
  | .str _ => return .nil
  | other => fail (.indexing other.typeName)

def isBadKey : Value → Bool
  | .nil => true
  | .num (.float x) => x.isNaN
  | _ => false

def writeField (object key value : Value) : Run Unit :=
  match object with
  | .table ref =>
    if isBadKey key then fail .badKey
    else do setTable ref ((← getTable ref).set key value)
  | other => fail (.indexing other.typeName)

/-- A number, or text that is written as one. -/
def toNumeral? : Value → Option Numeral
  | .num n => some n
  | .str bytes => (String.fromUTF8? bytes).bind fun s => Numeral.ofText? s.toList
  | _ => none

def numeralOf (v : Value) : Run Numeral :=
  match toNumeral? v with
  | some n => return n
  | none => fail (.arithmetic v.typeName)

def arithmetic (f : Numeral → Numeral → Numeral) (a b : Value) : Run Value := do
  return .num (f (← numeralOf a) (← numeralOf b))

def division (f : Numeral → Numeral → Option Numeral) (a b : Value) : Run Value := do
  match f (← numeralOf a) (← numeralOf b) with
  | some n => return .num n
  | none => fail .zeroDivision

/-- The text of a text or a number. -/
def bytes? : Value → Option ByteArray
  | .str bytes => some bytes
  | .num n => some n.text.toUTF8
  | _ => none

def concatenate (a b : Value) : Run Value :=
  match bytes? a, bytes? b with
  | some x, some y => return .str (x ++ y)
  | none, _ => fail (.concatenation a.typeName)
  | _, none => fail (.concatenation b.typeName)

def bytesBelow (a b : ByteArray) : Bool := compare a.toList b.toList == .lt

def compareWith (numbers : Numeral → Numeral → Bool) (texts : ByteArray → ByteArray → Bool)
    (a b : Value) : Run Value :=
  match a, b with
  | .num x, .num y => return .bool (numbers x y)
  | .str x, .str y => return .bool (texts x y)
  | _, _ => fail (.comparison a.typeName b.typeName)

def less : Value → Value → Run Value := compareWith Numeral.less bytesBelow

def lessEqual : Value → Value → Run Value :=
  compareWith Numeral.lessEqual fun x y => !bytesBelow y x

/-- Operators whose operands are both evaluated. -/
def applyBinary (a b : Value) : BinaryOperator → Run Value
  | .less => less a b
  | .greater => less b a
  | .lessEqual => lessEqual a b
  | .greaterEqual => lessEqual b a
  | .equal => return .bool (a.same b)
  | .notEqual => return .bool (!a.same b)
  | .concat => concatenate a b
  | .add => arithmetic .add a b
  | .sub => arithmetic .sub a b
  | .mul => arithmetic .mul a b
  | .div => arithmetic .div a b
  | .pow => arithmetic .pow a b
  | .floorDiv => division Numeral.floorDiv? a b
  | .mod => division Numeral.mod? a b
  | .and => return b
  | .or => return b

def applyUnary (v : Value) : UnaryOperator → Run Value
  | .not => return .bool (!v.truthy)
  | .negate => do return .num (← numeralOf v).neg
  | .length =>
    match v with
    | .str bytes => return .int bytes.size
    | .table ref => do return .int (← getTable ref).border
    | other => fail (.length other.typeName)

/-- The text of any value; tables and functions show their number. -/
def display : Value → ByteArray
  | .nil => "nil".toUTF8
  | .bool b => (toString b).toUTF8
  | .num n => n.text.toUTF8
  | .str bytes => bytes
  | .table ref => s!"table: {ref}".toUTF8
  | .closure ref => s!"function: {ref}".toUTF8
  | .builtin _ => "function: builtin".toUTF8
  | .foreign kind ref => s!"{kind}: {ref}".toUTF8

def integerArgument (function : String) (v : Value) : Run Int64 :=
  match (toNumeral? v).bind Numeral.int? with
  | some n => return n
  | none => fail (.argument function)

def tableArgument (function : String) : Value → Run Nat
  | .table ref => return ref
  | _ => fail (.argument function)

/-- Moves what stands from `position` to `last` up by one, the last one first. -/
def shiftUp (t : Table) (position : Nat) : Nat → Table
  | 0 => t
  | last + 1 =>
    if last + 1 < position then t
    else shiftUp (t.set (.int (last + 2)) (t.get (.int (last + 1)))) position last

def insert (args : List Value) : Run (List Value) := do
  match args with
  | [object, value] =>
    let ref ← tableArgument "insert" object
    let t ← getTable ref
    setTable ref (t.set (.int (t.border + 1)) value)
    return []
  | [object, position, value] =>
    let ref ← tableArgument "insert" object
    let t ← getTable ref
    let i := (← integerArgument "insert" position).toInt
    if 1 ≤ i ∧ i ≤ t.border + 1 then
      setTable ref ((shiftUp t i.toNat t.border).set (.int i) value)
      return []
    else fail (.argument "insert")
  | _ => fail (.argument "insert")

/-- The texts at `count` positions from `i` on, joined by a separator. -/
def joinFrom (t : Table) (separator : ByteArray) : Nat → Int → Run ByteArray
  | 0, _ => return .empty
  | 1, i => element t i
  | count + 1, i => do
    let head ← element t i
    return head ++ separator ++ (← joinFrom t separator count (i + 1))
where
  element (t : Table) (i : Int) : Run ByteArray :=
    match bytes? (t.get (.int i)) with
    | some b => return b
    | none => fail (.argument "concat")

/-- An argument that may be missing. -/
def optional {α : Type} (fallback : α) (read : Value → Run α) : Option Value → Run α
  | none => return fallback
  | some .nil => return fallback
  | some v => read v

def concat (args : List Value) : Run (List Value) := do
  let ref ← tableArgument "concat" (args.headD .nil)
  let t ← getTable ref
  let separator ← optional ByteArray.empty (fun v =>
    match bytes? v with
    | some b => return b
    | none => fail (.argument "concat")) args[1]?
  let first ← optional (1 : Int64) (integerArgument "concat") args[2]?
  let last ← optional (Int64.ofNat t.border) (integerArgument "concat") args[3]?
  let count := (last.toInt - first.toInt + 1).toNat
  return [.str (← joinFrom t separator count first.toInt)]

def callBuiltin (args : List Value) : Builtin → Run (List Value)
  | .ipairs =>
    if args.isEmpty then fail (.argument "ipairs")
    else return [.builtin .advance, args.headD .nil, .int 0]
  | .advance => do
    let next := (← integerArgument "ipairs" (args.getD 1 .nil)) + 1
    let v ← readField (args.headD .nil) (.num (.int next))
    return if v.isNil then [.nil] else [.num (.int next), v]
  | .tostring =>
    if args.isEmpty then fail (.argument "tostring") else return [.str (display (args.headD .nil))]
  | .type =>
    if args.isEmpty then fail (.argument "type") else return [.text (args.headD .nil).typeName]
  | .error => fail (.raised (String.fromUTF8? (display (args.headD .nil)) |>.getD ""))
  | .insert => insert args
  | .concat => concat args
  | .bind => do
    callSp (args.headD .nil)
    return [.text "?"]

end QueryCatalog.Lua
