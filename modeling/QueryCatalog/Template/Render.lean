import QueryCatalog.Template.Tree
import QueryCatalog.Json.Path
import QueryCatalog.Json.Printer

/-!
Rendering. A template writes statement text and, through `sp`, binds values; both are only ever
appended to, and the scopes of loops are left as they were found, on errors too.
-/
namespace QueryCatalog.Template

/-- The state of a rendering; the innermost scope comes first. -/
structure Rendering where
  scopes : List (String × Json) := []
  text : String := ""
  args : List Json := []

abbrev Render (α : Type) := ExceptT TemplateError (StateM Rendering) α

def write (text : String) : Render Unit := modify fun r => { r with text := r.text ++ text }

/-- Binds a value and stands for its placeholder. -/
def bindValue (value : Json) : Render Json := do
  modify fun r => { r with args := r.args ++ [value] }
  return .str "?"

/-- Runs an action under further scopes and removes them again, whatever becomes of it. -/
def withScopes (bindings : List (String × Json)) (action : Render Unit) : Render Unit := fun r =>
  let (result, after) := action { r with scopes := bindings ++ r.scopes }
  (result, { after with scopes := after.scopes.drop bindings.length })

/-- Loop variables hide the criteria; `p` stands for the criteria as a whole. -/
def lookupIn (criteria : Json) (scopes : List (String × Json)) (name : String) : Json :=
  match scopes.lookup name with
  | some value => value
  | none => if name == "p" then criteria else criteria.field name

def indexValue : Json → Json → Json
  | .arr items, .num n => .orNull (n.word?.bind (items[·]?))
  | .obj fields, .str key => .orNull (Row.get? fields key)
  | _, _ => .null

def containsText (needle : List Char) : List Char → Bool
  | [] => needle.isEmpty
  | c :: rest => needle.isPrefixOf (c :: rest) || containsText needle rest

def isIn (haystack needle : Json) : Bool :=
  match haystack with
  | .arr items => items.any (Json.equals · needle)
  | .str s => containsText needle.toText.toList s.toList
  | .obj fields => Row.has fields needle.toText
  | _ => false

def saturate (n : Int) : Int := max Text.minInt64 (min Text.maxInt64 n)

/-- Numbers add, arrays are joined, and all else is joined as text. -/
def addValues : Json → Json → Json
  | .num a, .num b =>
    match a.int64?, b.int64? with
    | some m, some n => .num (.int (saturate (m + n)))
    | _, _ => .num (.ofFloat (a.toFloat + b.toFloat))
  | .arr a, .arr b => .arr (a ++ b)
  | a, b => .str (a.toText ++ b.toText)

/-- Operators whose operands are both evaluated. -/
def applyOperator (a : Json) (b : Json) : Operator → Json
  | .equal => .bool (a.equals b)
  | .notEqual => .bool (!a.equals b)
  | .less => .bool (a.order b == .lt)
  | .lessEqual => .bool (a.order b != .gt)
  | .greater => .bool (a.order b == .gt)
  | .greaterEqual => .bool (a.order b != .lt)
  | .in => .bool (isIn b a)
  | .notIn => .bool (!isIn b a)
  | .add => addValues a b
  | .and => .null
  | .or => .null

def lengthOf : Json → Nat
  | .arr items => items.length
  | .obj fields => fields.length
  | .str s => s.length
  | .null => 0
  | _ => 1

def joinItems (separator : String) : Json → String
  | .arr items => separator.intercalate (items.map Json.toText)
  | other => other.toText

/-- The functions without effect; a missing argument is null. -/
def applyFunction (name : String) (args : List Json) : Except TemplateError Json :=
  let arg := fun i : Nat => Json.orNull args[i]?
  match name with
  | "empty" => .ok (.bool (!(arg 0).truthy))
  | "len" => .ok (.nat (lengthOf (arg 0)))
  | "like" => .ok (if (arg 0).isNull then .null else .str ("%" ++ (arg 0).toText ++ "%"))
  | "upper" => .ok (.str (Text.toUpper (arg 0).toText))
  | "lower" => .ok (.str (Text.toLower (arg 0).toText))
  | "matches" =>
    match Pattern.parse (arg 1).toText with
    | .ok p => .ok (.bool (p.isMatch (arg 0).toText))
    | .error e => .error (.badPattern e)
  | "join" =>
    let separator := match args[1]? with
      | some s => s.toText
      | none => ","
    .ok (.str (joinItems separator (arg 0)))
  | "default" => .ok (if (arg 0).isNull then arg 1 else arg 0)
  | _ => .error (.unknownFunction name)

def call (name : String) (args : List Json) : Render Json :=
  if name == "sp" then
    match args with
    | [value] => bindValue value
    | _ => throw .bindArity
  else match applyFunction name args with
    | .ok value => return value
    | .error e => throw e

mutual

/-- The value of an expression. Operands are evaluated from left to right; `and` and `or` stop as
soon as they are decided. -/
def evaluate (criteria : Json) : Expr → Render Json
  | .literal value => return value
  | .variable name => return lookupIn criteria (← get).scopes name
  | .field base name => return (← evaluate criteria base).field name
  | .index base index => do
    let base ← evaluate criteria base
    let index ← evaluate criteria index
    return indexValue base index
  | .array items => return .arr (← evaluateAll criteria items)
  | .not operand => return .bool (!(← evaluate criteria operand).truthy)
  | .binary left .and right => do
    let a ← evaluate criteria left
    if a.truthy then return .bool (← evaluate criteria right).truthy else return .bool false
  | .binary left .or right => do
    let a ← evaluate criteria left
    if a.truthy then return .bool true else return .bool (← evaluate criteria right).truthy
  | .binary left operator right => do
    let a ← evaluate criteria left
    let b ← evaluate criteria right
    return applyOperator a b operator
  | .call name args => do
    let args ← evaluateAll criteria args
    call name args

def evaluateAll (criteria : Json) : List Expr → Render (List Json)
  | [] => return []
  | e :: rest => do
    let v ← evaluate criteria e
    let vs ← evaluateAll criteria rest
    return v :: vs

end

/-- What a loop runs over; an object gives its fields as pairs. -/
def iterationItems : Json → List Json
  | .null => []
  | .arr items => items
  | .obj fields => fields.map fun (k, v) => .obj [("key", .str k), ("value", v)]
  | value => [value]

def loopInfo (index count : Nat) : Json :=
  .obj [("index", .nat (index + 1)), ("index0", .nat index), ("first", .bool (index == 0)),
    ("last", .bool (index + 1 == count)), ("length", .nat count)]

/-- The body once for each item, under the item and the information on the loop. -/
def eachItem (name : String) (count : Nat) (body : Render Unit) : Nat → List Json → Render Unit
  | _, [] => return ()
  | index, item :: rest => do
    withScopes [(name, item), ("loop", loopInfo index count)] body
    eachItem name count body (index + 1) rest

mutual

def renderNode (criteria : Json) : Node → Render Unit
  | .text text => write text
  | .output expr => do write (← evaluate criteria expr).toText
  | .branch branches otherwise => renderBranches criteria (renderNodes criteria otherwise) branches
  | .loop name iterable body => do
    let items := iterationItems (← evaluate criteria iterable)
    eachItem name items.length (renderNodes criteria body) 0 items

def renderNodes (criteria : Json) : List Node → Render Unit
  | [] => return ()
  | node :: rest => do
    renderNode criteria node
    renderNodes criteria rest

/-- The body of the first branch whose condition holds. -/
def renderBranches (criteria : Json) (otherwise : Render Unit) :
    List (Expr × List Node) → Render Unit
  | [] => otherwise
  | (condition, body) :: rest => do
    if (← evaluate criteria condition).truthy then renderNodes criteria body
    else renderBranches criteria otherwise rest

end

/-- Statement text and bound values, in the order of their placeholders. -/
def render (nodes : List Node) (criteria : Json) : Except TemplateError (String × List Json) :=
  match renderNodes criteria nodes {} with
  | (.ok (), r) => .ok (r.text, r.args)
  | (.error e, _) => .error e

end QueryCatalog.Template
