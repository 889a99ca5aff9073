import QueryCatalog.Lua.Operation

/-!
Running a chunk. This is an interpreter for the part of Lua that `Chunk` describes, without
metatables, coroutines and jumps; what is proved about scripts holds of any other one as well. Fuel
bounds the depth of the evaluation together with the rounds of its loops; a chunk that comes to an
end in some fuel gives the same result in any larger amount.
-/
namespace QueryCatalog.Lua

/-- What a piece of code sees: local variables, the arguments behind `...`, and how many calls it
is inside of. -/
structure Frame where
  locals : Locals := []
  varargs : List Value := []
  calls : Nat := 0

/-- How many calls this interpreter nests. Lua sets no number; it goes on until its stack is full. -/
def maxCalls : Nat := 4000

/-- How a statement ends. -/
inductive Flow where
  | next
  | leave
  | finish (values : List Value)

/-- Declares one variable per name; missing values are nil. -/
def declare (frame : Frame) : List String → List Value → Run Frame
  | [], _ => return frame
  | name :: names, values => do
    let cell ← newCell (values.headD .nil)
    declare { frame with locals := (name, cell) :: frame.locals } names values.tail

def readName (frame : Frame) (name : String) : Run Value := do
  match frame.locals.lookup name with
  | some cell => return (← get).cells.getD cell .nil
  | none => return (← get).global name

def writeName (frame : Frame) (name : String) (value : Value) : Run Unit :=
  match frame.locals.lookup name with
  | some cell => modify fun s => { s with cells := s.cells.setIfInBounds cell value }
  | none => modify (·.setGlobal name value)

/-- A place to assign to, with its object and key evaluated. -/
inductive Target where
  | name (text : String)
  | field (object key : Value)

def assignTo (frame : Frame) (value : Value) : Target → Run Unit
  | .name n => writeName frame n value
  | .field object key => writeField object key value

/-- Assigns the last target first; missing values are nil. -/
def assignAll (frame : Frame) : List Target → List Value → Run Unit
  | [], _ => return ()
  | target :: rest, values => do
    assignAll frame rest values.tail
    assignTo frame (values.headD .nil) target

/-- The bounds of a counting loop: integers with the number of rounds, or floats. -/
inductive Count where
  | ints (start step : Int) (rounds : Nat)
  | floats (start stop step : Float)

/-- An integer loop ends at its limit rounded towards the start. -/
def limitOf (stop : Numeral) (step : Int) : Int :=
  match stop with
  | .int n => n.toInt
  | .float x =>
    if x.isNaN then (if step > 0 then Text.minInt64 else Text.maxInt64)
    else if x ≥ 9223372036854775808.0 then Text.maxInt64
    else if x < -9223372036854775808.0 then Text.minInt64
    else (if step > 0 then x.floor else x.ceil).toInt64.toInt

def intCount (start step : Int) (stop : Numeral) : Count :=
  let distance := if step > 0 then limitOf stop step - start else start - limitOf stop step
  if distance < 0 then .ints start step 0
  else .ints start step ((distance / step.natAbs).toNat + 1)

def countOver (start stop step : Value) : Run Count :=
  match start, step with
  | .num (.int a), .num (.int c) =>
    match toNumeral? stop with
    | some limit => if c == 0 then fail .loopBound else return intCount a.toInt c.toInt limit
    | none => fail .loopBound
  | _, _ =>
    match toNumeral? start, toNumeral? stop, toNumeral? step with
    | some a, some b, some c =>
      if c.toFloat == 0.0 then fail .loopBound
      else return .floats a.toFloat b.toFloat c.toFloat
    | _, _, _ => fail .loopBound

/-- The first round of a counting loop, if there is one, and the rest. -/
def Count.next? : Count → Option (Value × Count)
  | .ints _ _ 0 => none
  | .ints i step (rounds + 1) => some (.int i, .ints (i + step) step rounds)
  | .floats x stop step =>
    if (step > 0.0 && x ≤ stop) || (step < 0.0 && stop ≤ x) then
      some (.num (.float x), .floats (x + step) stop step)
    else none

mutual

def eval (frame : Frame) : Nat → Expr → Run Value
  | 0, _ => fail .outOfFuel
  | fuel + 1, e =>
    match e with
    | .nil => return .nil
    | .bool b => return .bool b
    | .number n => return .num n
    | .text b => return .str b
    | .name n => readName frame n
    | .index object key => do
      let o ← eval frame fuel object
      let k ← eval frame fuel key
      readField o k
    | .function params variadic body => do
      let s ← get
      set { s with closures := s.closures.push ⟨params, variadic, body, frame.locals⟩ }
      return .closure s.closures.size
    | .table fields => do
      let (t, count) ← evalFields frame fuel {} 0 fields
      newTable { t with slots := count }
    | .unary op operand => do applyUnary (← eval frame fuel operand) op
    | .binary left .and right => do
      let a ← eval frame fuel left
      if a.truthy then eval frame fuel right else return a
    | .binary left .or right => do
      let a ← eval frame fuel left
      if a.truthy then return a else eval frame fuel right
    | .binary left op right => do
      let a ← eval frame fuel left
      let b ← eval frame fuel right
      applyBinary a b op
    | .paren inner => eval frame fuel inner
    | .varargs => return frame.varargs.headD .nil
    | .call callee args => do return (← evalCall frame fuel callee args).headD .nil
    | .invoke object method args => do
      return (← evalInvoke frame fuel object method args).headD .nil

/-- All values of an expression: calls and `...` may have any number. -/
def evalMulti (frame : Frame) : Nat → Expr → Run (List Value)
  | 0, _ => fail .outOfFuel
  | fuel + 1, e =>
    match e with
    | .varargs => return frame.varargs
    | .call callee args => evalCall frame fuel callee args
    | .invoke object method args => evalInvoke frame fuel object method args
    | e => do return [← eval frame fuel e]

/-- The values of a list of expressions; only the last one gives more than one. -/
def evalList (frame : Frame) : Nat → List Expr → Run (List Value)
  | 0, _ => fail .outOfFuel
  | _ + 1, [] => return []
  | fuel + 1, [e] => evalMulti frame fuel e
  | fuel + 1, e :: rest => do
    let v ← eval frame fuel e
    return v :: (← evalList frame fuel rest)

def evalCall (frame : Frame) : Nat → Expr → List Expr → Run (List Value)
  | 0, _, _ => fail .outOfFuel
  | fuel + 1, callee, args => do
    let f ← eval frame fuel callee
    let values ← evalList frame fuel args
    apply frame.calls fuel f values

def evalInvoke (frame : Frame) : Nat → Expr → String → List Expr → Run (List Value)
  | 0, _, _, _ => fail .outOfFuel
  | fuel + 1, object, method, args => do
    let o ← eval frame fuel object
    let f ← readField o (.text method)
    let values ← evalList frame fuel args
    apply frame.calls fuel f (o :: values)

/-- Fills a table; `count` items without a key came before. -/
def evalFields (frame : Frame) : Nat → Table → Nat → List Field → Run (Table × Nat)
  | 0, _, _, _ => fail .outOfFuel
  | _ + 1, t, count, [] => return (t, count)
  | fuel + 1, t, count, [.item e] => do
    let values ← evalMulti frame fuel e
    let t := (values.zipIdx (count + 1)).foldl (fun t (v, i) => t.set (.int i) v) t
    return (t, count + values.length)
  | fuel + 1, t, count, .item e :: rest => do
    let v ← eval frame fuel e
    evalFields frame fuel (t.set (.int (count + 1)) v) (count + 1) rest
  | fuel + 1, t, count, .entry key e :: rest => do
    let k ← eval frame fuel key
    let v ← eval frame fuel e
    if isBadKey k then fail .badKey
    else evalFields frame fuel (t.set k v) count rest

/-- Calls a function from inside of `calls` others. -/
def apply (calls : Nat) : Nat → Value → List Value → Run (List Value)
  | 0, _, _ => fail .outOfFuel
  | fuel + 1, f, args =>
    match f with
    | .builtin b => callBuiltin args b
    | .closure ref => do
      if calls ≥ maxCalls then fail .tooDeep
      else
        match (← get).closures[ref]? with
        | none => fail (.calling "nil")
        | some c =>
          let frame ← declare { locals := c.locals, calls := calls + 1 } c.params args
          let varargs := if c.variadic then args.drop c.params.length else []
          match ← exec { frame with varargs } fuel c.body with
          | .finish values => return values
          | _ => return []
    | other => fail (.calling other.typeName)

def evalTargets (frame : Frame) : Nat → List Expr → Run (List Target)
  | 0, _ => fail .outOfFuel
  | _ + 1, [] => return []
  | fuel + 1, .name n :: rest => do return .name n :: (← evalTargets frame fuel rest)
  | fuel + 1, .index object key :: rest => do
    let o ← eval frame fuel object
    let k ← eval frame fuel key
    return .field o k :: (← evalTargets frame fuel rest)
  | fuel + 1, _ :: rest => evalTargets frame fuel rest

/-- Runs statements; a declaration is visible in those after it. -/
def exec (frame : Frame) : Nat → List Stmt → Run Flow
  | 0, _ => fail .outOfFuel
  | _ + 1, [] => return .next
  | fuel + 1, .localNames names values :: rest => do
    let vs ← evalList frame fuel values
    let frame ← declare frame names vs
    exec frame fuel rest
  | fuel + 1, .localFunction name params variadic body :: rest => do
    let frame ← declare frame [name] []
    let s ← get
    set { s with closures := s.closures.push ⟨params, variadic, body, frame.locals⟩ }
    writeName frame name (.closure s.closures.size)
    exec frame fuel rest
  | fuel + 1, stmt :: rest => do
    match ← step frame fuel stmt with
    | .next => exec frame fuel rest
    | flow => return flow

/-- Runs a statement that declares nothing for those after it. -/
def step (frame : Frame) : Nat → Stmt → Run Flow
  | 0, _ => fail .outOfFuel
  | fuel + 1, stmt =>
    match stmt with
    | .assign targets values => do
      let ts ← evalTargets frame fuel targets
      let vs ← evalList frame fuel values
      assignAll frame ts vs
      return .next
    | .call e => do
      let _ ← evalMulti frame fuel e
      return .next
    | .block body => exec frame fuel body
    | .branch condition body otherwise => do
      if (← eval frame fuel condition).truthy then exec frame fuel body
      else exec frame fuel otherwise
    | .whileLoop condition body => whileFrom frame condition body fuel
    | .count name start stop increment body => do
      let a ← eval frame fuel start
      let b ← eval frame fuel stop
      let c ← match increment with
        | some e => eval frame fuel e
        | none => pure (.int 1)
      countFrom frame name body fuel (← countOver a b c)
    | .each names values body => do
      let vs ← evalList frame fuel values
      eachFrom frame names body (vs.headD .nil) (vs.getD 1 .nil) fuel (vs.getD 2 .nil)
    | .leave => return .leave
    | .finish values => do return .finish (← evalList frame fuel values)
    | .localNames _ _ => return .next
    | .localFunction _ _ _ _ => return .next

def whileFrom (frame : Frame) (condition : Expr) (body : List Stmt) : Nat → Run Flow
  | 0 => fail .outOfFuel
  | fuel + 1 => do
    if (← eval frame fuel condition).truthy then
      match ← exec frame fuel body with
      | .next => whileFrom frame condition body fuel
      | .leave => return .next
      | flow => return flow
    else return .next

def countFrom (frame : Frame) (name : String) (body : List Stmt) : Nat → Count → Run Flow
  | 0, _ => fail .outOfFuel
  | fuel + 1, count =>
    match count.next? with
    | none => return .next
    | some (v, more) => do
      let inner ← declare frame [name] [v]
      match ← exec inner fuel body with
      | .next => countFrom frame name body fuel more
      | .leave => return .next
      | flow => return flow

/-- Calls the step function until its first value is nil. -/
def eachFrom (frame : Frame) (names : List String) (body : List Stmt) (f state : Value) :
    Nat → Value → Run Flow
  | 0, _ => fail .outOfFuel
  | fuel + 1, control => do
    let vs ← apply frame.calls fuel f [state, control]
    if (vs.headD .nil).isNil then return .next
    else
      let inner ← declare frame names vs
      match ← exec inner fuel body with
      | .next => eachFrom frame names body f state fuel (vs.headD .nil)
      | .leave => return .next
      | flow => return flow

end

/-- More rounds than any script can take. -/
def fuel : Nat := Nat.pow 2 62

/-- Runs a whole chunk and gives what it returns. -/
def runChunk (chunk : Chunk) : Run (List Value) := do
  match ← exec {} fuel chunk with
  | .finish values => return values
  | _ => return []

end QueryCatalog.Lua
