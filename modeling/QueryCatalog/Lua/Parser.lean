import QueryCatalog.Lua.Chunk
import QueryCatalog.Lua.Token

/-!
Reading a chunk. Expressions and statements nest at most `maxNesting` deep; a chunk may leave a
loop only inside of one, and may use `...` in functions that take any number of arguments.
-/
namespace QueryCatalog.Lua

abbrev Parse (α : Type) := List Token → Option (α × List Token)

def maxNesting : Nat := 195

/-- Where a construct stands. -/
structure Place where
  nesting : Nat := 0
  inLoop : Bool := false
  variadic : Bool := true

def Place.deeper (p : Place) : Place := { p with nesting := p.nesting + 1 }

def Place.loop (p : Place) : Place := { p with inLoop := true }

namespace Parse

def symbol (s : String) : Parse Unit
  | .symbol t :: rest => if t == s then some ((), rest) else none
  | _ => none

def name : Parse String
  | .name n :: rest => some (n, rest)
  | _ => none

def startsWith (s : String) : List Token → Bool
  | .symbol t :: _ => t == s
  | _ => false

/-- Names between commas, at least one. -/
def names : Nat → Parse (List String)
  | 0, _ => none
  | fuel + 1, ts => do
    let (n, ts) ← name ts
    if startsWith "," ts then
      let (more, ts) ← names fuel (ts.drop 1)
      return (n :: more, ts)
    else return ([n], ts)

/-- The parameters of a function after the opening parenthesis. -/
def params : Nat → Parse (List String × Bool)
  | 0, _ => none
  | fuel + 1, ts =>
    match ts with
    | .symbol ")" :: rest => some (([], false), rest)
    | .symbol "..." :: .symbol ")" :: rest => some (([], true), rest)
    | .name n :: .symbol ")" :: rest => some (([n], false), rest)
    | .name n :: .symbol "," :: .name m :: rest =>
      (params fuel (.name m :: rest)).map fun ((more, v), rest) => ((n :: more, v), rest)
    | .name n :: .symbol "," :: .symbol "..." :: .symbol ")" :: rest => some (([n], true), rest)
    | _ => none

/-- Whether a block ends here. -/
def blockEnds : List Token → Bool
  | [] => true
  | .symbol s :: _ => s == "end" || s == "else" || s == "elseif" || s == "until"
  | _ => false

def unaryOperator? : List Token → Option UnaryOperator
  | .symbol "-" :: _ => some .negate
  | .symbol "not" :: _ => some .not
  | .symbol "#" :: _ => some .length
  | _ => none

def binaryOperator? : List Token → Option BinaryOperator
  | .symbol s :: _ => BinaryOperator.ofSymbol? s
  | _ => none

def isAssignable : Expr → Bool
  | .name _ => true
  | .index _ _ => true
  | _ => false

def isCall : Expr → Bool
  | .call _ _ => true
  | .invoke _ _ _ => true
  | _ => false

def key (n : String) : Expr := .text n.toUTF8

mutual

/-- An expression whose operators bind more strongly than `limit`. -/
def expr (p : Place) (limit : Nat) : Nat → Parse Expr
  | 0, _ => none
  | fuel + 1, ts =>
    if p.nesting ≥ maxNesting then none
    else match unaryOperator? ts with
      | some op =>
        match expr p.deeper unaryPriority fuel (ts.drop 1) with
        | some (e, ts) => operators p limit (.unary op e) fuel ts
        | none => none
      | none =>
        match simple p fuel ts with
        | some (e, ts) => operators p limit e fuel ts
        | none => none

/-- The operators that follow an operand, as long as they bind more strongly than `limit`. -/
def operators (p : Place) (limit : Nat) (left : Expr) : Nat → Parse Expr
  | 0, _ => none
  | fuel + 1, ts =>
    match binaryOperator? ts with
    | some op =>
      if op.priority.1 > limit then
        match expr p.deeper op.priority.2 fuel (ts.drop 1) with
        | some (right, ts) => operators p limit (.binary left op right) fuel ts
        | none => none
      else some (left, ts)
    | none => some (left, ts)

def simple (p : Place) : Nat → Parse Expr
  | 0, _ => none
  | fuel + 1, ts =>
    match ts with
    | .number n :: rest => some (.number n, rest)
    | .text b :: rest => some (.text b, rest)
    | .symbol "nil" :: rest => some (.nil, rest)
    | .symbol "true" :: rest => some (.bool true, rest)
    | .symbol "false" :: rest => some (.bool false, rest)
    | .symbol "..." :: rest => if p.variadic then some (.varargs, rest) else none
    | .symbol "\x7b" :: rest =>
      (fields p fuel rest).map fun (fs, rest) => (.table fs, rest)
    | .symbol "function" :: rest =>
      (function p fuel rest).map fun ((ps, v, body), rest) => (.function ps v body, rest)
    | _ => suffixed p fuel ts

/-- The parameters and the body of a function. -/
def function (p : Place) : Nat → Parse (List String × Bool × List Stmt)
  | 0, _ => none
  | fuel + 1, ts => do
    let (_, ts) ← symbol "(" ts
    let ((ps, v), ts) ← params fuel ts
    let (body, ts) ← block { p with inLoop := false, variadic := v } fuel ts
    let (_, ts) ← symbol "end" ts
    return ((ps, v, body), ts)

def suffixed (p : Place) : Nat → Parse Expr
  | 0, _ => none
  | fuel + 1, ts =>
    match ts with
    | .name n :: rest => suffixes p (.name n) fuel rest
    | .symbol "(" :: rest => do
      let (e, ts) ← expr p 0 fuel rest
      let (_, ts) ← symbol ")" ts
      suffixes p (.paren e) fuel ts
    | _ => none

def suffixes (p : Place) (e : Expr) : Nat → Parse Expr
  | 0, _ => none
  | fuel + 1, ts =>
    match ts with
    | .symbol "." :: .name n :: rest => suffixes p (.index e (key n)) fuel rest
    | .symbol "[" :: rest => do
      let (k, ts) ← expr p 0 fuel rest
      let (_, ts) ← symbol "]" ts
      suffixes p (.index e k) fuel ts
    | .symbol ":" :: .name n :: rest => do
      let (args, ts) ← arguments p fuel rest
      suffixes p (.invoke e n args) fuel ts
    | .symbol "." :: _ => none
    | .symbol ":" :: _ => none
    | .symbol "(" :: _ => do
      let (args, ts) ← arguments p fuel ts
      suffixes p (.call e args) fuel ts
    | .symbol "\x7b" :: _ => do
      let (args, ts) ← arguments p fuel ts
      suffixes p (.call e args) fuel ts
    | .text _ :: _ => do
      let (args, ts) ← arguments p fuel ts
      suffixes p (.call e args) fuel ts
    | _ => some (e, ts)

def arguments (p : Place) : Nat → Parse (List Expr)
  | 0, _ => none
  | fuel + 1, ts =>
    match ts with
    | .text b :: rest => some ([.text b], rest)
    | .symbol "\x7b" :: rest => (fields p fuel rest).map fun (fs, rest) => ([.table fs], rest)
    | .symbol "(" :: .symbol ")" :: rest => some ([], rest)
    | .symbol "(" :: rest => do
      let (args, ts) ← exprs p fuel rest
      let (_, ts) ← symbol ")" ts
      return (args, ts)
    | _ => none

/-- Expressions between commas, at least one. -/
def exprs (p : Place) : Nat → Parse (List Expr)
  | 0, _ => none
  | fuel + 1, ts => do
    let (e, ts) ← expr p 0 fuel ts
    if startsWith "," ts then
      let (more, ts) ← exprs p fuel (ts.drop 1)
      return (e :: more, ts)
    else return ([e], ts)

/-- The fields of a table up to its closing brace. -/
def fields (p : Place) : Nat → Parse (List Field)
  | 0, _ => none
  | fuel + 1, ts =>
    match ts with
    | .symbol "\x7d" :: rest => some ([], rest)
    | _ => do
      let (f, ts) ← field p fuel ts
      match ts with
      | .symbol "\x7d" :: rest => return ([f], rest)
      | .symbol s :: rest =>
        if s == "," || s == ";" then
          let (more, ts) ← fields p fuel rest
          return (f :: more, ts)
        else none
      | _ => none

def field (p : Place) : Nat → Parse Field
  | 0, _ => none
  | fuel + 1, ts =>
    match ts with
    | .name n :: .symbol "=" :: rest =>
      (expr p 0 fuel rest).map fun (e, rest) => (.entry (key n) e, rest)
    | .symbol "[" :: rest => do
      let (k, ts) ← expr p 0 fuel rest
      let (_, ts) ← symbol "]" ts
      let (_, ts) ← symbol "=" ts
      let (e, ts) ← expr p 0 fuel ts
      return (.entry k e, ts)
    | _ => (expr p 0 fuel ts).map fun (e, rest) => (.item e, rest)

/-- Statements up to the end of the block; `return` comes last. -/
def block (p : Place) : Nat → Parse (List Stmt)
  | 0, _ => none
  | fuel + 1, ts =>
    if blockEnds ts then some ([], ts)
    else match ts with
      | .symbol ";" :: rest => block p fuel rest
      | .symbol "return" :: rest => do
        let (values, ts) ←
          if blockEnds rest || startsWith ";" rest then some ([], rest) else exprs p fuel rest
        let ts := if startsWith ";" ts then ts.drop 1 else ts
        if blockEnds ts then return ([.finish values], ts) else none
      | _ => do
        let (s, ts) ← statement p fuel ts
        let (more, ts) ← block p fuel ts
        return (s :: more, ts)

def statement (p : Place) : Nat → Parse Stmt
  | 0, _ => none
  | fuel + 1, ts =>
    if p.nesting ≥ maxNesting then none
    else
      let p := p.deeper
      match ts with
      | .symbol "break" :: rest => if p.inLoop then some (.leave, rest) else none
      | .symbol "do" :: rest => do
        let (body, ts) ← block p fuel rest
        let (_, ts) ← symbol "end" ts
        return (.block body, ts)
      | .symbol "if" :: rest => branches p fuel rest
      | .symbol "while" :: rest => do
        let (c, ts) ← expr p 0 fuel rest
        let (_, ts) ← symbol "do" ts
        let (body, ts) ← block p.loop fuel ts
        let (_, ts) ← symbol "end" ts
        return (.whileLoop c body, ts)
      | .symbol "repeat" :: rest => do
        let (body, ts) ← block p.loop fuel rest
        let (_, ts) ← symbol "until" ts
        let (c, ts) ← expr p 0 fuel ts
        return (.whileLoop (.bool true) (body ++ [.branch c [.leave] []]), ts)
      | .symbol "for" :: .name n :: .symbol "=" :: rest => do
        let (bounds, ts) ← exprs p fuel rest
        let (_, ts) ← symbol "do" ts
        let (body, ts) ← block p.loop fuel ts
        let (_, ts) ← symbol "end" ts
        match bounds with
        | [start, stop] => return (.count n start stop none body, ts)
        | [start, stop, step] => return (.count n start stop (some step) body, ts)
        | _ => none
      | .symbol "for" :: rest => do
        let (ns, ts) ← names fuel rest
        let (_, ts) ← symbol "in" ts
        let (values, ts) ← exprs p fuel ts
        let (_, ts) ← symbol "do" ts
        let (body, ts) ← block p.loop fuel ts
        let (_, ts) ← symbol "end" ts
        return (.each ns values body, ts)
      | .symbol "function" :: .name n :: rest => functionNamed p (.name n) fuel rest
      | .symbol "local" :: .symbol "function" :: .name n :: rest => do
        let ((ps, v, body), ts) ← function p fuel rest
        return (.localFunction n ps v body, ts)
      | .symbol "local" :: rest => do
        let (ns, ts) ← names fuel rest
        if startsWith "=" ts then
          let (values, ts) ← exprs p fuel (ts.drop 1)
          return (.localNames ns values, ts)
        else return (.localNames ns [], ts)
      | _ => do
        let (e, ts) ← suffixed p fuel ts
        if startsWith "=" ts || startsWith "," ts then assignment p [e] fuel ts
        else if isCall e then return (.call e, ts)
        else none

/-- The rest of an assignment, with the targets so far in reverse. -/
def assignment (p : Place) (targets : List Expr) : Nat → Parse Stmt
  | 0, _ => none
  | fuel + 1, ts =>
    if !(targets.head?.map isAssignable).getD false then none
    else match ts with
      | .symbol "," :: rest => do
        let (e, ts) ← suffixed p fuel rest
        assignment p (e :: targets) fuel ts
      | .symbol "=" :: rest => do
        let (values, ts) ← exprs p fuel rest
        return (.assign targets.reverse values, ts)
      | _ => none

/-- A function under a name with fields; a method takes itself as `self`. -/
def functionNamed (p : Place) (target : Expr) : Nat → Parse Stmt
  | 0, _ => none
  | fuel + 1, ts =>
    match ts with
    | .symbol "." :: .name n :: rest => functionNamed p (.index target (key n)) fuel rest
    | .symbol ":" :: .name n :: rest => do
      let ((ps, v, body), ts) ← function p fuel rest
      return (.assign [.index target (key n)] [.function ("self" :: ps) v body], ts)
    | _ => do
      let ((ps, v, body), ts) ← function p fuel ts
      return (.assign [target] [.function ps v body], ts)

/-- What follows `if` or `elseif`. -/
def branches (p : Place) : Nat → Parse Stmt
  | 0, _ => none
  | fuel + 1, ts => do
    let (c, ts) ← expr p 0 fuel ts
    let (_, ts) ← symbol "then" ts
    let (body, ts) ← block p fuel ts
    match ts with
    | .symbol "elseif" :: rest => do
      let (more, ts) ← branches p fuel rest
      return (.branch c body [more], ts)
    | .symbol "else" :: rest => do
      let (otherwise, ts) ← block p fuel rest
      let (_, ts) ← symbol "end" ts
      return (.branch c body otherwise, ts)
    | .symbol "end" :: rest => return (.branch c body [], rest)
    | _ => none

end

end Parse

/-- Every call of a parsing function that takes no token is followed by one that does. -/
def Chunk.ofTokens? (ts : List Token) : Option Chunk :=
  match Parse.block {} (16 * ts.length + 16) ts with
  | some (body, []) => some body
  | _ => none

def Chunk.parse? (text : String) : Option Chunk := (tokenize? text).bind Chunk.ofTokens?

end QueryCatalog.Lua
