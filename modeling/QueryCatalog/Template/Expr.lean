import QueryCatalog.Template.Token
import QueryCatalog.Json.Value

/-!
Template expressions. From loosest to tightest: `or`, `and`, `not`, one comparison, `+`, then field
access and indexing.
-/
namespace QueryCatalog.Template

inductive Operator where
  | and
  | or
  | equal
  | notEqual
  | less
  | lessEqual
  | greater
  | greaterEqual
  | in
  | notIn
  | add
  deriving DecidableEq, Repr

inductive Expr where
  | literal (value : Json)
  | variable (name : String)
  | field (base : Expr) (name : String)
  | index (base : Expr) (index : Expr)
  | array (items : List Expr)
  | not (operand : Expr)
  | binary (left : Expr) (operator : Operator) (right : Expr)
  | call (name : String) (args : List Expr)
  deriving Inhabited

abbrev ExprParser (α : Type) := List Token → Except TemplateError (α × List Token)

/-- The comparison at the head of the tokens; `not in` takes two of them. -/
def comparison? : List Token → Option (Operator × List Token)
  | .equal :: rest => some (.equal, rest)
  | .notEqual :: rest => some (.notEqual, rest)
  | .less :: rest => some (.less, rest)
  | .lessEqual :: rest => some (.lessEqual, rest)
  | .greater :: rest => some (.greater, rest)
  | .greaterEqual :: rest => some (.greaterEqual, rest)
  | .in :: rest => some (.in, rest)
  | .not :: .in :: rest => some (.notIn, rest)
  | _ => none

def expect (wanted : Token) : List Token → Except TemplateError (List Token)
  | token :: rest => if token == wanted then .ok rest else .error (.expected wanted (some token))
  | [] => .error (.expected wanted none)

def fieldName : ExprParser String
  | .identifier name :: rest => .ok (name, rest)
  | .integer n :: rest => .ok (toString n, rest)
  | found => .error (.expectedField found.head?)

mutual

def parseOr : Nat → ExprParser Expr
  | 0, ts => .error (.unexpected ts.head?)
  | fuel + 1, ts => do
    let (left, ts) ← parseAnd fuel ts
    parseOrMore fuel left ts

def parseOrMore : Nat → Expr → ExprParser Expr
  | 0, _, ts => .error (.unexpected ts.head?)
  | fuel + 1, left, ts =>
    match ts with
    | .or :: ts => do
      let (right, ts) ← parseAnd fuel ts
      parseOrMore fuel (.binary left .or right) ts
    | _ => .ok (left, ts)

def parseAnd : Nat → ExprParser Expr
  | 0, ts => .error (.unexpected ts.head?)
  | fuel + 1, ts => do
    let (left, ts) ← parseNot fuel ts
    parseAndMore fuel left ts

def parseAndMore : Nat → Expr → ExprParser Expr
  | 0, _, ts => .error (.unexpected ts.head?)
  | fuel + 1, left, ts =>
    match ts with
    | .and :: ts => do
      let (right, ts) ← parseNot fuel ts
      parseAndMore fuel (.binary left .and right) ts
    | _ => .ok (left, ts)

def parseNot : Nat → ExprParser Expr
  | 0, ts => .error (.unexpected ts.head?)
  | fuel + 1, ts =>
    match ts with
    | .not :: ts => do
      let (operand, ts) ← parseNot fuel ts
      return (.not operand, ts)
    | _ => parseComparison fuel ts

def parseComparison : Nat → ExprParser Expr
  | 0, ts => .error (.unexpected ts.head?)
  | fuel + 1, ts => do
    let (left, ts) ← parseSum fuel ts
    match comparison? ts with
    | some (operator, ts) => do
      let (right, ts) ← parseSum fuel ts
      return (.binary left operator right, ts)
    | none => return (left, ts)

def parseSum : Nat → ExprParser Expr
  | 0, ts => .error (.unexpected ts.head?)
  | fuel + 1, ts => do
    let (left, ts) ← parsePostfix fuel ts
    parseSumMore fuel left ts

def parseSumMore : Nat → Expr → ExprParser Expr
  | 0, _, ts => .error (.unexpected ts.head?)
  | fuel + 1, left, ts =>
    match ts with
    | .plus :: ts => do
      let (right, ts) ← parsePostfix fuel ts
      parseSumMore fuel (.binary left .add right) ts
    | _ => .ok (left, ts)

def parsePostfix : Nat → ExprParser Expr
  | 0, ts => .error (.unexpected ts.head?)
  | fuel + 1, ts => do
    let (base, ts) ← parsePrimary fuel ts
    parsePostfixMore fuel base ts

def parsePostfixMore : Nat → Expr → ExprParser Expr
  | 0, _, ts => .error (.unexpected ts.head?)
  | fuel + 1, base, ts =>
    match ts with
    | .dot :: ts => do
      let (name, ts) ← fieldName ts
      parsePostfixMore fuel (.field base name) ts
    | .leftBracket :: ts => do
      let (index, ts) ← parseOr fuel ts
      let ts ← expect .rightBracket ts
      parsePostfixMore fuel (.index base index) ts
    | _ => .ok (base, ts)

def parsePrimary : Nat → ExprParser Expr
  | 0, ts => .error (.unexpected ts.head?)
  | fuel + 1, ts =>
    match ts with
    | .integer n :: ts => .ok (.literal (.num (.int n)), ts)
    | .float x :: ts => .ok (.literal (.num (.ofFloat x)), ts)
    | .string s :: ts => .ok (.literal (.str s), ts)
    | .true :: ts => .ok (.literal (.bool true), ts)
    | .false :: ts => .ok (.literal (.bool false), ts)
    | .null :: ts => .ok (.literal .null, ts)
    | .identifier name :: .leftParen :: ts => do
      let (args, ts) ← parseList fuel .rightParen ts
      return (.call name args, ts)
    | .identifier name :: ts => .ok (.variable name, ts)
    | .leftParen :: ts => do
      let (inner, ts) ← parseOr fuel ts
      let ts ← expect .rightParen ts
      return (inner, ts)
    | .leftBracket :: ts => do
      let (items, ts) ← parseList fuel .rightBracket ts
      return (.array items, ts)
    | found => .error (.unexpected found.head?)

/-- Expressions between commas up to a closing token. -/
def parseList : Nat → Token → ExprParser (List Expr)
  | 0, _, ts => .error (.unexpected ts.head?)
  | fuel + 1, close, ts =>
    if (ts.head?.map (· == close)).getD false then .ok ([], ts.tail)
    else parseItems fuel close ts

def parseItems : Nat → Token → ExprParser (List Expr)
  | 0, _, ts => .error (.unexpected ts.head?)
  | fuel + 1, close, ts => do
    let (item, ts) ← parseOr fuel ts
    match ts with
    | .comma :: ts => do
      let (more, ts) ← parseItems fuel close ts
      return (item :: more, ts)
    | _ => do
      let ts ← expect close ts
      return ([item], ts)

end

/-- Every token is passed by at most this many calls. -/
def fuelFor (tokens : List Token) : Nat := 16 * (tokens.length + 1)

def parseTokens (source : String) (tokens : List Token) : Except TemplateError Expr :=
  match parseOr (fuelFor tokens) tokens with
  | .error e => .error e
  | .ok (expr, []) => .ok expr
  | .ok (_, token :: _) => .error (.trailing token source)

def parseExpr (source : String) : Except TemplateError Expr :=
  (tokenize source).bind (parseTokens source)

end QueryCatalog.Template
