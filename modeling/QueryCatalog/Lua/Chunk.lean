import QueryCatalog.Lua.Numeral

/-!
The syntax tree of a Lua chunk. Names are resolved when a chunk runs: a name that no block around
it declares is a global one.
-/
namespace QueryCatalog.Lua

inductive UnaryOperator where
  | negate
  | not
  | length
  deriving DecidableEq, Repr

inductive BinaryOperator where
  | or
  | and
  | less
  | greater
  | lessEqual
  | greaterEqual
  | notEqual
  | equal
  | concat
  | add
  | sub
  | mul
  | div
  | floorDiv
  | mod
  | pow
  deriving DecidableEq, Repr

namespace BinaryOperator

/-- How strongly an operator binds its left and its right operand. -/
def priority : BinaryOperator → Nat × Nat
  | .or => (1, 1)
  | .and => (2, 2)
  | .less => (3, 3)
  | .greater => (3, 3)
  | .lessEqual => (3, 3)
  | .greaterEqual => (3, 3)
  | .notEqual => (3, 3)
  | .equal => (3, 3)
  | .concat => (9, 8)
  | .add => (10, 10)
  | .sub => (10, 10)
  | .mul => (11, 11)
  | .div => (11, 11)
  | .floorDiv => (11, 11)
  | .mod => (11, 11)
  | .pow => (14, 13)

def ofSymbol? : String → Option BinaryOperator
  | "or" => some .or
  | "and" => some .and
  | "<" => some .less
  | ">" => some .greater
  | "<=" => some .lessEqual
  | ">=" => some .greaterEqual
  | "~=" => some .notEqual
  | "==" => some .equal
  | ".." => some .concat
  | "+" => some .add
  | "-" => some .sub
  | "*" => some .mul
  | "/" => some .div
  | "//" => some .floorDiv
  | "%" => some .mod
  | "^" => some .pow
  | _ => none

end BinaryOperator

/-- How strongly an operator before its operand binds it. -/
def unaryPriority : Nat := 12

mutual

inductive Expr where
  | nil
  | bool (value : Bool)
  | number (value : Numeral)
  | text (bytes : ByteArray)
  | varargs
  | name (text : String)
  | index (object : Expr) (key : Expr)
  | call (callee : Expr) (args : List Expr)
  /-- A call that passes the object itself as the first argument. -/
  | invoke (object : Expr) (method : String) (args : List Expr)
  | function (params : List String) (variadic : Bool) (body : List Stmt)
  | table (fields : List Field)
  | unary (operator : UnaryOperator) (operand : Expr)
  | binary (left : Expr) (operator : BinaryOperator) (right : Expr)
  /-- Parentheses cut several values down to one. -/
  | paren (inner : Expr)

inductive Field where
  | item (value : Expr)
  | entry (key : Expr) (value : Expr)

inductive Stmt where
  | localNames (names : List String) (values : List Expr)
  | localFunction (name : String) (params : List String) (variadic : Bool) (body : List Stmt)
  | assign (targets : List Expr) (values : List Expr)
  | call (expr : Expr)
  | block (body : List Stmt)
  | branch (condition : Expr) (body : List Stmt) (otherwise : List Stmt)
  | whileLoop (condition : Expr) (body : List Stmt)
  | count (name : String) (start stop : Expr) (step : Option Expr) (body : List Stmt)
  | each (names : List String) (values : List Expr) (body : List Stmt)
  | leave
  | finish (values : List Expr)

end

abbrev Chunk := List Stmt

end QueryCatalog.Lua
