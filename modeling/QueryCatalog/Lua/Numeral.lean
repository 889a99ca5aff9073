import QueryCatalog.Decimal.Significant
import QueryCatalog.Decimal.Reading
import QueryCatalog.Json.Reader

/-!
The numbers of Lua: integers of 64 bits that wrap around, and floats. Division and powers are
always floats; the quotient of `//` and the remainder of `%` go towards the floor.
-/
namespace QueryCatalog.Lua

inductive Numeral where
  | int (value : Int64)
  | float (value : Float)

namespace Numeral

def toFloat : Numeral → Float
  | .int n => Float.ofInt n.toInt
  | .float x => x

/-- The integer that a float without fraction stands for. -/
def wholeOf? (x : Float) : Option Int64 :=
  if x.floor == x && -9223372036854775808.0 ≤ x && x < 9223372036854775808.0 then
    some x.toInt64
  else none

def int? : Numeral → Option Int64
  | .int n => some n
  | .float x => wholeOf? x

def bothInts? : Numeral → Numeral → Option (Int64 × Int64)
  | .int a, .int b => some (a, b)
  | _, _ => none

def arith (ints : Int64 → Int64 → Int64) (floats : Float → Float → Float) (a b : Numeral) :
    Numeral :=
  match bothInts? a b with
  | some (m, n) => .int (ints m n)
  | none => .float (floats a.toFloat b.toFloat)

def add : Numeral → Numeral → Numeral := arith (· + ·) (· + ·)

def sub : Numeral → Numeral → Numeral := arith (· - ·) (· - ·)

def mul : Numeral → Numeral → Numeral := arith (· * ·) (· * ·)

def neg : Numeral → Numeral
  | .int n => .int (0 - n)
  | .float x => .float (-x)

def div (a b : Numeral) : Numeral := .float (a.toFloat / b.toFloat)

def pow (a b : Numeral) : Numeral :=
  let y := b.toFloat
  .float (if y == 2.0 then a.toFloat * a.toFloat else a.toFloat.pow y)

/-- The remainder of magnitudes, which a float always holds exactly. -/
def remainder (x y : Float) : Float :=
  let a := Decimal.Binary.ofFloat x
  let b := Decimal.Binary.ofFloat y
  let e := min a.exponent b.exponent
  let r := (a.mantissa * Nat.pow 2 (a.exponent - e).toNat) %
    (b.mantissa * Nat.pow 2 (b.exponent - e).toNat)
  Float.scaleB (Float.ofNat r) e

def floatMod (x y : Float) : Float :=
  if x.isNaN || y.isNaN || x.isInf || y == 0.0 then 0.0 / 0.0
  else
    let r := if y.isInf then x else Decimal.negateIf (x < 0.0) (remainder x y)
    if (r > 0.0 && y < 0.0) || (r < 0.0 && y > 0.0) then r + y else r

/-- Integers have no quotient by zero. -/
def floorDiv? (a b : Numeral) : Option Numeral :=
  match bothInts? a b with
  | some (m, n) => if n == 0 then none else some (.int (Int64.ofInt (Int.fdiv m.toInt n.toInt)))
  | none => some (.float (a.toFloat / b.toFloat).floor)

def mod? (a b : Numeral) : Option Numeral :=
  match bothInts? a b with
  | some (m, n) => if n == 0 then none else some (.int (Int64.ofInt (Int.fmod m.toInt n.toInt)))
  | none => some (.float (floatMod a.toFloat b.toFloat))

/-- Equality of values, whatever their kind. -/
def equal : Numeral → Numeral → Bool
  | .int a, .int b => a == b
  | .float a, .float b => a == b
  | .int a, .float b => wholeOf? b == some a
  | .float a, .int b => wholeOf? a == some b

/-- An integer against a float, decided without rounding the integer. -/
def intBelow (n : Int64) (x : Float) : Bool :=
  if x ≥ 9223372036854775808.0 then true
  else if x > -9223372036854775808.0 then n < x.ceil.toInt64
  else false

def floatBelow (x : Float) (n : Int64) : Bool :=
  if x < -9223372036854775808.0 then true
  else if x < 9223372036854775808.0 then x.floor.toInt64 < n
  else false

def less : Numeral → Numeral → Bool
  | .int a, .int b => a < b
  | .float a, .float b => a < b
  | .int a, .float b => intBelow a b
  | .float a, .int b => floatBelow a b

def lessEqual (a b : Numeral) : Bool := less a b || equal a b

/-- Floats as text have fourteen significant digits and always show that they are floats. -/
def layout : Decimal.Layout := ⟨-4, 14, ".0", "e+", 2⟩

def floatText (x : Float) : String :=
  if x.isNaN then "-nan"
  else if x.isInf then Decimal.sign x ++ "inf"
  else Decimal.sign x ++ (Decimal.significant 14 x).render layout

def text : Numeral → String
  | .int n => toString n.toInt
  | .float x => floatText x

def hexDigits? (cs : List Char) : Option Nat :=
  if cs.isEmpty then none
  else cs.foldlM (fun n c => (Json.hexValue? c).map (n * 16 + ·)) 0

/-- A numeral without sign: hexadecimal integers wrap around, decimal ones too large for an integer
are floats. -/
def unsigned? (cs : List Char) : Option Numeral :=
  match cs with
  | '0' :: x :: rest =>
    if x == 'x' || x == 'X' then (hexDigits? rest).map fun n => .int (Int64.ofNat n)
    else decimal? cs
  | _ => decimal? cs
where
  decimal? (cs : List Char) : Option Numeral :=
    match (Text.natOfDigits? cs).map Int.ofNat with
    | some n =>
      if n ≤ Text.maxInt64 then some (.int (Int64.ofInt n))
      else some (.float (Decimal.nearest n.toNat 0))
    | none => (Decimal.unsigned? cs).map .float

def isSpace (c : Char) : Bool := c == ' ' || (9 ≤ c.toNat && c.toNat ≤ 13)

/-- Text that arithmetic takes for a number. -/
def ofText? (cs : List Char) : Option Numeral :=
  match Text.dropWhileEnd isSpace (cs.dropWhile isSpace) with
  | '-' :: rest => (unsigned? rest).map neg
  | '+' :: rest => unsigned? rest
  | cs => unsigned? cs

end Numeral

end QueryCatalog.Lua
