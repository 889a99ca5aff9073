import QueryCatalog.Json.Value
import QueryCatalog.Decimal.Reading

/-!
Reading documents. Arrays and objects nest at most 127 deep. The fields of an object are first
kept as they are written, repetitions included; `Json.settle` lets the last writing of a name win.
-/
namespace QueryCatalog.Json

abbrev Reader (α : Type) := List Char → Option (α × List Char)

def isSpace (c : Char) : Bool := c == ' ' || c == '\t' || c == '\n' || c == '\r'

def skipSpace (cs : List Char) : List Char := cs.dropWhile isSpace

def hexValue? (c : Char) : Option Nat :=
  if c.isDigit then some (c.toNat - 48)
  else if 'a' ≤ c ∧ c ≤ 'f' then some (c.toNat - 87)
  else if 'A' ≤ c ∧ c ≤ 'F' then some (c.toNat - 55)
  else none

def hexUnit? (a b c d : Char) : Option Nat := do
  let a ← hexValue? a
  let b ← hexValue? b
  let c ← hexValue? c
  let d ← hexValue? d
  return ((a * 16 + b) * 16 + c) * 16 + d

def shortEscape? : Char → Option Char
  | '"' => some '"'
  | '\\' => some '\\'
  | '/' => some '/'
  | 'b' => some (Char.ofNat 8)
  | 'f' => some (Char.ofNat 12)
  | 'n' => some '\n'
  | 'r' => some '\r'
  | 't' => some '\t'
  | _ => none

def isHighSurrogate (n : Nat) : Bool := 0xD800 ≤ n && n < 0xDC00

def isLowSurrogate (n : Nat) : Bool := 0xDC00 ≤ n && n < 0xE000

/-- The rest of a string after its opening quote. Surrogates are escaped in pairs. -/
def readText (acc : List Char) : Reader String
  | '"' :: rest => some (String.ofList acc.reverse, rest)
  | '\\' :: 'u' :: a :: b :: c :: d :: rest =>
    match hexUnit? a b c d with
    | none => none
    | some unit =>
      if isHighSurrogate unit then
        match rest with
        | '\\' :: 'u' :: a :: b :: c :: d :: rest =>
          match hexUnit? a b c d with
          | some low =>
            if isLowSurrogate low then
              readText (Char.ofNat (0x10000 + (unit - 0xD800) * 0x400 + (low - 0xDC00)) :: acc) rest
            else none
          | none => none
        | _ => none
      else if isLowSurrogate unit then none
      else readText (Char.ofNat unit :: acc) rest
  | '\\' :: c :: rest =>
    match shortEscape? c with
    | some e => readText (e :: acc) rest
    | none => none
  | c :: rest => if c.toNat < 0x20 || c == '\\' then none else readText (c :: acc) rest
  | [] => none

/-- The digits of a literal as far as they fit 64 bits, with the power of ten that is left. -/
structure Significand where
  digits : Nat
  exponent : Int
  full : Bool

def Significand.push (fraction : Bool) (s : Significand) (d : Char) : Significand :=
  let next := s.digits * 10 + Text.digitValue d
  if s.full || next ≥ Text.wordBound then
    { s with exponent := if fraction then s.exponent else s.exponent + 1, full := true }
  else { s with digits := next, exponent := if fraction then s.exponent - 1 else s.exponent }

def Significand.whole (digits : List Char) : Significand :=
  digits.foldl (Significand.push false) { digits := 0, exponent := 0, full := false }

def Significand.withFraction (s : Significand) (digits : List Char) : Significand :=
  digits.foldl (Significand.push true) { s with full := false }

def tenTo (n : Nat) : Float := Float.ofScientific 1 false n

/-- The value of a literal: its digits as a float, times or over a power of ten. A literal beyond
the largest float has none. -/
def literalFloat? : Nat → Float → Int → Option Float
  | 0, x, _ => some x
  | fuel + 1, x, exponent =>
    if exponent.natAbs ≤ 308 then
      if exponent ≥ 0 then
        let y := x * tenTo exponent.natAbs
        if y.isFinite then some y else none
      else some (x / tenTo exponent.natAbs)
    else if x == 0.0 then some x
    else if exponent ≥ 0 then none
    else literalFloat? fuel (x / tenTo 308) (exponent + 308)

/-- Exponents are counted in 32 bits. -/
def exponentBound : Int := 2147483647

def Significand.float? (s : Significand) (negative : Bool) (exponent : Int) : Option Number :=
  let total := s.exponent + exponent
  let value :=
    if exponent > exponentBound then (if s.digits == 0 then some 0.0 else none)
    else if exponent < -exponentBound then some 0.0
    else literalFloat? 16 (Float.ofNat s.digits) total
  value.map fun x => .float (Decimal.negateIf negative x)

def Significand.integer? (s : Significand) (negative : Bool) : Option Number :=
  if s.full then s.float? negative 0
  else if !negative then some (.int s.digits)
  else if s.digits == 0 || s.digits > 9223372036854775808 then
    some (.float (-(Float.ofNat s.digits)))
  else some (.int (-(s.digits : Int)))

/-- The exponent of a literal after its mark. -/
def readExponent (cs : List Char) : Option (Int × List Char) :=
  let (minus, cs) := match cs with
    | '+' :: more => (false, more)
    | '-' :: more => (true, more)
    | _ => (false, cs)
  let digits := cs.takeWhile Char.isDigit
  if digits.isEmpty then none
  else
    let e : Int := Text.digitsValue digits
    some (if minus then -e else e, cs.dropWhile Char.isDigit)

/-- What may follow the digits of a literal: an exponent, or nothing, where `plain` is its value. -/
def readTail (negative : Bool) (s : Significand) (plain : Option Number) (cs : List Char) :
    Option (Number × List Char) :=
  match cs with
  | mark :: more =>
    if mark == 'e' || mark == 'E' then
      match readExponent more with
      | some (e, rest) => (s.float? negative e).map (·, rest)
      | none => none
    else plain.map (·, cs)
  | [] => plain.map (·, [])

/-- A number after its sign. -/
def readMagnitude (negative : Bool) (cs : List Char) : Option (Number × List Char) :=
  let digits := cs.takeWhile Char.isDigit
  let rest := cs.dropWhile Char.isDigit
  if digits.isEmpty || (digits.head? == some '0' && digits.length > 1) then none
  else
    let s := Significand.whole digits
    match rest with
    | '.' :: more =>
      let fraction := more.takeWhile Char.isDigit
      if fraction.isEmpty then none
      else
        let s := s.withFraction fraction
        readTail negative s (s.float? negative 0) (more.dropWhile Char.isDigit)
    | _ => readTail negative s (s.integer? negative) rest

def readWord (word : String) (value : Json) (cs : List Char) : Option (Json × List Char) :=
  if word.toList.isPrefixOf cs then some (value, cs.drop word.length) else none

mutual

/-- A value of at most the given depth; every call takes one unit of fuel. -/
def readValue (depth : Nat) : Nat → Reader Json
  | 0, _ => none
  | fuel + 1, cs =>
    match skipSpace cs with
    | 'n' :: rest => readWord "ull" .null rest
    | 't' :: rest => readWord "rue" (.bool true) rest
    | 'f' :: rest => readWord "alse" (.bool false) rest
    | '"' :: rest => (readText [] rest).map fun (s, rest) => (.str s, rest)
    | '-' :: rest => (readMagnitude true rest).map fun (n, rest) => (.num n, rest)
    | '[' :: rest =>
      if depth ≤ 1 then none
      else match skipSpace rest with
        | ']' :: rest => some (.arr [], rest)
        | rest => (readItems (depth - 1) fuel rest).map fun (items, rest) => (.arr items, rest)
    | '{' :: rest =>
      if depth ≤ 1 then none
      else match skipSpace rest with
        | '}' :: rest => some (.obj [], rest)
        | rest => (readFields (depth - 1) fuel rest).map fun (fields, rest) => (.obj fields, rest)
    | rest => (readMagnitude false rest).map fun (n, rest) => (.num n, rest)

def readItems (depth : Nat) : Nat → Reader (List Json)
  | 0, _ => none
  | fuel + 1, cs =>
    match readValue depth fuel cs with
    | none => none
    | some (value, rest) =>
      match skipSpace rest with
      | ',' :: rest => (readItems depth fuel rest).map fun (more, rest) => (value :: more, rest)
      | ']' :: rest => some ([value], rest)
      | _ => none

def readFields (depth : Nat) : Nat → Reader (List (String × Json))
  | 0, _ => none
  | fuel + 1, cs =>
    match skipSpace cs with
    | '"' :: rest =>
      match readText [] rest with
      | none => none
      | some (key, rest) =>
        match skipSpace rest with
        | ':' :: rest =>
          match readValue depth fuel rest with
          | none => none
          | some (value, rest) =>
            match skipSpace rest with
            | ',' :: rest =>
              (readFields depth fuel rest).map fun (more, rest) => ((key, value) :: more, rest)
            | '}' :: rest => some ([(key, value)], rest)
            | _ => none
        | _ => none
    | _ => none

end

/-- The whole text as one document, fields as written. -/
def readRaw? (text : String) : Option Json :=
  let cs := text.toList
  match readValue 128 (cs.length + 1) cs with
  | some (value, rest) => if (skipSpace rest).isEmpty then some value else none
  | none => none

mutual

/-- Where a name is written twice in an object, the last value stands at the first place. Floats
that no document can hold become null. -/
def settle : Json → Json
  | .null => .null
  | .bool b => .bool b
  | .num (.int n) => .num (.int n)
  | .num (.float x) => if x.isFinite then .num (.float x) else .null
  | .str s => .str s
  | .arr items => .arr (settleItems items)
  | .obj fields => .obj (Row.ofList (settleFields fields))

def settleItems : List Json → List Json
  | [] => []
  | v :: rest => settle v :: settleItems rest

def settleFields : List (String × Json) → List (String × Json)
  | [] => []
  | (k, v) :: rest => (k, settle v) :: settleFields rest

end

def parse? (text : String) : Option Json := (readRaw? text).map settle

end QueryCatalog.Json
