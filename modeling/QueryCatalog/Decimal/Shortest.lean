/-!
The fewest decimal digits that read back to a given float, found by exact arithmetic on the
rounding interval: the value lies at `mid`, and every real between `low` and `high` rounds to it.
-/
namespace QueryCatalog.Decimal

/-- A finite non-zero magnitude, `mantissa * 2 ^ exponent`. -/
structure Binary where
  mantissa : Nat
  exponent : Int

/-- `digits * 10 ^ exponent`, the digits without leading or trailing zeros. -/
structure Digits where
  digits : Nat
  exponent : Int
  deriving Repr

def isNegative (x : Float) : Bool := x.toBits >>> 63 == 1

/-- The magnitude of a finite float; zero has mantissa 0. -/
def Binary.ofFloat (x : Float) : Binary :=
  let bits : Nat := x.toBits.toNat
  let field : Nat := bits / Nat.pow 2 52 % 2048
  let fraction : Nat := bits % Nat.pow 2 52
  if field == 0 then ⟨fraction, -1074⟩ else ⟨fraction + Nat.pow 2 52, (field : Int) - 1075⟩

/-- The rounding interval in quarters of a unit in the last place; its ends belong to it when the
mantissa is even. -/
structure Interval where
  low : Nat
  mid : Nat
  high : Nat
  exponent : Int
  closed : Bool

def Binary.interval (b : Binary) : Interval :=
  let narrow := b.mantissa == Nat.pow 2 52 && b.exponent > -1074
  { low := 4 * b.mantissa - (if narrow then 1 else 2)
    mid := 4 * b.mantissa
    high := 4 * b.mantissa + 2
    exponent := b.exponent - 2
    closed := b.mantissa % 2 == 0 }

def countDigits (n : Nat) : Nat := (Nat.toDigits 10 n).length

/-- The exponent of the leading decimal digit of `num / den`, both positive. -/
def leadingExponent (num den : Nat) : Int :=
  if num ≥ den then (countDigits (num / den) : Int) - 1
  else
    let d := countDigits (den / num)
    if den == num * Nat.pow 10 (d - 1) then -((d : Int) - 1) else -(d : Int)

/-- `n * 10 ^ k` as a fraction. -/
def scaled (n : Nat) (k : Int) : Nat × Nat :=
  if k ≥ 0 then (n * Nat.pow 10 k.toNat, 1) else (n, Nat.pow 10 (-k).toNat)

def below (a b : Nat × Nat) : Bool := a.1 * b.2 < b.1 * a.2

/-- Whether `n * 10 ^ k` rounds to the value in the middle of the interval. -/
def Interval.admits (i : Interval) (n : Nat) (k : Int) : Bool :=
  let power := fun m : Nat => if i.exponent ≥ 0 then (m * Nat.pow 2 i.exponent.toNat, 1)
    else (m, Nat.pow 2 (-i.exponent).toNat)
  let x := scaled n k
  if i.closed then !below x (power i.low) && !below (power i.high) x
  else below (power i.low) x && below x (power i.high)

/-- Of the two neighbours on the grid of step `10 ^ k`, the one to take: it must lie in the
interval; of two that do the nearer is better, and of two equally near the even one. -/
def Interval.candidate? (i : Interval) (num den : Nat) (k : Int) : Option Nat :=
  let (gridNum, gridDen) := scaled 1 k
  let whole := num * gridDen / (den * gridNum)
  let rest := num * gridDen % (den * gridNum)
  let down := i.admits whole k
  let up := i.admits (whole + 1) k
  match down, up with
  | false, false => none
  | true, false => some whole
  | false, true => some (whole + 1)
  | true, true =>
    let half := den * gridNum
    some (if 2 * rest < half || (2 * rest == half && whole % 2 == 0) then whole else whole + 1)

def stripZeros : Nat → Digits → Digits
  | 0, d => d
  | fuel + 1, d =>
    if d.digits ≠ 0 && d.digits % 10 == 0 then stripZeros fuel ⟨d.digits / 10, d.exponent + 1⟩ else d

/-- Seventeen digits always suffice, so the search tries one grid after the other. -/
def Interval.search (i : Interval) (num den : Nat) (lead : Int) : List Nat → Digits
  | [] => ⟨num / den, 0⟩
  | n :: more =>
    let k := lead - n
    match i.candidate? num den k with
    | some digits => stripZeros 20 ⟨digits, k⟩
    | none => i.search num den lead more

/-- The shortest digits of a finite float's magnitude. -/
def shortest (x : Float) : Digits :=
  let b := Binary.ofFloat x
  if b.mantissa == 0 then ⟨0, 0⟩
  else
    let i := b.interval
    let (num, den) := if i.exponent ≥ 0 then (i.mid * Nat.pow 2 i.exponent.toNat, 1)
      else (i.mid, Nat.pow 2 (-i.exponent).toNat)
    i.search num den (leadingExponent num den) (List.range 17)

end QueryCatalog.Decimal
