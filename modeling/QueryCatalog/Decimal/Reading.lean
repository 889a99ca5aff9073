import QueryCatalog.Text.Digits

/-!
Decimal text to the nearest float. Exponents far outside the range of floats are answered without
computing the power.
-/
namespace QueryCatalog.Decimal

def infinity : Float := 1.0 / 0.0

/-- `digits * 10 ^ exponent`, rounded to nearest. -/
def nearest (digits : Nat) (exponent : Int) : Float :=
  if digits == 0 then 0.0
  else
    let lead := (Nat.toDigits 10 digits).length + exponent
    if lead > 400 then infinity
    else if lead < -400 then 0.0
    else Float.ofScientific digits (exponent < 0) exponent.natAbs

def negateIf (negative : Bool) (x : Float) : Float := if negative then -x else x

/-- The digits of an exponent after its mark, with an optional sign. -/
def exponent? (cs : List Char) : Option Int :=
  match cs with
  | '-' :: rest => (Text.natOfDigits? rest).map fun n => -(n : Int)
  | '+' :: rest => (Text.natOfDigits? rest).map Int.ofNat
  | _ => (Text.natOfDigits? cs).map Int.ofNat

/-- The digits of a decimal without a sign, and the power of ten that they count. -/
def numeral? (cs : List Char) : Option (Nat × Int) :=
  let whole := cs.takeWhile Char.isDigit
  let rest := cs.dropWhile Char.isDigit
  let (fraction, rest) := match rest with
    | '.' :: more => (more.takeWhile Char.isDigit, more.dropWhile Char.isDigit)
    | _ => ([], rest)
  if whole.isEmpty && fraction.isEmpty then none
  else
    let digits := Text.digitsValue (whole ++ fraction)
    let places : Int := fraction.length
    match rest with
    | [] => some (digits, -places)
    | mark :: more =>
      if mark == 'e' || mark == 'E' then
        (exponent? more).map fun e => (digits, e - places)
      else none

def unsigned? (cs : List Char) : Option Float :=
  (numeral? cs).map fun (digits, exponent) => nearest digits exponent

def infinityWords : List String := ["inf", "infinity"]

/-- A signed decimal; a point may stand first or last, and `inf`, `infinity` and `nan` are read in
any case. -/
def float? (cs : List Char) : Option Float :=
  let (negative, body) := match cs with
    | '-' :: rest => (true, rest)
    | '+' :: rest => (false, rest)
    | _ => (false, cs)
  let word := String.ofList (body.map Char.toLower)
  if infinityWords.contains word then some (negateIf negative infinity)
  else if word == "nan" then some (0.0 / 0.0)
  else (unsigned? body).map (negateIf negative)

end QueryCatalog.Decimal
