import QueryCatalog.Decimal.Shortest

/-!
How decimal digits are laid out: by position, or with an exponent.
-/
namespace QueryCatalog.Decimal

def zeros (n : Nat) : String := String.ofList (List.replicate n '0')

/-- The exponent of the first digit. -/
def Digits.lead (d : Digits) : Int := (countDigits d.digits : Int) - 1 + d.exponent

/-- The decisions of a float format. -/
structure Layout where
  /-- Positional notation begins at this exponent of the first digit, -/
  low : Int
  /-- and ends before this one. -/
  high : Int
  /-- What follows a value without fraction in positional notation. -/
  whole : String
  /-- The mark of an exponent that is not negative. -/
  mark : String
  /-- The least number of digits of an exponent. -/
  width : Nat
  deriving Repr

/-- Digits around a decimal point. -/
def Digits.positional (d : Digits) (whole : String) : String :=
  let digits := toString d.digits
  if d.exponent ≥ 0 then
    (if d.digits == 0 then digits else digits ++ zeros d.exponent.toNat) ++ whole
  else
    let places := (-d.exponent).toNat
    if digits.length > places then
      String.ofList (digits.toList.take (digits.length - places)) ++ "." ++
        String.ofList (digits.toList.drop (digits.length - places))
    else "0." ++ zeros (places - digits.length) ++ digits

/-- One digit before the point, then the exponent. -/
def Digits.scientific (d : Digits) (layout : Layout) : String :=
  let digits := (toString d.digits).toList
  let fraction := digits.drop 1
  let mantissa := String.ofList (digits.take 1) ++
    (if fraction.isEmpty then "" else "." ++ String.ofList fraction)
  let e := toString d.lead.natAbs
  mantissa ++ (if d.lead < 0 then "e-" else layout.mark) ++ zeros (layout.width - e.length) ++ e

def Digits.render (d : Digits) (layout : Layout) : String :=
  if d.digits == 0 || (layout.low ≤ d.lead && d.lead < layout.high) then
    d.positional layout.whole
  else d.scientific layout

def sign (x : Float) : String := if isNegative x then "-" else ""

/-- A finite float by its shortest digits. -/
def render (x : Float) (layout : Layout) : String := sign x ++ (shortest x).render layout

/-- A finite float by its shortest digits, never with an exponent. -/
def renderPlain (x : Float) : String := sign x ++ (shortest x).positional ""

end QueryCatalog.Decimal
