import QueryCatalog.Decimal.Notation

/-!
Floats rounded to a fixed number of significant digits. The value is compared exactly, and a tie
goes to the even digit.
-/
namespace QueryCatalog.Decimal

/-- The quotient rounded to nearest. -/
def roundDiv (num den : Nat) : Nat :=
  let whole := num / den
  let rest := num % den
  if 2 * rest < den || (2 * rest == den && whole % 2 == 0) then whole else whole + 1

/-- A finite magnitude to `places` significant digits, without trailing zeros. -/
def significant (places : Nat) (x : Float) : Digits :=
  let b := Binary.ofFloat x
  if b.mantissa == 0 then ⟨0, 0⟩
  else
    let (num, den) := if b.exponent ≥ 0 then (b.mantissa * Nat.pow 2 b.exponent.toNat, 1)
      else (b.mantissa, Nat.pow 2 (-b.exponent).toNat)
    let k := leadingExponent num den - places + 1
    let (gridNum, gridDen) := scaled 1 k
    stripZeros (places + 2) ⟨roundDiv (num * gridDen) (den * gridNum), k⟩

end QueryCatalog.Decimal
