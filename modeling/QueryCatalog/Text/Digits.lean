/-!
Whole numbers in text: ASCII digits with an optional sign, leading zeros allowed.
-/
namespace QueryCatalog.Text

def digitValue (c : Char) : Nat := c.toNat - '0'.toNat

def digitsValue (digits : List Char) : Nat :=
  digits.foldl (fun n c => n * 10 + digitValue c) 0

/-- The value of a non-empty run of digits. -/
def natOfDigits? (cs : List Char) : Option Nat :=
  if cs.isEmpty || !cs.all Char.isDigit then none else some (digitsValue cs)

/-- An unsigned number below `bound`; one plus sign may precede it. -/
def natBelow? (bound : Nat) (cs : List Char) : Option Nat :=
  let digits := match cs with
    | '+' :: rest => rest
    | _ => cs
  (natOfDigits? digits).filter (· < bound)

def maxInt64 : Int := 9223372036854775807

def minInt64 : Int := -9223372036854775808

def wordBound : Nat := 18446744073709551616

/-- A signed number of 64 bits. -/
def int64? (cs : List Char) : Option Int :=
  match cs with
  | '-' :: rest => ((natOfDigits? rest).map fun n => -(n : Int)).filter (minInt64 ≤ ·)
  | '+' :: rest => ((natOfDigits? rest).map Int.ofNat).filter (· ≤ maxInt64)
  | _ => ((natOfDigits? cs).map Int.ofNat).filter (· ≤ maxInt64)

/-- An unsigned number of 64 bits. -/
def word? (cs : List Char) : Option Nat := natBelow? wordBound cs

end QueryCatalog.Text
