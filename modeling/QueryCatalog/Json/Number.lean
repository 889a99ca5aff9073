import QueryCatalog.Decimal.Notation
import QueryCatalog.Text.Digits

/-!
Numbers as documents hold them: an integer or a float, and the two kinds stay apart.
-/
namespace QueryCatalog

inductive Number where
  | int (value : Int)
  | float (value : Float)

namespace Number

/-- Integer and float are never the same number, even at the same value. -/
def same : Number → Number → Bool
  | .int a, .int b => a == b
  | .float a, .float b => a == b
  | _, _ => false

instance : BEq Number := ⟨same⟩

def toFloat : Number → Float
  | .int n => Float.ofInt n
  | .float x => x

def int64? : Number → Option Int
  | .int n => if Text.minInt64 ≤ n ∧ n ≤ Text.maxInt64 then some n else none
  | .float _ => none

def word? : Number → Option Nat
  | .int n => if 0 ≤ n ∧ n.toNat < Text.wordBound then some n.toNat else none
  | .float _ => none

/-- A float, or zero where there is none to hold. -/
def ofFloat (x : Float) : Number := if x.isFinite then .float x else .int 0

/-- Floats are positional from the fifth decimal place up to sixteen digits, and always show that
they are floats. -/
def layout : Decimal.Layout := ⟨-5, 16, ".0", "e+", 1⟩

def render : Number → String
  | .int n => toString n
  | .float x => Decimal.render x layout

end Number

end QueryCatalog
