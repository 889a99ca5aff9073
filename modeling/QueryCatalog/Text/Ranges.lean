/-!
Sets of characters as lists of closed code point ranges, the form in which the tables of
character properties are kept.
-/
namespace QueryCatalog.Text

abbrev Ranges := List (Nat × Nat)

def Ranges.has (ranges : Ranges) (c : Char) : Bool :=
  ranges.any fun r => r.1 ≤ c.toNat && c.toNat ≤ r.2

end QueryCatalog.Text
