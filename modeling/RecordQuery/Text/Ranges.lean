/-!
# Tables of code points

A property of characters is a list of closed ranges of code points in increasing order.
-/

namespace RecordQuery.Text

abbrev Ranges := List (Nat × Nat)

def Ranges.has (table : Ranges) (c : Char) : Bool :=
  table.any fun (low, high) => low ≤ c.toNat && c.toNat ≤ high

end RecordQuery.Text
