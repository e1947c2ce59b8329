/-!
# Ranges of code points

A property of characters is written down as the list of the code-point ranges in which it
holds. `CodeRange.covers` is the look-up in such a list.
-/

namespace StoreAccess.Text

/-- The code points from `first` to `last`, both included. -/
structure CodeRange where
  first : Nat
  last : Nat
  deriving DecidableEq, Repr

namespace CodeRange

def holds (r : CodeRange) (c : Char) : Bool :=
  r.first ≤ c.toNat && c.toNat ≤ r.last

def covers (table : List CodeRange) (c : Char) : Bool :=
  table.any (·.holds c)

end CodeRange

end StoreAccess.Text
