/-!
# Sets of characters as ranges
-/

namespace Phrasebook.Unicode

/-- A character lies in one of the ranges, ends included. -/
def inRanges (ranges : List (Nat × Nat)) (c : Char) : Bool :=
  ranges.any fun (low, high) => low ≤ c.toNat && c.toNat ≤ high

end Phrasebook.Unicode
