/-!
# Sets of code points

A set of characters is given by the ranges of their code points.
-/

namespace DatasetSearch.Text

/-- Whether a number lies in one of the ranges, ends included. -/
def inRanges (ranges : List (Nat × Nat)) (n : Nat) : Bool :=
  ranges.any (fun (low, high) => decide (low ≤ n) && decide (n ≤ high))

end DatasetSearch.Text
