/-!
Sets of characters given as ascending, disjoint ranges of code points.
-/

namespace LineCursor.Text

/-- Whether `n` lies in one of the closed ranges. -/
def inRanges (ranges : List (Nat × Nat)) (n : Nat) : Bool :=
  ranges.any fun r => r.1 ≤ n && n ≤ r.2

end LineCursor.Text
