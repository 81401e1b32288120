/-!
# Sets of code points

A set of characters is a list of closed ranges of code points in ascending order.
-/

namespace PredicateSql.Text

/-- Membership in ascending ranges: the search ends at the first range that starts beyond `n`. -/
def inRanges (n : Nat) : List (Nat × Nat) → Bool
  | [] => false
  | (lo, hi) :: rest => lo ≤ n && (n ≤ hi || inRanges n rest)

end PredicateSql.Text
