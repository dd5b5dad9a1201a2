/-!
# Sets of code points

A set of characters given as a table of closed ranges of code points, in ascending order: the form
in which the Unicode character database lists its properties.
-/

namespace ReleaseMatrix.Text

/-- Whether the code point lies in one of the ranges, which ascend; the search ends at the first
range that begins behind the code point. -/
def inRanges : List (Nat × Nat) → Nat → Bool
  | [], _ => false
  | (low, high) :: ranges, n => if n < low then false else n ≤ high || inRanges ranges n

end ReleaseMatrix.Text
