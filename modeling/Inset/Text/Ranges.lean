/-!
# Ranges of code points

Properties of characters are tabled as lists of ranges.
-/

namespace Inset.Text

/-- A code point lies in one of the listed ranges, bounds included. -/
def inRanges (ranges : List (Nat × Nat)) (code : Nat) : Bool :=
  ranges.any fun range => range.1 ≤ code && code ≤ range.2

end Inset.Text
