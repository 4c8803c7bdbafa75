/-!
# Ranges of code points

A property of characters is given as a list of closed ranges of code points.
-/

namespace RecordRelay.Text

/-- Whether a code point lies in one of the closed ranges. -/
def inRanges (n : Nat) (ranges : List (Nat × Nat)) : Bool :=
  ranges.any fun (low, high) => low ≤ n && n ≤ high

end RecordRelay.Text
