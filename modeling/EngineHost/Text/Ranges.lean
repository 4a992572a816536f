/-!
# Ranges of code points

The tables of character properties are lists of inclusive ranges.
-/

namespace EngineHost.Text

/-- Is `n` in one of the ranges, ends included? -/
def inRanges (ranges : List (Nat × Nat)) (n : Nat) : Bool :=
  ranges.any fun r => r.1 ≤ n && n ≤ r.2

end EngineHost.Text
