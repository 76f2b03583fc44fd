/-!
# Ranges of characters

A class of characters is a list of ranges of code points.

- `inRanges`: whether a code point lies in a class.
-/

namespace ScriptHost

/-- Whether a code point lies in one of the ranges. -/
def inRanges (ranges : List (Nat × Nat)) (n : Nat) : Bool :=
  ranges.any fun (lo, hi) => lo ≤ n && n ≤ hi

end ScriptHost
