/-!
Sets of code points given as ranges.
-/

namespace TypedJson.Text

/-- Some range, both ends included, holds the code point. -/
def inRanges (ranges : List (Nat × Nat)) (code : Nat) : Bool :=
  ranges.any fun range => range.1 ≤ code && code ≤ range.2

end TypedJson.Text
