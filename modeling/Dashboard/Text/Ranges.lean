/-! # Ranges of characters -/

namespace Dashboard.Text

/-- Whether the code of a character lies in one of the ranges, ends included. -/
def inRanges (ranges : List (Nat × Nat)) (c : Char) : Bool :=
  ranges.any fun range => range.1 ≤ c.toNat && c.toNat ≤ range.2

end Dashboard.Text
