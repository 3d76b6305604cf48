/-!
# Ranges of code points

A class of characters is written as the list of its ranges of code points, in
ascending order; `inRanges` looks a character up in such a list.
-/

namespace RingOperator.Text

/-- Whether the code point of `c` lies in one of the ranges, whose ends belong to them. -/
def inRanges (ranges : List (Nat × Nat)) (c : Char) : Bool :=
  ranges.any fun range => range.1 ≤ c.toNat && c.toNat ≤ range.2

end RingOperator.Text
