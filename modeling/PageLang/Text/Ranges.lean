/-!
# Ranges of code points

A character class of Unicode is given here by the closed ranges of code points it consists of, in
increasing order.
-/

namespace PageLang.Text

/-- Whether the code point of `c` lies in one of the closed ranges. -/
def inRanges (ranges : List (Nat × Nat)) (c : Char) : Bool :=
  ranges.any fun r => r.1 ≤ c.toNat && c.toNat ≤ r.2

end PageLang.Text
