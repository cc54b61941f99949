/-!
# Ranges of code points

A class of characters is kept as the ranges of its code points, in increasing order, both ends included. A code
point is looked for by halving.
-/

namespace BuildOrder.Text

/-- Look for a code point in `n` ordered ranges from index `i` on, halving them each time. -/
def inRangesFrom (ranges : Array (Nat × Nat)) (c : Nat) : Nat → Nat → Nat → Bool
  | 0, _, _ => false
  | fuel + 1, i, n =>
    if n = 0 then false
    else
      let middle := i + n / 2
      match ranges[middle]? with
      | none => false
      | some (first, last) =>
        if c < first then inRangesFrom ranges c fuel i (n / 2)
        else if last < c then inRangesFrom ranges c fuel (middle + 1) (n - n / 2 - 1)
        else true

def inRanges (ranges : Array (Nat × Nat)) (c : Nat) : Bool := inRangesFrom ranges c ranges.size 0 ranges.size

end BuildOrder.Text
