-- Sets of characters as sorted lists of closed code point ranges. A
-- search stops at the first range that starts above the code point, so
-- the common low characters cost one step.

namespace ProtoRefresh.Text

/-- Closed ranges of code points, in rising order. -/
abbrev CodeRanges := List (Nat × Nat)

namespace CodeRanges

/-- Whether a code point lies in one of the ranges. -/
def has : CodeRanges → Nat → Bool
  | [], _ => false
  | (low, high) :: rest, code =>
    if code < low then false else if code ≤ high then true else has rest code

/-- Whether a character lies in one of the ranges. -/
def hasChar (ranges : CodeRanges) (c : Char) : Bool := ranges.has c.toNat

end CodeRanges

end ProtoRefresh.Text
