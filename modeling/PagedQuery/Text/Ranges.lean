/-
# Sets of characters as ranges

A property of characters is kept as the closed ranges of code points that have
it, in ascending order.
-/

namespace PagedQuery
namespace Text

/-- Whether a code point lies in one of the closed ranges. -/
def inRanges (ranges : List (Nat × Nat)) (code : Nat) : Bool :=
  ranges.any fun range => range.1 ≤ code && code ≤ range.2

end Text
end PagedQuery
