/-!
# Sets of characters as ranges

The character properties of the Unicode standard are written down as lists of ranges of code points.
-/

set_option autoImplicit false

namespace Shroud.Text

/-- The character lies in one of the ranges, ends included. -/
def inRanges (ranges : List (Nat × Nat)) (c : Char) : Bool :=
  ranges.any fun r ↦ r.1 ≤ c.toNat && c.toNat ≤ r.2

end Shroud.Text
