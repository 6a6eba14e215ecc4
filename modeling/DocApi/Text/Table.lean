/-!
# Tables of character codes

Properties of characters are kept as sorted lists of inclusive code ranges.
-/

namespace DocApi

/-- Inclusive ranges of character codes. -/
abbrev CodeRanges := List (Nat × Nat)

/-- Whether the code of `c` lies in one of the ranges. -/
def CodeRanges.has (ranges : CodeRanges) (c : Char) : Bool :=
  ranges.any fun (first, last) => first ≤ c.toNat && c.toNat ≤ last

end DocApi
