/-!
# Sets of characters as sorted ranges

A property of characters is kept as an ascending list of closed code-point ranges
(`CharRanges`). `CharRanges.contains` walks the list and stops at the first range that starts
after the character, which is sound because the ranges ascend.
-/

namespace ChatFlow

/-- An ascending list of closed ranges of code points. -/
abbrev CharRanges := List (Nat × Nat)

/-- Whether the character lies in one of the ranges. -/
def CharRanges.contains : CharRanges → Char → Bool
  | [], _ => false
  | (first, last) :: rest, c =>
    if c.toNat < first then false
    else if c.toNat ≤ last then true
    else CharRanges.contains rest c

end ChatFlow
