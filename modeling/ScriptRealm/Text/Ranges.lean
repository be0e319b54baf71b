/-!
# Character ranges

Sets of characters as ascending lists of ranges of code points.
-/

namespace ScriptRealm.Text

/-- Whether a code point lies in one of the ranges, which ascend; both ends of a range count. -/
def inRanges (n : Nat) : List (Nat × Nat) → Bool
  | [] => false
  | (first, last) :: r => if n < first then false else n ≤ last || inRanges n r

end ScriptRealm.Text
