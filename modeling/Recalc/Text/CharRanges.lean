/-!
# Classes of characters

A class is written as the ascending list of its ranges of code points.
-/

namespace Recalc.Text

/-- Ranges of code points, both ends included, in ascending order. -/
abbrev CharRanges := List (Nat × Nat)

/-- Whether some range holds the code point. The search ends at the first range above it. -/
def CharRanges.containsCode : CharRanges → Nat → Bool
  | [], _ => false
  | (low, high) :: rest, n =>
    if n < low then false else n ≤ high || CharRanges.containsCode rest n

def CharRanges.contains (r : CharRanges) (c : Char) : Bool :=
  r.containsCode c.toNat

end Recalc.Text
