/-!
# Tables of code points

A Unicode property is written down as the ascending list of its ranges, both ends included. Ranges
do not overlap, so the search may stop at the first range that begins behind the code point.
-/

namespace PackageGate.Text

/-- Whether a code point lies in one of the ranges of an ascending table. -/
def inRanges : List (Nat × Nat) → Nat → Bool
  | [], _ => false
  | (lo, hi) :: rest, n => if n < lo then false else n ≤ hi || inRanges rest n

end PackageGate.Text
