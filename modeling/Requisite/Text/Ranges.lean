/-!
# Ranges of code points
-/

namespace Requisite.Text

def inRanges (ranges : List (Nat × Nat)) (code : Nat) : Bool :=
  ranges.any fun r => r.1 ≤ code && code ≤ r.2

end Requisite.Text
