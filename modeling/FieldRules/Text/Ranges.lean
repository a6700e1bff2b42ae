/-!
# Ranges of code points

A character property is a list of closed ranges of code points, ascending and apart.
-/

namespace FieldRules.Text

def inRanges (ranges : List (Nat × Nat)) (n : Nat) : Bool :=
  ranges.any fun range => range.1 ≤ n && n ≤ range.2

end FieldRules.Text
