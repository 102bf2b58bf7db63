/-!
Sets of code points given by inclusive ranges. Tables of character properties are lists of such
ranges.
-/

namespace ObjectStore.Text

def inRanges (ranges : List (Nat × Nat)) (n : Nat) : Bool :=
  ranges.any fun (low, high) => low ≤ n && n ≤ high

end ObjectStore.Text
