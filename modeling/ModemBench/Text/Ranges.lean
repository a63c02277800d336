/-!
Classes of characters as ranges of code points, both ends included.
-/

namespace ModemBench.Text

def inRanges (ranges : Array (Nat × Nat)) (n : Nat) : Bool :=
  ranges.any fun (low, high) => low ≤ n && n ≤ high

end ModemBench.Text
