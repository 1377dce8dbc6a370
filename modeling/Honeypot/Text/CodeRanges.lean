namespace Honeypot

/-- Disjoint ranges of code points, first and last, in increasing order. -/
structure CodeRanges where
  ranges : Array (Nat × Nat)

namespace CodeRanges

/-- Look for a code point among the ranges from `first` on and before `last`, halving what is left
at each step. -/
def search (table : CodeRanges) (code : Nat) : Nat → Nat → Nat → Bool
  | 0, _, _ => false
  | steps + 1, first, last =>
      if last ≤ first then false
      else
        let middle := (first + last) / 2
        match table.ranges[middle]? with
        | none => false
        | some (low, high) =>
            if code < low then search table code steps first middle
            else if high < code then search table code steps (middle + 1) last
            else true

def contains (table : CodeRanges) (c : Char) : Bool :=
  table.search c.toNat (table.ranges.size.log2 + 1) 0 table.ranges.size

end CodeRanges

end Honeypot
