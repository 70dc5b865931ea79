/-! # Sets of code points by their boundaries

A property of characters is a finite union of runs of code points. It is kept as the
increasing list of the places where membership flips, so a code point belongs to the set
when an odd number of boundaries lie at or below it, and bisection finds that number.
-/
namespace JavaLex.Unicode

structure RangeTable where
  boundaries : Array Nat

namespace RangeTable

/-- Bisection, in so many steps, for the number of boundaries at or below `n`, known to lie between
`lo` and `hi`. -/
def rankBetween (b : Array Nat) (n : Nat) : Nat → Nat → Nat → Nat
  | 0, lo, _ => lo
  | steps + 1, lo, hi =>
    if lo < hi then
      if b.getD ((lo + hi) / 2) 0 ≤ n then rankBetween b n steps ((lo + hi) / 2 + 1) hi
      else rankBetween b n steps lo ((lo + hi) / 2)
    else lo

/-- Each step halves the gap, so a table never needs more steps than it has boundaries. -/
def rank (t : RangeTable) (n : Nat) : Nat :=
  rankBetween t.boundaries n t.boundaries.size 0 t.boundaries.size

def contains (t : RangeTable) (c : Char) : Bool :=
  t.rank c.toNat % 2 == 1

end RangeTable
end JavaLex.Unicode
