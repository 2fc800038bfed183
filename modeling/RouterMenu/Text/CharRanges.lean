/-!
# Sets of characters given by ranges

A property of characters that a standard fixes is written down as the ascending list of its
ranges of code points. Ascending is what makes bisection right: once the first bound of the
middle range lies above the code point, no later range can hold it.
-/

namespace RouterMenu.Text

/-- Disjoint ranges of code points, both ends included, in ascending order. -/
structure CharRanges where
  ranges : Array (Nat × Nat)

namespace CharRanges

/-- Searches the ranges from `lo` up to, but not including, `hi`. -/
def bisect (ranges : Array (Nat × Nat)) (n : Nat) (lo hi : Nat) : Bool :=
  if lo < hi then
    let mid := (lo + hi) / 2
    match ranges[mid]? with
    | none => false
    | some (first, last) =>
      if n < first then bisect ranges n lo mid
      else if last < n then bisect ranges n (mid + 1) hi
      else true
  else false
termination_by hi - lo

/-- Whether one of the ranges holds the character. -/
def contains (t : CharRanges) (c : Char) : Bool :=
  bisect t.ranges c.toNat 0 t.ranges.size

end CharRanges

end RouterMenu.Text
