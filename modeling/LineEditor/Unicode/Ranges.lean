/-!
# Ranges of code points

A character property is given by the ascending ranges of code points that have it.  `contains`
is the one question asked of such a table.
-/

namespace LineEditor.Unicode

/-- Ranges of code points, each with its first and its last one, in ascending order. -/
abbrev Ranges := List (Nat × Nat)

namespace Ranges

/-- Whether the code point `n` lies in one of the ranges.  The search ends at the first range
that begins after `n`. -/
def containsCode : Ranges → Nat → Bool
  | [], _ => false
  | (first, last) :: rest, n =>
    if n < first then false else if n ≤ last then true else containsCode rest n

/-- Whether the character `c` lies in one of the ranges. -/
def contains (ranges : Ranges) (c : Char) : Bool :=
  ranges.containsCode c.toNat

end Ranges

end LineEditor.Unicode
