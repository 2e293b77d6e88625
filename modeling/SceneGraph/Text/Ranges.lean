/-!
# Character classes as ranges

A class of characters is a list of closed code point ranges in ascending order, so a search
may stop at the first range that starts too late.
-/

namespace SceneGraph.Text

/-- Closed ranges of code points, in ascending order. -/
abbrev Ranges := List (Nat × Nat)

namespace Ranges

/-- Whether `n` lies in one of the ranges. -/
def contains : Ranges → Nat → Bool
  | [], _ => false
  | (lo, hi) :: rest, n => if n < lo then false else n ≤ hi || contains rest n

/-- The character's code point lies in one of the ranges. -/
def has (rs : Ranges) (c : Char) : Bool := rs.contains c.toNat

end Ranges

end SceneGraph.Text
