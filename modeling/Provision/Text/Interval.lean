/-!
# Sets of characters given by their ends

A property of characters is stored as the increasing list of the code points at which it changes:
it fails from `0` on, holds from the first entry on, fails from the second on, and so forth.

* `Turns.holds`: whether the property holds at a code point.
-/

namespace Provision.Text

/-- The code points at which a property changes, in increasing order. -/
abbrev Turns := Array Nat

namespace Turns

/-- How many entries of `turns` between `lo` and `hi` are at most `n`, by halving. -/
def countUpTo (turns : Turns) (n : Nat) (lo hi : Nat) : Nat :=
  if _ : lo < hi then
    let mid := (lo + hi) / 2
    if turns.getD mid 0 ≤ n then countUpTo turns n (mid + 1) hi else countUpTo turns n lo mid
  else lo
termination_by hi - lo

/-- The property holds at `c` when an odd number of changes lie at or below it. -/
def holds (turns : Turns) (c : Char) : Bool := countUpTo turns c.toNat 0 turns.size % 2 == 1

end Turns

end Provision.Text
