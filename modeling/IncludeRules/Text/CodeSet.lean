/-! Sets of code points as the points where membership changes. -/

namespace IncludeRules.Text

/-- Membership starts as false at 0 and changes at every element of `changes`, which ascend. -/
structure CodeSet where
  changes : List Nat

def CodeSet.mem (set : CodeSet) (c : Char) : Bool :=
  (set.changes.takeWhile (· ≤ c.toNat)).length % 2 == 1

end IncludeRules.Text
