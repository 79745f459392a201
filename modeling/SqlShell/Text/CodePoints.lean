/-!
# Sets of code points

A property of characters is a set of code points, written as the ranges in it, in rising order and
with both ends included.
-/

namespace SqlShell.Text

/-- A set of code points as the ranges in it, ends included. -/
abbrev CodePoints := List (Nat × Nat)

/-- Whether a set holds a character. -/
def CodePoints.has (set : CodePoints) (c : Char) : Bool :=
  set.any fun (first, last) => first ≤ c.toNat && c.toNat ≤ last

end SqlShell.Text
