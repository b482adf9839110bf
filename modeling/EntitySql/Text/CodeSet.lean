/-!
# Sets of characters

A property of characters is kept as its boundaries: the code points, in ascending order, at which
the property begins or ceases to hold. Membership counts the boundaries that lie at or below the
character.
-/

namespace EntitySql.Text

/-- The characters from the first boundary up to the second, from the third up to the fourth, and
so on; each even boundary is the first code point outside. -/
structure CodeSet where
  boundaries : List Nat

/-- A character belongs to the set when an odd number of boundaries has been passed. -/
def CodeSet.contains (s : CodeSet) (c : Char) : Bool :=
  (s.boundaries.takeWhile (· ≤ c.toNat)).length % 2 == 1

end EntitySql.Text
