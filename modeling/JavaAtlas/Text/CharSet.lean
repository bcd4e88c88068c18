/-!
# Sets of characters

A set of characters is given by closed ranges of code points. The tables of character properties
are values of this type.
-/

namespace JavaAtlas

/-- A set of characters, as closed ranges of code points. -/
structure CharSet where
  ranges : List (Nat × Nat)

namespace CharSet

def contains (s : CharSet) (c : Char) : Bool :=
  s.ranges.any fun r => r.1 ≤ c.toNat && c.toNat ≤ r.2

end CharSet

end JavaAtlas
