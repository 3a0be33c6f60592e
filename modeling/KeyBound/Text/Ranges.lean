/-!
# Ranges of characters

Classes of characters as lists of closed ranges of code points.
-/

set_option autoImplicit false

namespace KeyBound

/-- Closed ranges of code points. -/
abbrev Ranges := List (Nat × Nat)

def Ranges.contain (ranges : Ranges) (c : Char) : Bool :=
  ranges.any fun (first, last) => first ≤ c.toNat && c.toNat ≤ last

end KeyBound
