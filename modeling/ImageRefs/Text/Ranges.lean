/-!
Sets of characters given as ranges of code points. The tables of the neighbouring modules are
such sets.
-/

set_option autoImplicit false

namespace ImageRefs.Text

/-- Ranges of code points, both ends included. -/
abbrev Ranges := List (Nat × Nat)

def Ranges.contains (ranges : Ranges) (n : Nat) : Bool :=
  ranges.any fun (first, last) => first ≤ n && n ≤ last

end ImageRefs.Text
