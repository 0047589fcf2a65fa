/-!
Values with an identity. Two objects can hold equal values and still be told apart.
-/

set_option autoImplicit false

namespace ImageRefs

structure Object (α : Type) where
  id : Nat
  value : α
  deriving DecidableEq, Repr

end ImageRefs
