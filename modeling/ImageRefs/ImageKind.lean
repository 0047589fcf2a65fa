/-!
The two kinds of compiled images that can be referenced.
-/

set_option autoImplicit false

namespace ImageRefs

inductive ImageKind where
  | assembly
  | module
  deriving DecidableEq, Repr

namespace ImageKind

def text : ImageKind → String
  | .assembly => "assembly"
  | .module => "module"

/-- The name of the kind as a value. -/
def valueText : ImageKind → String
  | .assembly => "Assembly"
  | .module => "Module"

end ImageKind

end ImageRefs
