import ImageRefs.Failure
import ImageRefs.ImageKind
import ImageRefs.Properties.Alias

/-!
Every error of the library: refused properties or a failure to load.
-/

set_option autoImplicit false

namespace ImageRefs

inductive Error where
  | invalidAlias (name : String) (fault : AliasFault)
  | duplicateAlias (name : String)
  | moduleAliases
  | embedNotSupported (kind : ImageKind)
  | load (failure : LoadError)
  deriving DecidableEq, Repr

namespace Error

/-- Properties were refused. -/
def isConfiguration : Error → Bool
  | .load _ => false
  | _ => true

def shown : Error → String
  | .invalidAlias name fault => s!"Invalid alias '{name}' - {fault.message}"
  | .duplicateAlias name => s!"Duplicate alias '{name}'"
  | .moduleAliases => "Module references can not have aliases"
  | .embedNotSupported kind => s!"Interop types can not be embedded from a {kind.text} reference"
  | .load failure => failure.shown

end Error

end ImageRefs
