import ImageRefs.Diagnostic.Basic
import ImageRefs.Failure
import ImageRefs.ImageKind

/-!
From a failure to load an image to the diagnostic a compiler reports for it. A fault of the
loader itself is no concern of the user and has no diagnostic.
-/

set_option autoImplicit false

namespace ImageRefs

/-- The code for an image that was read but is not valid. -/
def DiagnosticCode.invalidMetadata : ImageKind → DiagnosticCode
  | .assembly => .invalidAssemblyMetadata
  | .module => .invalidModuleMetadata

/-- The code for an image that could not be read. -/
def DiagnosticCode.errorOpening : ImageKind → DiagnosticCode
  | .assembly => .errorOpeningAssemblyFile
  | .module => .errorOpeningModuleFile

/-- The code for a failure and the arguments of its message. -/
def LoadError.diagnosis? (failure : LoadError) (displayName : String) (kind : ImageKind) :
    Option (DiagnosticCode × List String) :=
  match failure with
  | .malformed message _ => some (.invalidMetadata kind, [displayName, message])
  | .notFound name => some (.metadataFileNotFound, [name.getD ""])
  | .io error => some (.errorOpening kind, [displayName, error.message])
  | .unexpected _ => none

/-- The diagnostic for a failure; a fault of the loader itself is handed back. -/
def LoadError.diagnose (failure : LoadError) (catalog : Catalog) (location : Location)
    (displayName : String) (kind : ImageKind) : Except LoadError Diagnostic :=
  match failure.diagnosis? displayName kind with
  | some (code, arguments) => .ok (.new code catalog location arguments)
  | none => .error failure

end ImageRefs
