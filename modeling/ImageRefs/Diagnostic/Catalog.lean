import ImageRefs.Diagnostic.Code
import ImageRefs.Diagnostic.Severity
import ImageRefs.Diagnostic.Template

/-!
Message catalogs: how a compiler names, words and grades its diagnostics.
-/

set_option autoImplicit false

namespace ImageRefs

/-- The number in decimal with at least four digits. -/
def Catalog.fourDigits (n : Nat) : String :=
  String.ofList ((Nat.toDigits 10 n).leftpad 4 '0')

structure Catalog where
  /-- What the id of every diagnostic starts with, unless the ids are given. -/
  idLead : String
  template : DiagnosticCode → String
  severity : DiagnosticCode → Severity := fun _ => .error
  id : DiagnosticCode → String := fun code => idLead ++ Catalog.fourDigits code.number
  message : DiagnosticCode → List String → String := fun code => Template.format (template code)

namespace Catalog

def standardTemplate : DiagnosticCode → String
  | .metadataFileNotFound => "Metadata file '\x7b0\x7d' could not be found"
  | .invalidAssemblyMetadata =>
    "An assembly with invalid metadata was referenced: '\x7b0\x7d' -- \x7b1\x7d"
  | .invalidModuleMetadata =>
    "A module with invalid metadata was referenced: '\x7b0\x7d' -- \x7b1\x7d"
  | .errorOpeningAssemblyFile => "Error opening assembly file '\x7b0\x7d' -- \x7b1\x7d"
  | .errorOpeningModuleFile => "Error opening module file '\x7b0\x7d' -- \x7b1\x7d"

def standard : Catalog where
  idLead := "MR"
  template := standardTemplate

end Catalog

end ImageRefs
