/-!
The closed set of diagnostics that a reference can lead to.
-/

set_option autoImplicit false

namespace ImageRefs

inductive DiagnosticCode where
  | metadataFileNotFound
  | invalidAssemblyMetadata
  | invalidModuleMetadata
  | errorOpeningAssemblyFile
  | errorOpeningModuleFile
  deriving DecidableEq, Repr

namespace DiagnosticCode

def all : List DiagnosticCode :=
  [.metadataFileNotFound, .invalidAssemblyMetadata, .invalidModuleMetadata,
    .errorOpeningAssemblyFile, .errorOpeningModuleFile]

def number : DiagnosticCode → Nat
  | .metadataFileNotFound => 6
  | .invalidAssemblyMetadata => 9
  | .invalidModuleMetadata => 10
  | .errorOpeningAssemblyFile => 11
  | .errorOpeningModuleFile => 12

def name : DiagnosticCode → String
  | .metadataFileNotFound => "MetadataFileNotFound"
  | .invalidAssemblyMetadata => "InvalidAssemblyMetadata"
  | .invalidModuleMetadata => "InvalidModuleMetadata"
  | .errorOpeningAssemblyFile => "ErrorOpeningAssemblyFile"
  | .errorOpeningModuleFile => "ErrorOpeningModuleFile"

end DiagnosticCode

end ImageRefs
