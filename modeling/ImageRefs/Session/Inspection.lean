import ImageRefs.Session.Basic

/-!
References as values, for a reader who looks into a session.
-/

set_option autoImplicit false

namespace ImageRefs

open Text

def DocumentationLookup.quoted : DocumentationLookup → String
  | .none => "None"
  | .sideBySide => "SideBySide"
  | .path file => "Path(" ++ file.quoted ++ ")"

def FileImage.quoted (image : FileImage) : String :=
  record "FileImage" [("path", image.path.quoted),
    ("options", record "FileImageOptions" [("memory_map", flag image.memoryMap),
      ("documentation", image.lookup.quoted)])]

def MemoryImage.quoted (image : MemoryImage) : String :=
  record "MemoryImage" [("data", listed (image.data.map fun b => toString b.toNat)),
    ("display", optional (image.display?.map Text.quoted)),
    ("documentation", optional (image.documentation?.map (·.value.quoted)))]

/-- A source of the compiler's own does not show what it is made of. -/
def Source.quoted : Source → String
  | .file image => image.quoted
  | .memory image => image.quoted
  | .custom _ => "CustomSource"

def Reference.quoted (r : Reference) : String :=
  record "Reference" [("display", Text.quoted r.display), ("properties", r.properties.quoted),
    ("documentation_bound", flag r.isBound), ("source", r.source.value.quoted)]

end ImageRefs
