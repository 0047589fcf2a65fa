import ImageRefs.Documentation.Members

/-!
Where a compiler asks for documentation. A provider can be known to have none at all.
-/

set_option autoImplicit false

namespace ImageRefs.Documentation

inductive Provider where
  /-- Stands where there is no documentation. -/
  | nothing
  | read (members : Members)
  /-- Texts from elsewhere, of which it is not known whether there are any. -/
  | texts (entries : List (String × String))
  deriving DecidableEq, Repr

namespace Provider

def text? : Provider → String → Option String
  | .nothing, _ => none
  | .read members, id => members.text? id
  | .texts entries, id => entries.lookup id

def isEmpty : Provider → Bool
  | .nothing => true
  | .read members => members.isEmpty
  | .texts _ => false

/-- The provider as a value. -/
def quoted : Provider → String
  | .nothing => "NoDocumentation"
  | .read members => Text.record "XmlDocumentationProvider" [("members", members.quoted)]
  | .texts entries => Text.record "Texts" [("entries", Members.quoted ⟨entries⟩)]

end Provider

end ImageRefs.Documentation
