import ImageRefs.Error
import ImageRefs.Proofs.Documentation.Forest
import ImageRefs.Proofs.Markup.Attribute
import ImageRefs.Session.Inspection
import ImageRefs.Session.Step
import ImageRefs.Proofs.Documentation.Acceptance
import ImageRefs.Proofs.Binding.Account
import ImageRefs.Proofs.Binding.Publication
import ImageRefs.Proofs.Session.Effect
import ImageRefs.Proofs.Session.Run
import ImageRefs.Proofs.Session.Identity
import ImageRefs.Proofs.Session.Inheritance
import ImageRefs.Proofs.Session.Calls
import ImageRefs.Proofs.Session.Validation
import ImageRefs.Proofs.Template.Index
import ImageRefs.Proofs.Markup.Continuation
import ImageRefs.Proofs.Template.Division
import ImageRefs.Proofs.Documentation.Writing
import ImageRefs.Proofs.Documentation.Truncation
import ImageRefs.Proofs.Diagnostic.Diagnosis
import ImageRefs.Proofs.Metadata.Loading
import ImageRefs.Proofs.Session.Frame
import ImageRefs.Proofs.Session.Snapshot
import ImageRefs.Proofs.Template.Parts
import ImageRefs.Proofs.Documentation.Composition
import ImageRefs.Proofs.Session.Referent
import ImageRefs.Proofs.Markup.Excerpt
import ImageRefs.Proofs.Documentation.Restoring
import ImageRefs.Proofs.Properties.Refusal
import ImageRefs.Proofs.Session.Edit
import ImageRefs.Proofs.Diagnostic.Collection
import ImageRefs.Proofs.Documentation.Spelling
import ImageRefs.Proofs.Bytes.Slice
import ImageRefs.Proofs.Template.Continuation
import ImageRefs.Proofs.Documentation.Depth
