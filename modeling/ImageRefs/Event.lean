import ImageRefs.Diagnostic.Code
import ImageRefs.Failure
import ImageRefs.Path
import ImageRefs.Properties

/-!
What the library reports about its work while it runs.
-/

set_option autoImplicit false

namespace ImageRefs

inductive EventLevel where
  | trace
  | debug
  | warn
  deriving DecidableEq, Repr

def EventLevel.text : EventLevel → String
  | .trace => "trace"
  | .debug => "debug"
  | .warn => "warn"

inductive Event where
  | providerBound (empty : Bool)
  | candidateDiscarded
  | propertiesUpdated (reference : String) (properties : Properties)
  | loadStarted (reference : String) (kind : ImageKind)
  | loaded (reference : String) (size : Nat)
  | loadFailed (reference : String) (failure : LoadError)
  | documentationLoaded (path : Path) (members : Nat)
  | documentationIgnored (path : Path) (failure : LoadError)
  | failureDiagnosed (reference : String) (code : DiagnosticCode)
  deriving DecidableEq, Repr

inductive FieldValue where
  | text (value : String)
  | number (value : Nat)
  | flag (value : Bool)
  deriving DecidableEq, Repr

namespace Event

def level : Event → EventLevel
  | .providerBound _ | .candidateDiscarded => .trace
  | .documentationIgnored _ _ => .warn
  | _ => .debug

def message : Event → String
  | .providerBound _ => "documentation provider bound"
  | .candidateDiscarded => "documentation provider already bound, discarding candidate"
  | .propertiesUpdated _ _ => "updating reference properties"
  | .loadStarted _ _ => "loading metadata"
  | .loaded _ _ => "metadata loaded"
  | .loadFailed _ _ => "metadata load failed"
  | .documentationLoaded _ _ => "documentation loaded"
  | .documentationIgnored _ _ => "ignoring unreadable documentation"
  | .failureDiagnosed _ _ => "translated load failure"

def fields : Event → List (String × FieldValue)
  | .providerBound empty => [("empty", .flag empty)]
  | .candidateDiscarded => []
  | .propertiesUpdated reference properties =>
    [("reference", .text reference), ("properties", .text properties.quoted)]
  | .loadStarted reference kind => [("reference", .text reference), ("kind", .text kind.text)]
  | .loaded reference size => [("reference", .text reference), ("size", .number size)]
  | .loadFailed reference failure =>
    [("reference", .text reference), ("error", .text failure.shown)]
  | .documentationLoaded path members =>
    [("path", .text path.shown), ("members", .number members)]
  | .documentationIgnored path failure =>
    [("path", .text path.shown), ("error", .text failure.shown)]
  | .failureDiagnosed reference code =>
    [("reference", .text reference), ("code", .text code.name)]

end Event

end ImageRefs
