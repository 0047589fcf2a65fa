import ImageRefs.Diagnostic.Catalog

/-!
Diagnostics and the collection a compilation gathers them in.
-/

set_option autoImplicit false

namespace ImageRefs

inductive Location where
  | none
  | source (path : String) (line column : Nat)
  deriving DecidableEq, Repr

def Location.text : Location → String
  | .none => ""
  | .source path line column => s!"{path}({line},{column})"

structure Diagnostic where
  severity : Severity
  code : DiagnosticCode
  id : String
  location : Location
  arguments : List String
  message : String
  deriving DecidableEq, Repr

namespace Diagnostic

def new (code : DiagnosticCode) (catalog : Catalog) (location : Location)
    (arguments : List String) : Diagnostic where
  severity := catalog.severity code
  code := code
  id := catalog.id code
  location := location
  arguments := arguments
  message := catalog.message code arguments

def withLocation (d : Diagnostic) (location : Location) : Diagnostic :=
  { d with location }

def text (d : Diagnostic) : String :=
  let graded := s!"{d.severity.text} {d.id}: {d.message}"
  match d.location with
  | .none => graded
  | location => s!"{location.text}: {graded}"

end Diagnostic

/-- Diagnostics in the order they were reported in. -/
structure Diagnostics where
  entries : List Diagnostic := []
  deriving DecidableEq, Repr

namespace Diagnostics

def push (ds : Diagnostics) (d : Diagnostic) : Diagnostics :=
  ⟨ds.entries ++ [d]⟩

def count (ds : Diagnostics) : Nat :=
  ds.entries.length

def countOf (ds : Diagnostics) (severity : Severity) : Nat :=
  ds.entries.countP (·.severity == severity)

def errors (ds : Diagnostics) : List Diagnostic :=
  ds.entries.filter (·.severity == .error)

def byCode (ds : Diagnostics) (code : DiagnosticCode) : List Diagnostic :=
  ds.entries.filter (·.code == code)

def hasAny (ds : Diagnostics) : Bool :=
  0 < ds.count

def hasErrors (ds : Diagnostics) : Bool :=
  ds.entries.any (·.severity == .error)

/-- A headline with the number of diagnostics per severity, then a line for each of them. -/
def summary (ds : Diagnostics) : String :=
  let counts := s!"{ds.countOf .error} error(s), {ds.countOf .warning} warning(s), " ++
    s!"{ds.countOf .info} info(s)"
  "Diagnostics: " ++ counts ++ "\n" ++ String.join (ds.entries.map fun d => "  " ++ d.text ++ "\n")

/-- A collection shows as its summary. -/
def text (ds : Diagnostics) : String :=
  ds.summary

end Diagnostics

end ImageRefs
