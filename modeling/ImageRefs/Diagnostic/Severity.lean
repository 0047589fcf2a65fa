/-!
How serious a diagnostic is.
-/

set_option autoImplicit false

namespace ImageRefs

inductive Severity where
  | info
  | warning
  | error
  deriving DecidableEq, Repr

namespace Severity

def text : Severity → String
  | .info => "info"
  | .warning => "warning"
  | .error => "error"

def rank : Severity → Nat
  | .info => 0
  | .warning => 1
  | .error => 2

/-- From the least serious one on. -/
def ascending (severities : List Severity) : List Severity :=
  severities.mergeSort fun a b => a.rank ≤ b.rank

def descending (severities : List Severity) : List Severity :=
  severities.mergeSort fun a b => b.rank ≤ a.rank

def max? (severities : List Severity) : Option Severity :=
  (descending severities).head?

end Severity

end ImageRefs
