import ImageRefs.Source

/-!
References to images. A reference never changes, but for the documentation that is bound to it the
first time it is asked for.
-/

set_option autoImplicit false

namespace ImageRefs

open Documentation

/-- A reference is told from all others by its place in the session that made it. -/
structure RefId where
  index : Nat
  deriving DecidableEq, Repr

structure Reference where
  source : Object Source
  path? : Option Path
  properties : Properties
  documentation? : Option (Object Provider) := none

namespace Reference

def isBound (r : Reference) : Bool :=
  r.documentation?.isSome

/-- The file path, or what the source shows instead. -/
def display (r : Reference) : String :=
  match r.path? with
  | some path => path.shown
  | none => r.source.value.display r.properties

/-- The reference with other properties. What is bound by now stays bound. -/
def withProperties (r : Reference) (p : Properties) : Reference :=
  { r with properties := p }

end Reference

end ImageRefs
