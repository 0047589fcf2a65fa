import ImageRefs.Error
import ImageRefs.Text.Quoted

/-!
The properties of a reference: the kind of its image, the aliases it is known by, and whether its
interop types are embedded. A module has neither aliases nor embedded types.
-/

set_option autoImplicit false

namespace ImageRefs

namespace Alias

def validate (name : String) : Except Error Unit :=
  match fault? name with
  | none => .ok ()
  | some fault => .error (.invalidAlias name fault)

/-- Reports the first alias that breaks the rule or stood before. -/
def validateAll (names : List String) : Except Error Unit :=
  go [] names
where
  go (seen : List String) : List String → Except Error Unit
    | [] => .ok ()
    | name :: rest => do
      validate name
      if name ∈ seen then .error (.duplicateAlias name) else go (name :: seen) rest

end Alias

structure Properties where
  kind : ImageKind
  aliases : List String
  embedInteropTypes : Bool
  deriving DecidableEq, Repr

namespace Properties

/-- The alias of everything that has no other. -/
def globalAlias : String := "global"

def validate (p : Properties) : Except Error Unit :=
  if p.kind = .module ∧ p.embedInteropTypes then .error (.embedNotSupported p.kind)
  else if p.kind = .module ∧ p.aliases ≠ [] then .error .moduleAliases
  else Alias.validateAll p.aliases

def new (kind : ImageKind) (aliases : List String) (embedInteropTypes : Bool) :
    Except Error Properties := do
  let p : Properties := { kind, aliases, embedInteropTypes }
  p.validate
  return p

def assembly : Properties := ⟨.assembly, [], false⟩

def module : Properties := ⟨.module, [], false⟩

def withAliases (p : Properties) (aliases : List String) : Except Error Properties :=
  new p.kind aliases p.embedInteropTypes

def withEmbedInteropTypes (p : Properties) (value : Bool) : Except Error Properties := do
  let changed := { p with embedInteropTypes := value }
  changed.validate
  return changed

/-- The properties as a value. -/
def quoted (p : Properties) : String :=
  Text.record "ReferenceProperties" [("kind", p.kind.valueText),
    ("aliases", Text.listed (p.aliases.map Text.quoted)),
    ("embed_interop_types", Text.flag p.embedInteropTypes)]

end Properties

end ImageRefs
