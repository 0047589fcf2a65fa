import ImageRefs.Binding
import ImageRefs.Documentation.Reading

/-!
Where the image and the documentation of a reference come from: a file, memory, or a source of the
compiler's own.
-/

set_option autoImplicit false

namespace ImageRefs

open Documentation

/-- How an image without a name of its own is shown. -/
def inMemoryDisplay (p : Properties) : String :=
  s!"<in-memory {p.kind.text}>"

/-! ### Files -/

inductive DocumentationLookup where
  | none
  /-- The file with the extension `xml` beside the image. -/
  | sideBySide
  | path (path : Path)
  deriving DecidableEq, Repr

structure FileImage where
  path : Path
  memoryMap : Bool := true
  lookup : DocumentationLookup := .sideBySide
  deriving DecidableEq, Repr

namespace FileImage

def xmlExtension : Bytes := (Path.ofString "xml").bytes

def documentationPath? (image : FileImage) : Option Path :=
  match image.lookup with
  | .none => none
  | .sideBySide => some (image.path.withExtension xmlExtension)
  | .path path => some path

/-- A missing file is no documentation; any other failure is too, but is reported. -/
def documentation (image : FileImage) (disk : Disk) : Candidate × List Event :=
  match image.documentationPath? with
  | none => (.nothing, [])
  | some path =>
    match parseFile disk path with
    | .ok members => (.fresh (.read members), [.documentationLoaded path members.size])
    | .error (.notFound _) => (.nothing, [])
    | .error failure => (.nothing, [.documentationIgnored path failure])

end FileImage

/-! ### Memory -/

structure MemoryImage where
  data : Bytes
  display? : Option String := none
  documentation? : Option (Object Provider) := none
  deriving DecidableEq, Repr

namespace MemoryImage

def display (image : MemoryImage) (p : Properties) : String :=
  image.display?.getD (inMemoryDisplay p)

def load (image : MemoryImage) (p : Properties) : Except LoadError Metadata :=
  Metadata.ofBytes p.kind image.data

/-- The same object every time. -/
def documentation (image : MemoryImage) : Candidate :=
  match image.documentation? with
  | none => .nothing
  | some object => .existing object

end MemoryImage

/-! ### Sources of the compiler's own -/

/-- What a source does may depend on how often it was called before, but not its validation. -/
structure CustomSource where
  display : Properties → String := inMemoryDisplay
  validate : Properties → Except Error Unit := Properties.validate
  load : Nat → Properties → Except LoadError Metadata
  documentation : Nat → Candidate

namespace CustomSource

/-- The usual validation, which is followed by a refusal of the first reserved alias. -/
def validateReserving (reserved : List String) (p : Properties) : Except Error Unit := do
  p.validate
  match p.aliases.find? (· ∈ reserved) with
  | some name => throw (.invalidAlias name (.refused "alias is reserved by this source"))
  | none => return

/-- The image has the given bytes every time, whatever its kind. -/
def loadBytes (data : Bytes) : Nat → Properties → Except LoadError Metadata :=
  fun _ p => Metadata.ofBytes p.kind data

def failToLoad (failure : LoadError) : Nat → Properties → Except LoadError Metadata :=
  fun _ _ => .error failure

/-- A new provider with the same texts every time. -/
def newProvider (provider? : Option Provider) : Nat → Candidate :=
  fun _ => match provider? with
    | none => .nothing
    | some provider => .fresh provider

end CustomSource

inductive Source where
  | file (image : FileImage)
  | memory (image : MemoryImage)
  | custom (source : CustomSource)

namespace Source

def isCustom : Source → Bool
  | .custom _ => true
  | _ => false

/-- How a reference without a file path is shown. -/
def display : Source → Properties → String
  | .file image, _ => image.path.shown
  | .memory image, p => image.display p
  | .custom source, p => source.display p

def validate : Source → Properties → Except Error Unit
  | .file _, p => p.validate
  | .memory _, p => p.validate
  | .custom source, p => source.validate p

/-- Loads the image as the disk is now, after so many calls before. -/
def load (disk : Disk) (earlier : Nat) : Source → Properties → Except LoadError Metadata
  | .file image, p => Metadata.ofFile disk p.kind image.path image.memoryMap
  | .memory image, p => image.load p
  | .custom source, p => source.load earlier p

/-- Looks for documentation as the disk is now, after so many calls before. -/
def documentation (disk : Disk) (earlier : Nat) : Source → Candidate × List Event
  | .file image => image.documentation disk
  | .memory image => (image.documentation, [])
  | .custom source => (source.documentation earlier, [])

end Source

end ImageRefs
