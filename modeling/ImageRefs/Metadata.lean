import ImageRefs.Disk
import ImageRefs.ImageKind
import ImageRefs.Text.Quoted

/-!
Loaded images. An image is never empty, whether it comes from memory, from a buffered file or from
a file mapped into memory.
-/

set_option autoImplicit false

namespace ImageRefs

structure Metadata where
  kind : ImageKind
  image : Bytes
  deriving DecidableEq, Repr

namespace Metadata

def ofBytes (kind : ImageKind) (image : Bytes) : Except LoadError Metadata :=
  if image.isEmpty then .error (.found s!"Provided {kind.text} image was empty")
  else .ok ⟨kind, image⟩

def size (m : Metadata) : Nat :=
  m.image.length

/-- The image behind a path that opens as `opened` every time. An empty file is refused; only then
the content is mapped or read. -/
def ofOpened (opened : Except IoError Entry) (kind : ImageKind) (path : Path) (memoryMap : Bool) :
    Except LoadError Metadata := do
  let entry ← opened.mapError fun error => .ofIo error (some path)
  if entry.isEmptyFile then
    throw (.found s!"File '{path.shown}' is empty")
  let image ←
    if memoryMap then entry.map.mapError .io
    else (opened >>= Entry.read).mapError fun error => .ofIo error (some path)
  ofBytes kind image

def ofFile (disk : Disk) (kind : ImageKind) (path : Path) (memoryMap : Bool) :
    Except LoadError Metadata :=
  ofOpened (disk.openFile path) kind path memoryMap

def quoted (m : Metadata) : String :=
  Text.record "Metadata" [("kind", m.kind.valueText), ("len", toString m.size)]

end Metadata

/-- The content of a file mapped into memory; it may be empty. -/
def mapOpened (opened : Except IoError Entry) (path : Path) : Except LoadError Bytes := do
  let entry ← opened.mapError fun error => .ofIo error (some path)
  entry.map.mapError .io

def mapFile (disk : Disk) (path : Path) : Except LoadError Bytes :=
  mapOpened (disk.openFile path) path

end ImageRefs
