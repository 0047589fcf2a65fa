import ImageRefs.Diagnostic.Diagnosis
import ImageRefs.Reference

/-!
A session: the disk, the references made so far, and everything that work with references leaves
behind. Each operation gives its result together with the session after it.
-/

set_option autoImplicit false

namespace ImageRefs

open Documentation

/-- A call to the source with the identity `source`. -/
inductive SourceCall where
  | load (source : Nat)
  | documentation (source : Nat)
  deriving DecidableEq, Repr

structure Session where
  disk : Disk
  /-- A reference is identified by its place; none is ever removed. -/
  references : List Reference := []
  sources : List (Object Source) := []
  diagnostics : Diagnostics := {}
  /-- The identity of the next new object. -/
  fresh : Nat := 0
  /-- All calls to sources, in order. -/
  calls : List SourceCall := []
  /-- All events, in order. -/
  log : List Event := []

namespace Session

def loads (s : Session) (source : Nat) : Nat :=
  s.calls.count (.load source)

def documentationCalls (s : Session) (source : Nat) : Nat :=
  s.calls.count (.documentation source)

def reference? (s : Session) (id : RefId) : Option Reference :=
  s.references[id.index]?

def source? (s : Session) (id : Nat) : Option (Object Source) :=
  s.sources.find? (·.id = id)

def emit (s : Session) (events : List Event) : Session :=
  { s with log := s.log ++ events }

/-! ### Objects -/

def makeProvider (s : Session) (provider : Provider) : Object Provider × Session :=
  (⟨s.fresh, provider⟩, { s with fresh := s.fresh + 1 })

def makeSource (s : Session) (source : Source) : Object Source × Session :=
  let object : Object Source := ⟨s.fresh, source⟩
  (object, { s with fresh := s.fresh + 1, sources := s.sources ++ [object] })

/-! ### References -/

def addReference (s : Session) (r : Reference) : RefId × Session :=
  (⟨s.references.length⟩, { s with references := s.references ++ [r] })

/-- A new reference, unless the source refuses its properties. -/
def create (s : Session) (source : Object Source) (path? : Option Path) (p : Properties) :
    Except Error RefId × Session :=
  match source.value.validate p with
  | .error error => (.error error, s)
  | .ok () =>
    let (id, s) := s.addReference { source, path?, properties := p }
    (.ok id, s)

/-- A new reference over a source of its own. -/
def createFrom (s : Session) (source : Source) (path? : Option Path) (p : Properties) :
    Except Error RefId × Session :=
  let (object, s) := s.makeSource source
  s.create object path? p

/-- The file is not touched before it is asked for. -/
def fromFile (s : Session) (image : FileImage) (p : Properties) :
    Except Error RefId × Session :=
  s.createFrom (.file image) (some image.path) p

def fromImage (s : Session) (image : MemoryImage) (p : Properties) :
    Except Error RefId × Session :=
  s.createFrom (.memory image) none p

def fromBytes (s : Session) (data : Bytes) (p : Properties) :
    Except Error RefId × Session :=
  s.fromImage { data } p

/-- The same reference if the properties are the ones it has; otherwise a new one, unless the
source refuses them. -/
def withProperties (s : Session) (id : RefId) (r : Reference) (p : Properties) :
    Except Error RefId × Session :=
  if p = r.properties then (.ok id, s)
  else
    match r.source.value.validate p with
    | .error error => (.error error, s)
    | .ok () =>
      let s := s.emit [.propertiesUpdated r.display p]
      let (id, s) := s.addReference (r.withProperties p)
      (.ok id, s)

def withAliases (s : Session) (id : RefId) (r : Reference) (aliases : List String) :
    Except Error RefId × Session :=
  match r.properties.withAliases aliases with
  | .error error => (.error error, s)
  | .ok p => s.withProperties id r p

def withEmbedInteropTypes (s : Session) (id : RefId) (r : Reference) (value : Bool) :
    Except Error RefId × Session :=
  match r.properties.withEmbedInteropTypes value with
  | .error error => (.error error, s)
  | .ok p => s.withProperties id r p

/-! ### Documentation -/

/-- Asks the source for documentation. -/
def findDocumentation (s : Session) (source : Object Source) : Candidate × Session :=
  let (candidate, events) :=
    source.value.documentation s.disk (s.documentationCalls source.id)
  (candidate, { s with
    calls := s.calls ++ [SourceCall.documentation source.id]
    log := s.log ++ events })

/-- The documentation of a reference, which is looked for only the first time. -/
def documentation (s : Session) (id : RefId) (r : Reference) : Object Provider × Session :=
  match r.documentation? with
  | some object => (object, s)
  | none =>
    let (candidate, s) := s.findDocumentation r.source
    let binding : Binding := { fresh := s.fresh, log := s.log }
    let (object, binding) := binding.getOrBind (.answer candidate)
    (object, { s with
      references := s.references.set id.index { r with documentation? := binding.provider? }
      fresh := binding.fresh
      log := binding.log })

/-! ### Images -/

def loadOutcome (reference : String) : Except LoadError Metadata → Event
  | .ok metadata => .loaded reference metadata.size
  | .error failure => .loadFailed reference failure

/-- Asks the source for the image. -/
def loadImage (s : Session) (source : Object Source) (p : Properties) :
    Except LoadError Metadata × Session :=
  (source.value.load s.disk (s.loads source.id) p,
    { s with calls := s.calls ++ [SourceCall.load source.id] })

/-- Loads the image anew. -/
def metadata (s : Session) (r : Reference) : Except LoadError Metadata × Session :=
  let (result, s) := s.loadImage r.source r.properties
  (result, s.emit [.loadStarted r.display r.properties.kind, loadOutcome r.display result])

/-! ### Diagnostics -/

def push (s : Session) (d : Diagnostic) : Session :=
  { s with diagnostics := s.diagnostics.push d }

/-- The diagnostic for a failure, which is an event of its own. -/
def diagnose (s : Session) (failure : LoadError) (catalog : Catalog) (location : Location)
    (displayName : String) (kind : ImageKind) : Except LoadError Diagnostic × Session :=
  match failure.diagnose catalog location displayName kind with
  | .error failure => (.error failure, s)
  | .ok d => (.ok d, s.emit [.failureDiagnosed displayName d.code])

def diagnoseReference (s : Session) (r : Reference) (failure : LoadError) (catalog : Catalog)
    (location : Location) : Except LoadError Diagnostic × Session :=
  s.diagnose failure catalog location r.display r.properties.kind

end Session

end ImageRefs
