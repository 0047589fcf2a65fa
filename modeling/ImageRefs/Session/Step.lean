import ImageRefs.Session.Basic

/-!
Sessions as runs of actions. Every action answers; one that names a reference or a source that does
not exist changes nothing.
-/

set_option autoImplicit false

namespace ImageRefs

open Documentation

inductive Action where
  | makeProvider (provider : Provider)
  | makeSource (source : Source)
  | create (source : Nat) (path? : Option Path) (properties : Properties)
  /-- Another handle of the same reference. -/
  | clone (reference : RefId)
  | withProperties (reference : RefId) (properties : Properties)
  | withAliases (reference : RefId) (aliases : List String)
  | withEmbedInteropTypes (reference : RefId) (value : Bool)
  | documentation (reference : RefId)
  | metadata (reference : RefId)
  /-- The diagnostic for a failure to load the image of a reference. -/
  | diagnoseReference (reference : RefId) (failure : LoadError) (catalog : Catalog)
      (location : Location)
  | diagnose (failure : LoadError) (catalog : Catalog) (location : Location)
      (displayName : String) (kind : ImageKind)
  | push (diagnostic : Diagnostic)
  | write (path : Path) (content : Bytes)
  | makeDirectory (path : Path)
  | remove (path : Path)

inductive Answer where
  | missing
  | provider (object : Object Provider)
  | source (object : Object Source)
  | reference (result : Except Error RefId)
  | metadata (result : Except LoadError Metadata)
  | diagnostic (result : Except LoadError Diagnostic)
  | done (succeeded : Bool)

namespace Session

/-- Uses a reference, if it exists. -/
def onReference (s : Session) (id : RefId) (use : Reference → Answer × Session) :
    Answer × Session :=
  match s.reference? id with
  | none => (.missing, s)
  | some r => use r

def onDisk (s : Session) (outcome : Disk × Bool) : Answer × Session :=
  (.done outcome.2, { s with disk := outcome.1 })

def act (s : Session) : Action → Answer × Session
  | .makeProvider provider => (s.makeProvider provider).map .provider id
  | .makeSource source => (s.makeSource source).map .source id
  | .create source path? properties =>
    match s.source? source with
    | none => (.missing, s)
    | some object => (s.create object path? properties).map .reference id
  | .clone reference => s.onReference reference fun _ => (.reference (.ok reference), s)
  | .withProperties reference properties => s.onReference reference fun r =>
    (s.withProperties reference r properties).map .reference id
  | .withAliases reference aliases => s.onReference reference fun r =>
    (s.withAliases reference r aliases).map .reference id
  | .withEmbedInteropTypes reference value => s.onReference reference fun r =>
    (s.withEmbedInteropTypes reference r value).map .reference id
  | .documentation reference => s.onReference reference fun r =>
    (s.documentation reference r).map .provider id
  | .metadata reference => s.onReference reference fun r => (s.metadata r).map .metadata id
  | .diagnoseReference reference failure catalog location => s.onReference reference fun r =>
    (s.diagnoseReference r failure catalog location).map .diagnostic id
  | .diagnose failure catalog location displayName kind =>
    (s.diagnose failure catalog location displayName kind).map .diagnostic id
  | .push d => (.done true, s.push d)
  | .write path content => s.onDisk (s.disk.write path content)
  | .makeDirectory path => s.onDisk (s.disk.makeDirectory path)
  | .remove path => s.onDisk (s.disk.remove path)

def run (s : Session) (actions : List Action) : Session :=
  actions.foldl (fun s action => (s.act action).2) s

end Session

end ImageRefs
