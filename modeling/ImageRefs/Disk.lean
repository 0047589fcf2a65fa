import ImageRefs.Failure

/-!
A disk of directories and regular files, and the outcome of opening, reading, mapping and changing
them by path. Paths are followed component by component, `.` and `..` included.
-/

set_option autoImplicit false

namespace ImageRefs

inductive Entry where
  | directory
  | file (content : Bytes)
  deriving DecidableEq, Repr

namespace Entry

def read : Entry → Except IoError Bytes
  | .file content => .ok content
  | .directory => .error (.system .isDirectory)

/-- Only regular files can be mapped into memory. -/
def map : Entry → Except IoError Bytes
  | .file content => .ok content
  | .directory => .error (.system .noDevice)

def isEmptyFile : Entry → Bool
  | .file content => content.isEmpty
  | .directory => false

end Entry

/-- The names on the way from the root, outermost first. -/
abbrev Place := List Bytes

structure Disk where
  /-- Where a relative path starts. -/
  workingDirectory : Place
  /-- Everything but the root, which always is a directory. -/
  entries : List (Place × Entry)
  deriving DecidableEq, Repr

namespace Disk

/-- A disk with nothing but the working directory and those above it. -/
def empty (workingDirectory : Place) : Disk where
  workingDirectory := workingDirectory
  entries := (List.range workingDirectory.length).map fun depth =>
    (workingDirectory.take (depth + 1), .directory)

def entry? (disk : Disk) (place : Place) : Option Entry :=
  if place = [] then some .directory else disk.entries.lookup place

def put (disk : Disk) (place : Place) (entry : Entry) : Disk :=
  { disk with entries := (place, entry) :: disk.entries.filter (·.1 ≠ place) }

def erase (disk : Disk) (place : Place) : Disk :=
  { disk with entries := disk.entries.filter (·.1 ≠ place) }

/-! ### Following a path -/

def longestName : Nat := 255
def longestPath : Nat := 4095

def nulInName : IoError :=
  .reported .invalidInput (some "file name contained an unexpected NUL byte")

/-- What is wrong with a path whatever the disk holds. -/
def unusable? (path : Path) : Option IoError :=
  if 0 ∈ path.bytes then some nulInName
  else if path.bytes = [] then some (.system .noEntry)
  else if longestPath < path.bytes.length then some (.system .nameTooLong)
  else none

def start (disk : Disk) (path : Path) : Place :=
  if path.isAbsolute then [] else disk.workingDirectory

/-- Where one component leads from a place. -/
def enter (disk : Disk) (place : Place) (name : Bytes) : Except IoError Place :=
  match disk.entry? place with
  | none => .error (.system .noEntry)
  | some (.file _) => .error (.system .notDirectory)
  | some .directory =>
    if name = [Path.dot] then .ok place
    else if name = [Path.dot, Path.dot] then .ok place.dropLast
    else if longestName < name.length then .error (.system .nameTooLong)
    else .ok (place ++ [name])

def follow (disk : Disk) (place : Place) : List Bytes → Except IoError Place
  | [] => .ok place
  | name :: rest => do
    let next ← disk.enter place name
    disk.follow next rest

/-- The entry that a path leads to and its place. -/
def locate (disk : Disk) (path : Path) : Except IoError (Place × Entry) :=
  match unusable? path with
  | some error => .error error
  | none => do
    let place ← disk.follow (disk.start path) path.components
    match disk.entry? place with
    | none => .error (.system .noEntry)
    | some (.file content) =>
      if path.namesDirectory then .error (.system .notDirectory) else .ok (place, .file content)
    | some .directory => .ok (place, .directory)

/-! ### Reading -/

/-- Directories can be opened like files. -/
def openFile (disk : Disk) (path : Path) : Except IoError Entry :=
  (disk.locate path).map Prod.snd

def read (disk : Disk) (path : Path) : Except IoError Bytes :=
  disk.openFile path >>= Entry.read

/-! ### Changing -/

/-- Makes the directories that are missing on the way; none if a file or a long name is in it. -/
def makeWay (disk : Disk) (place : Place) : List Bytes → Disk × Option Place
  | [] => (disk, some place)
  | name :: rest =>
    match disk.enter place name with
    | .error _ => (disk, none)
    | .ok next =>
      match disk.entry? next with
      | some .directory => disk.makeWay next rest
      | some (.file _) => (disk, none)
      | none => (disk.put next .directory).makeWay next rest

/-- Whether a path leads to a directory. -/
def isDirectory (disk : Disk) (path : Path) : Bool :=
  match disk.locate path with
  | .ok (_, .directory) => true
  | _ => false

/-- Makes a directory and those above it. A path that ends in `.` only stands for a directory that
exists, once those above it are made. -/
def makeDirectory (disk : Disk) (path : Path) : Disk × Bool :=
  if path.bytes = [] then (disk, true)
  else if (unusable? path).isSome then (disk, false)
  else if path.components.getLast? = some [Path.dot] then
    let (changed, place?) := disk.makeWay (disk.start path) path.parent.components
    (changed, place?.isSome && changed.isDirectory path)
  else
    let (changed, place?) := disk.makeWay (disk.start path) path.components
    (changed, place?.isSome)

/-- Writes a whole file, over one that exists. The last component has to name it. -/
def writeFile (disk : Disk) (path : Path) (content : Bytes) : Disk × Bool :=
  if (unusable? path).isSome || path.namesDirectory then (disk, false)
  else
    match path.components.getLast?, disk.follow (disk.start path) path.components with
    | some name, .ok place =>
      if name = [Path.dot] || name = [Path.dot, Path.dot] then (disk, false)
      else
        match disk.entry? place with
        | some .directory => (disk, false)
        | _ => (disk.put place (.file content), true)
    | _, _ => (disk, false)

/-- Writes a whole file and makes the directories above it first. -/
def write (disk : Disk) (path : Path) (content : Bytes) : Disk × Bool :=
  match disk.makeDirectory path.parent with
  | (changed, true) => changed.writeFile path content
  | (changed, false) => (changed, false)

/-- Removes a file. -/
def remove (disk : Disk) (path : Path) : Disk × Bool :=
  match disk.locate path with
  | .ok (place, .file _) => (disk.erase place, true)
  | _ => (disk, false)

end Disk

end ImageRefs
