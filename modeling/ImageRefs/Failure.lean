import ImageRefs.OsError
import ImageRefs.Path

/-!
What can go wrong when an image or its documentation is loaded. A failure is a cause; its
wording is in `message` and `shown`.
-/

set_option autoImplicit false

namespace ImageRefs

/-- The kinds of input and output errors that are told apart. -/
inductive IoKind where
  | notFound
  | permissionDenied
  | alreadyExists
  | wouldBlock
  | invalidInput
  | invalidData
  | timedOut
  | interrupted
  | unsupported
  | unexpectedEof
  | outOfMemory
  | notADirectory
  | isADirectory
  | storageFull
  | other
  deriving DecidableEq, Repr

def IoKind.text : IoKind → String
  | .notFound => "entity not found"
  | .permissionDenied => "permission denied"
  | .alreadyExists => "entity already exists"
  | .wouldBlock => "operation would block"
  | .invalidInput => "invalid input parameter"
  | .invalidData => "invalid data"
  | .timedOut => "timed out"
  | .interrupted => "operation interrupted"
  | .unsupported => "unsupported"
  | .unexpectedEof => "unexpected end of file"
  | .outOfMemory => "out of memory"
  | .notADirectory => "not a directory"
  | .isADirectory => "is a directory"
  | .storageFull => "no storage space"
  | .other => "other error"

inductive IoError where
  /-- Reported by the operating system. -/
  | system (error : OsError)
  /-- Reported by a library, with its own text or the usual one of the kind. -/
  | reported (kind : IoKind) (text? : Option String)
  deriving DecidableEq, Repr

namespace IoError

def isNotFound : IoError → Bool
  | .system error => error == .noEntry
  | .reported kind _ => kind == .notFound

theorem isNotFound_iff {error : IoError} :
    error.isNotFound = true ↔
      error = .system .noEntry ∨ ∃ text?, error = .reported .notFound text? := by
  cases error with
  | system error => simp [isNotFound]
  | reported kind text? => simp [isNotFound]

def message : IoError → String
  | .system error => s!"{error.text} (os error {error.number})"
  | .reported kind text? => text?.getD kind.text

end IoError

/-- A line of the program that found a fault. -/
structure CodePosition where
  file : String
  line : Nat
  deriving DecidableEq, Repr

inductive LoadError where
  /-- The data was read but is not what it should be. -/
  | malformed (message : String) (reportedAt : Option CodePosition)
  | notFound (name : Option String)
  | io (error : IoError)
  /-- A fault of the loader itself. -/
  | unexpected (message : String)
  deriving DecidableEq, Repr

namespace LoadError

/-- What stands for the name of something that was not found and has no name. -/
def unknownName : String := "<unknown>"

/-- The text of a failure that stands alone. -/
def shown : LoadError → String
  | .malformed message none => s!"Malformed - {message}"
  | .malformed message (some ⟨file, line⟩) => s!"Malformed - {file}:{line}: {message}"
  | .notFound name => s!"Could not find '{name.getD unknownName}'"
  | .io error => error.message
  | .unexpected message => s!"Unexpected fault - {message}"

/-- The text of a failure inside a diagnostic, which says itself what kind of failure it is. -/
def message : LoadError → String
  | .malformed message _ => message
  | .io error => error.message
  | failure => failure.shown

/-- Everything but a fault of the loader itself. -/
def isRecognized : LoadError → Bool
  | .unexpected _ => false
  | _ => true

/-- A failure that the library itself found. -/
def found (message : String) : LoadError :=
  .malformed message none

/-- A missing file is told apart from all other errors, and keeps the path it was looked for by. -/
def ofIo (error : IoError) (path? : Option Path) : LoadError :=
  if error.isNotFound then .notFound (path?.map Path.shown) else .io error

end LoadError

end ImageRefs
