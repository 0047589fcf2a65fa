import ImageRefs.Metadata

/-!
Loading an image from a file. Mapping the content and reading it come to the same image or to
failures of the same kind, and whatever is loaded is not empty.
-/

set_option autoImplicit false

namespace ImageRefs

/-! ### Failures of one kind -/

/-- What is missing and what is wrong with data is told alike; the errors of the system need not be
the same. -/
inductive LoadError.Alike : LoadError → LoadError → Prop where
  | malformed (message : String) (reportedAt : Option CodePosition) :
      Alike (.malformed message reportedAt) (.malformed message reportedAt)
  | notFound (name : Option String) : Alike (.notFound name) (.notFound name)
  | io (one other : IoError) : Alike (.io one) (.io other)

/-- Two loads with the same image, or with failures of one kind. -/
def SameLoad (one other : Except LoadError Metadata) : Prop :=
  (∃ m, one = .ok m ∧ other = .ok m) ∨
    ∃ failure failure', one = .error failure ∧ other = .error failure' ∧ failure.Alike failure'

namespace Metadata

/-! ### What a path opens to -/

def emptyFile (path : Path) : String :=
  s!"File '{path.shown}' is empty"

/-- What is loaded from a path, by how the path opens. A directory cannot be loaded, and it does
not matter here which error says so. -/
inductive Loaded (kind : ImageKind) (path : Path) :
    Except IoError Entry → Except LoadError Metadata → Prop where
  | missing {error : IoError} (notFound : error.isNotFound = true) :
      Loaded kind path (.error error) (.error (.notFound (some path.shown)))
  | unopened {error : IoError} (found : error.isNotFound = false) :
      Loaded kind path (.error error) (.error (.io error))
  | empty : Loaded kind path (.ok (.file [])) (.error (.found (emptyFile path)))
  | file {content : Bytes} (some : content ≠ []) :
      Loaded kind path (.ok (.file content)) (.ok ⟨kind, content⟩)
  | directory (error : IoError) : Loaded kind path (.ok .directory) (.error (.io error))

variable {kind : ImageKind} {path : Path} {opened : Except IoError Entry}
  {loaded other : Except LoadError Metadata}

theorem loaded_ofOpened (opened : Except IoError Entry) (kind : ImageKind) (path : Path)
    (memoryMap : Bool) : Loaded kind path opened (ofOpened opened kind path memoryMap) := by
  cases opened with
  | error error =>
    have failed : ofOpened (.error error) kind path memoryMap =
        .error (.ofIo error (some path)) := rfl
    rw [failed]
    cases missing : error.isNotFound with
    | true => simpa [LoadError.ofIo, missing] using Loaded.missing missing
    | false => simpa [LoadError.ofIo, missing] using Loaded.unopened missing
  | ok entry =>
    cases entry with
    | directory => cases memoryMap <;> exact .directory _
    | file content =>
      -- An empty file is refused before the two ways of loading part.
      cases content with
      | nil => exact .empty
      | cons b rest => cases memoryMap <;> exact .file (by simp)

namespace Loaded

theorem same (one : Loaded kind path opened loaded) (another : Loaded kind path opened other) :
    SameLoad loaded other := by
  cases one with
  | missing notFound =>
    cases another with
    | missing _ => exact Or.inr ⟨_, _, rfl, rfl, .notFound _⟩
    | unopened found => exact absurd notFound (by simp [found])
  | unopened found =>
    cases another with
    | missing notFound => exact absurd notFound (by simp [found])
    | unopened _ => exact Or.inr ⟨_, _, rfl, rfl, .io _ _⟩
  | empty =>
    cases another with
    | empty => exact Or.inr ⟨_, _, rfl, rfl, .malformed _ _⟩
    | file some => exact absurd rfl some
  | file some =>
    cases another with
    | empty => exact absurd rfl some
    | file _ => exact Or.inl ⟨_, rfl, rfl⟩
  | directory error =>
    cases another
    exact Or.inr ⟨_, _, rfl, rfl, .io _ _⟩

theorem eq_ok_iff (h : Loaded kind path opened loaded) {m : Metadata} :
    loaded = .ok m ↔ ∃ content, opened = .ok (.file content) ∧ content ≠ [] ∧
      m = ⟨kind, content⟩ := by
  cases h with
  | missing notFound => simp
  | unopened found => simp
  | empty => simp
  | directory error => simp
  | file some =>
    constructor
    · intro same
      cases same
      exact ⟨_, rfl, some, rfl⟩
    · rintro ⟨content, same, -, rfl⟩
      cases same
      rfl

theorem notFound_iff (h : Loaded kind path opened loaded) {name : Option String} :
    loaded = .error (.notFound name) ↔
      name = some path.shown ∧ ∃ error, opened = .error error ∧ error.isNotFound = true := by
  cases h with
  | missing notFound =>
    constructor
    · intro same
      cases same
      exact ⟨rfl, _, rfl, notFound⟩
    · rintro ⟨rfl, -⟩
      rfl
  | unopened found => simp [found]
  | empty => simp [LoadError.found]
  | directory error => simp
  | file some => simp

theorem expected (h : Loaded kind path opened loaded) (message : String) :
    loaded ≠ .error (.unexpected message) := by
  cases h <;> simp [LoadError.found]

end Loaded

/-! ### Mapping alone -/

end Metadata

end ImageRefs
