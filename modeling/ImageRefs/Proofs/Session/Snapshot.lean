import ImageRefs.Proofs.Metadata.Loading
import ImageRefs.Proofs.Session.Identity

/-!
What references take from a disk that changes. The documentation of a file is read once and then
stays as it was found; the image is read anew each time.
-/

set_option autoImplicit false

namespace ImageRefs

open Documentation Text

/-! ### Documentation files -/

namespace Documentation

variable {disk : Disk} {path : Path} {members : Members}

/-- The path leads to a file that can be read, is UTF-8, and has members as its content. -/
def Holds (disk : Disk) (path : Path) (members : Members) : Prop :=
  ∃ bytes text, disk.read path = .ok bytes ∧ Utf8.decode bytes = .ok text ∧
    parse (String.ofList (dropMark text)) = .ok members

/-- The path leads to nothing. -/
def Missing (disk : Disk) (path : Path) : Prop :=
  ∃ error, disk.read path = .error error ∧ error.isNotFound = true

theorem parseBytes_eq_ok_iff {bytes : Bytes} :
    parseBytes bytes = .ok members ↔
      ∃ text, Utf8.decode bytes = .ok text ∧ parse (String.ofList (dropMark text)) = .ok members := by
  cases decoded : Utf8.decode bytes with
  | error failure => simp [parseBytes, readBytes, decoded, Except.mapError]
  | ok text => simp [parseBytes, readBytes, parse, decoded]

theorem parseBytes_ne_notFound (bytes : Bytes) (name : Option String) :
    parseBytes bytes ≠ .error (.notFound name) := by
  intro missing
  unfold parseBytes at missing
  cases read : readBytes bytes with
  | error fault =>
    rw [read] at missing
    cases missing
  | ok members =>
    rw [read] at missing
    cases missing

theorem parseFile_eq_ok_iff : parseFile disk path = .ok members ↔ Holds disk path members := by
  unfold parseFile Holds
  cases disk.read path with
  | error error => simp
  | ok bytes => simp [parseBytes_eq_ok_iff]

theorem parseFile_notFound_iff :
    (∃ name, parseFile disk path = .error (.notFound name)) ↔ Missing disk path := by
  unfold parseFile Missing
  cases disk.read path with
  | error error => cases missing : error.isNotFound <;> simp [LoadError.ofIo, missing]
  | ok bytes => simp [parseBytes_ne_notFound]

end Documentation

def warnings (events : List Event) : List Event :=
  events.filter (·.level = .warn)

namespace FileImage

variable {image : FileImage} {disk : Disk}

/-- The provider for the documentation that a disk has for an image, and the warnings about it. -/
inductive Finds (image : FileImage) (disk : Disk) : Provider → List Event → Prop where
  | unwanted (lookup : image.lookup = .none) : Finds image disk .nothing []
  | read {path : Path} {members : Members} (place : image.documentationPath? = some path)
      (holds : Holds disk path members) : Finds image disk (.read members) []
  | missing {path : Path} (place : image.documentationPath? = some path)
      (missing : Missing disk path) : Finds image disk .nothing []
  | ignored {path : Path} {failure : LoadError} (place : image.documentationPath? = some path)
      (present : ¬Missing disk path) (invalid : ∀ members, ¬Holds disk path members)
      (failed : parseFile disk path = .error failure) :
      Finds image disk .nothing [.documentationIgnored path failure]

theorem documentationPath?_eq_none_iff :
    image.documentationPath? = none ↔ image.lookup = .none := by
  unfold documentationPath?
  cases image.lookup <;> simp

theorem documentation_of_parsed {path : Path} {members : Members}
    (place : image.documentationPath? = some path) (parsed : parseFile disk path = .ok members) :
    image.documentation disk =
      (.fresh (.read members), [.documentationLoaded path members.size]) := by
  simp [documentation, place, parsed]

theorem documentation_of_missing {path : Path} {name : Option String}
    (place : image.documentationPath? = some path)
    (failed : parseFile disk path = .error (.notFound name)) :
    image.documentation disk = (.nothing, []) := by
  simp [documentation, place, failed]

theorem documentation_of_invalid {path : Path} {failure : LoadError}
    (place : image.documentationPath? = some path) (failed : parseFile disk path = .error failure)
    (other : ∀ name, failure ≠ .notFound name) :
    image.documentation disk = (.nothing, [.documentationIgnored path failure]) := by
  cases failure with
  | notFound name => exact absurd rfl (other name)
  | malformed message reportedAt => simp [documentation, place, failed]
  | io error => simp [documentation, place, failed]
  | unexpected message => simp [documentation, place, failed]

/-- Whatever stands for the candidate of the image is what the disk has for it. -/
theorem finds_documentation {fresh : Nat} {object : Object Provider}
    (stands : (image.documentation disk).1.StandsFor fresh object) :
    image.Finds disk object.value (warnings (image.documentation disk).2) := by
  cases place : image.documentationPath? with
  | none =>
    rw [documentation, place] at stands ⊢
    rw [stands.2]
    exact .unwanted (documentationPath?_eq_none_iff.mp place)
  | some path =>
    cases parsed : parseFile disk path with
    | ok members =>
      rw [documentation_of_parsed place parsed] at stands ⊢
      rw [stands.2]
      exact .read place (parseFile_eq_ok_iff.mp parsed)
    | error failure =>
      by_cases missing : ∃ name, failure = .notFound name
      · obtain ⟨name, rfl⟩ := missing
        rw [documentation_of_missing place parsed] at stands ⊢
        rw [stands.2]
        exact .missing place (parseFile_notFound_iff.mp ⟨name, parsed⟩)
      · rw [documentation_of_invalid place parsed fun name same => missing ⟨name, same⟩]
          at stands ⊢
        rw [stands.2]
        refine .ignored place ?_ ?_ parsed
        · rintro absent
          obtain ⟨name, failed⟩ := parseFile_notFound_iff.mpr absent
          exact missing ⟨name, Except.error.inj (parsed.symm.trans failed)⟩
        · intro members holds
          rw [parseFile_eq_ok_iff.mpr holds] at parsed
          cases parsed

end FileImage

/-! ### Work on a disk that changes -/

/-- An action, or a change of the disk by something else. -/
inductive Move where
  | act (a : Action)
  | disk (disk : Disk)

namespace Session

variable {s after : Session} {id next last : RefId} {r : Reference} {object : Object Provider}

def move (s : Session) : Move → Session
  | .act a => (s.act a).2
  | .disk disk => { s with disk }

def moves (s : Session) (ms : List Move) : Session :=
  ms.foldl move s

theorem move_later (m : Move) (found : s.reference? id = some r) :
    ∃ later, (s.move m).reference? id = some later ∧ r.Later later := by
  cases m with
  | act a => exact act_later a found
  | disk disk => exact ⟨r, found, .refl r⟩

theorem moves_later (ms : List Move) (found : s.reference? id = some r) :
    ∃ later, (s.moves ms).reference? id = some later ∧ r.Later later := by
  induction ms generalizing s r with
  | nil => exact ⟨r, found, .refl r⟩
  | cons m ms ih =>
    obtain ⟨middle, found, one⟩ := move_later m found
    obtain ⟨later, found, other⟩ := ih found
    exact ⟨later, found, one.trans other⟩

/-- From a reference to one that was made from it by updates, with other moves in between. -/
inductive Descends : Session → RefId → Session → RefId → Prop where
  | same (s : Session) (id : RefId) : Descends s id s id
  | meanwhile {s after : Session} {id last : RefId} (m : Move)
      (rest : Descends (s.move m) id after last) : Descends s id after last
  | update {s after : Session} {id next last : RefId} (u : Update)
      (given : (s.act (u.action id)).1 = .reference (.ok next))
      (rest : Descends (s.act (u.action id)).2 next after last) : Descends s id after last

theorem Descends.inherits (descends : Descends s id after last)
    (found : s.reference? id = some r) (bound : r.documentation? = some object) :
    ∃ later, after.reference? last = some later ∧ later.documentation? = some object := by
  -- The object goes along: moves leave it where it is, and an update hands it on.
  induction descends generalizing r with
  | same s id => exact ⟨r, found, bound⟩
  | meanwhile m rest ih =>
    obtain ⟨later, found, kept⟩ := move_later m found
    exact ih found (kept.documentation object bound)
  | update u given rest ih => exact ih (reference?_of_update found given) bound

/-! ### Documentation -/

/-- The first request for the documentation of a file reads what the disk has then. -/
theorem documentation_finds {image : FileImage} (s : Session) (id : RefId)
    (file : r.source.value = .file image) :
    ∃ events, (s.documentation id r).2.log = s.log ++ events ∧
      (r.documentation? = none →
        image.Finds s.disk (s.documentation id r).1.value (warnings events)) := by
  cases place : r.documentation? with
  | some object =>
    refine ⟨[], ?_, nofun⟩
    rw [documentation_bound place, List.append_nil]
  | none =>
    obtain ⟨object, fresh, same, stands, -⟩ := documentation_unbound s id place
    rw [offered, file] at stands same
    rw [same]
    refine ⟨_, rfl, fun _ => ?_⟩
    -- What the binder reports is no warning.
    have silent : warnings [.providerBound object.value.isEmpty] = [] := rfl
    rw [warnings, List.filter_append, ← warnings, ← warnings, silent, List.append_nil]
    exact FileImage.finds_documentation stands

/-- A file without documentation is given its provider whatever the disk is. -/
theorem documentation_unwanted {image : FileImage} (found : s.reference? id = some r)
    (file : r.source.value = .file image) (lookup : image.lookup = .none) (disk : Disk) :
    ({ s with disk }).act (.documentation id) =
      ((s.act (.documentation id)).1, { (s.act (.documentation id)).2 with disk }) := by
  have there : ({ s with disk } : Session).reference? id = some r := found
  rw [act_documentation found, act_documentation there]
  cases place : r.documentation? with
  | some object => rw [documentation_bound place, documentation_bound place]
  | none =>
    have nowhere := FileImage.documentationPath?_eq_none_iff.mpr lookup
    simp [documentation, place, findDocumentation, file, Source.documentation,
      FileImage.documentation, nowhere]

/-! ### Images -/

theorem act_metadata (found : s.reference? id = some r) :
    (s.act (.metadata id)).1 =
      .metadata (r.source.value.load s.disk (s.loads r.source.id) r.properties) := by
  simp [act, onReference, found, metadata, loadImage, Prod.map]

theorem act_metadata_file {image : FileImage} (found : s.reference? id = some r)
    (file : r.source.value = .file image) :
    (s.act (.metadata id)).1 =
      .metadata (Metadata.ofFile s.disk r.properties.kind image.path image.memoryMap) := by
  rw [act_metadata found, file]
  rfl

/-- A request for the documentation of a file is always answered. The first one binds what the disk
has at that moment, with a warning only if there is something that is not documentation; if no
documentation is wanted, the disk makes no difference. From then on the reference and all that are
made from it give the same object, however the disk changes. The image is what the disk has at the
moment of each request, whatever happened before. -/
theorem documentation_stays_and_image_is_read_anew (s : Session) (id : RefId) (r : Reference)
    (image : FileImage) (found : s.reference? id = some r)
    (file : r.source.value = .file image) :
    (∃ object asked events,
      s.act (.documentation id) = (.provider object, asked) ∧ asked.log = s.log ++ events ∧
      asked.reference? id = some { r with documentation? := some object } ∧
      (∀ bound, r.documentation? = some bound → object = bound ∧ asked = s) ∧
      (r.documentation? = none → image.Finds s.disk object.value (warnings events)) ∧
      (image.lookup = .none → ∀ disk,
        ({ s with disk }).act (.documentation id) = (.provider object, { asked with disk })) ∧
      ∀ after last, Descends asked id after last →
        after.act (.documentation last) = (.provider object, after)) ∧
    ∀ ms, ∃ loaded, ((s.moves ms).act (.metadata id)).1 = .metadata loaded ∧
      loaded = Metadata.ofFile (s.moves ms).disk r.properties.kind image.path image.memoryMap ∧
      Metadata.Loaded r.properties.kind image.path ((s.moves ms).disk.openFile image.path)
        loaded := by
  constructor
  · have asking := act_documentation found
    have bound := bound_of_documentation found
    obtain ⟨events, log, finds⟩ := documentation_finds s id file
    refine ⟨_, _, events, asking, log, bound, ?_, finds, ?_, ?_⟩
    · intro object place
      rw [documentation_bound place]
      exact ⟨rfl, rfl⟩
    · intro lookup disk
      rw [documentation_unwanted found file lookup disk, asking]
    · intro after last descends
      obtain ⟨later, there, same⟩ := descends.inherits bound rfl
      exact act_documentation_bound there same
  · intro ms
    obtain ⟨later, there, kept⟩ := moves_later ms found
    have loads := act_metadata_file there ((congrArg _ kept.source).trans file)
    rw [kept.properties] at loads
    exact ⟨_, loads, rfl, Metadata.loaded_ofOpened _ _ _ _⟩

/-- An image without documentation, which is given some only after it was asked for, and is written
only then as well. -/
theorem missing_documentation_stays_missing :
    let image : FileImage := { path := ⟨[0x61]⟩, lookup := .path ⟨[0x62]⟩ }
    let s := ({ disk := .empty [] } : Session).run
      [.makeSource (.file image), .create 0 (some image.path) .assembly]
    let asked := (s.act (.documentation ⟨0⟩)).2
    let disk := ((Disk.empty []).put [[0x61]] (.file [0x4D, 0x5A])).put [[0x62]]
      (.file [0x3C, 0x61, 0x2F, 0x3E])
    let derived := (asked.move (.disk disk)).move (.act (.withEmbedInteropTypes ⟨0⟩ true))
    Missing s.disk ⟨[0x62]⟩ ∧ Holds disk ⟨[0x62]⟩ {} ∧
      (s.act (.documentation ⟨0⟩)).1 = .provider ⟨1, .nothing⟩ ∧
      derived.act (.documentation ⟨1⟩) = (.provider ⟨1, .nothing⟩, derived) ∧
      (s.act (.metadata ⟨0⟩)).1 = .metadata (.error (.notFound (some image.path.shown))) ∧
      (derived.act (.metadata ⟨0⟩)).1 = .metadata (.ok ⟨.assembly, [0x4D, 0x5A]⟩) := by
  intro image s asked disk derived
  let r : Reference := ⟨⟨0, .file image⟩, some image.path, .assembly, none⟩
  have found : s.reference? ⟨0⟩ = some r := rfl
  obtain ⟨⟨object, after, events, asks, -, -, -, -, -, stays⟩, anew⟩ :=
    documentation_stays_and_image_is_read_anew s ⟨0⟩ r image found rfl
  have first : (s.act (.documentation ⟨0⟩)).1 = .provider ⟨1, .nothing⟩ := rfl
  obtain rfl : asked = after := congrArg Prod.snd asks
  obtain rfl : ⟨1, .nothing⟩ = object :=
    Answer.provider.inj (first.symm.trans (congrArg Prod.fst asks))
  have derives : Descends asked ⟨0⟩ derived ⟨1⟩ :=
    .meanwhile (.disk disk) (.update (.embedInteropTypes true) rfl (.same _ _))
  have holds : Holds disk ⟨[0x62]⟩ {} := by
    refine ⟨[0x3C, 0x61, 0x2F, 0x3E], ['<', 'a', '/', '>'], rfl, ?_, ?_⟩
    · decide +kernel
    · decide +kernel
  refine ⟨⟨_, rfl, rfl⟩, holds, first, stays derived ⟨1⟩ derives, ?_, ?_⟩
  · obtain ⟨loaded, answer, -, loads⟩ := anew []
    rw [loads.notFound_iff.mpr ⟨rfl, _, rfl, rfl⟩] at answer
    exact answer
  · obtain ⟨loaded, answer, -, loads⟩ :=
      anew [.act (.documentation ⟨0⟩), .disk disk, .act (.withEmbedInteropTypes ⟨0⟩ true)]
    rw [loads.eq_ok_iff.mpr ⟨[0x4D, 0x5A], rfl, by simp, rfl⟩] at answer
    exact answer

end Session

end ImageRefs
