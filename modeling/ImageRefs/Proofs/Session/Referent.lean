import ImageRefs.Proofs.Session.Snapshot

/-!
What updates leave alone. A reference that was made by updates stands for the image of the reference
it was made from, and loads it from the same place; of its properties only the kind is looked at.
-/

set_option autoImplicit false

namespace ImageRefs

open Documentation

/-! ### Loading as another kind -/

/-- Failures of one variant, whatever they say. -/
inductive LoadError.SameVariant : LoadError → LoadError → Prop where
  | malformed (one other : String) (reportedAt reportedAt' : Option CodePosition) :
      SameVariant (.malformed one reportedAt) (.malformed other reportedAt')
  | notFound (one other : Option String) : SameVariant (.notFound one) (.notFound other)
  | io (one other : IoError) : SameVariant (.io one) (.io other)
  | unexpected (one other : String) : SameVariant (.unexpected one) (.unexpected other)

/-- The outcome of a load, and that of a load of the same data as an image of the kind. -/
inductive LoadsAs (kind : ImageKind) :
    Except LoadError Metadata → Except LoadError Metadata → Prop where
  | image (m : Metadata) : LoadsAs kind (.ok m) (.ok { m with kind })
  | failure {one other : LoadError} (same : one.SameVariant other) :
      LoadsAs kind (.error one) (.error other)

namespace Metadata

theorem Loaded.loadsAs {kind kind' : ImageKind} {path : Path} {opened : Except IoError Entry}
    {one other : Except LoadError Metadata} (first : Loaded kind path opened one)
    (second : Loaded kind' path opened other) : LoadsAs kind' one other := by
  cases first with
  | missing notFound =>
    cases second with
    | missing _ => exact .failure (.notFound _ _)
    | unopened found => exact absurd notFound (by simp [found])
  | unopened found =>
    cases second with
    | missing notFound => exact absurd notFound (by simp [found])
    | unopened _ => exact .failure (.io _ _)
  | empty =>
    cases second with
    | empty => exact .failure (.malformed _ _ _ _)
    | file some => exact absurd rfl some
  | @file content some =>
    cases second with
    | empty => exact absurd rfl some
    | file _ => exact .image ⟨kind, content⟩
  | directory error =>
    cases second
    exact .failure (.io _ _)

theorem loadsAs_ofBytes (kind kind' : ImageKind) (image : Bytes) :
    LoadsAs kind' (ofBytes kind image) (ofBytes kind' image) := by
  cases image with
  | nil => exact .failure (.malformed _ _ _ _)
  | cons b rest => exact .image ⟨kind, b :: rest⟩

end Metadata

namespace Source

variable {source : Source} {p q : Properties}

theorem display_of_kind (builtIn : source.isCustom = false) (same : q.kind = p.kind) :
    source.display q = source.display p := by
  cases source with
  | file image => rfl
  | memory image => simp only [display, MemoryImage.display, inMemoryDisplay, same]
  | custom source => cases builtIn

theorem loadsAs_load (builtIn : source.isCustom = false) (disk : Disk) (earlier earlier' : Nat) :
    LoadsAs q.kind (source.load disk earlier p) (source.load disk earlier' q) := by
  cases source with
  | file image =>
    exact (Metadata.loaded_ofOpened _ _ _ _).loadsAs (Metadata.loaded_ofOpened _ _ _ _)
  | memory image => exact Metadata.loadsAs_ofBytes p.kind q.kind image.data
  | custom source => cases builtIn

/-- A source that comes with the library looks at nothing but the kind, and keeps no count. -/
theorem load_of_kind (builtIn : source.isCustom = false) (same : q.kind = p.kind) (disk : Disk)
    (earlier earlier' : Nat) : source.load disk earlier' q = source.load disk earlier p := by
  cases source with
  | file image => simp only [load, same]
  | memory image => simp only [load, MemoryImage.load, same]
  | custom source => cases builtIn

end Source

/-! ### References to one image -/

/-- References with one source and one path; their properties may differ, and what is bound. -/
structure Reference.SameImage (r other : Reference) : Prop where
  source : other.source = r.source
  path? : other.path? = r.path?

namespace Reference

variable {r middle other : Reference}

theorem SameImage.trans (one : r.SameImage middle) (two : middle.SameImage other) :
    r.SameImage other where
  source := two.source.trans one.source
  path? := two.path?.trans one.path?

theorem Later.sameImage (later : r.Later other) : r.SameImage other where
  source := later.source
  path? := later.path?

theorem SameImage.display_of_path (same : r.SameImage other) {path : Path}
    (place : r.path? = some path) : other.display = r.display := by
  simp only [display, same.path?, place]

theorem SameImage.display_of_kind (same : r.SameImage other)
    (builtIn : r.source.value.isCustom = false) (kind : other.properties.kind = r.properties.kind) :
    other.display = r.display := by
  simp only [display, same.path?, same.source, Source.display_of_kind builtIn kind]

end Reference

namespace Session

variable {s after : Session} {id last : RefId} {r : Reference}

theorem act_diagnoseReference (found : s.reference? id = some r) (failure : LoadError)
    (catalog : Catalog) (location : Location) :
    (s.act (.diagnoseReference id failure catalog location)).1 =
      .diagnostic (failure.diagnose catalog location r.display r.properties.kind) := by
  simp only [act, onReference, found, diagnoseReference, diagnose]
  cases failure.diagnose catalog location r.display r.properties.kind <;> rfl

/-- Whatever is done on the way, a reference that was there before is there afterwards. -/
theorem Descends.later {other : RefId} (descends : Descends s id after last)
    (found : s.reference? other = some r) :
    ∃ later, after.reference? other = some later ∧ r.Later later := by
  induction descends generalizing r with
  | same s id => exact ⟨r, found, .refl r⟩
  | meanwhile m rest ih =>
    obtain ⟨middle, there, kept⟩ := move_later m found
    obtain ⟨later, still, stays⟩ := ih there
    exact ⟨later, still, kept.trans stays⟩
  | @update s after id next last u given rest ih =>
    obtain ⟨middle, there, kept⟩ := act_later (u.action id) found
    obtain ⟨later, still, stays⟩ := ih there
    exact ⟨later, still, kept.trans stays⟩

/-- No update leads away from the image, since each hands on the source and the path. -/
theorem Descends.sameImage (descends : Descends s id after last)
    (found : s.reference? id = some r) :
    ∃ r', after.reference? last = some r' ∧ r.SameImage r' := by
  induction descends generalizing r with
  | same s id => exact ⟨r, found, rfl, rfl⟩
  | meanwhile m rest ih =>
    obtain ⟨middle, there, kept⟩ := move_later m found
    obtain ⟨r', reached, same⟩ := ih there
    exact ⟨r', reached, kept.sameImage.trans same⟩
  | update u given rest ih =>
    obtain ⟨r', reached, same⟩ := ih (reference?_of_update found given)
    exact ⟨r', reached, same.source, same.path?⟩

/-- However many updates lead from a reference to another, both have the same source and path, and
are shown alike if they have a path. Over the sources that come with the library they load the same
bytes from any disk, each as an image of its kind, or fail in the same way; and where the kinds are
the same, nothing else about the properties shows in the display, the load or a diagnostic. -/
theorem updates_keep_referent (s after : Session) (id last : RefId) (r : Reference)
    (found : s.reference? id = some r) (descends : Descends s id after last) :
    ∃ r', after.reference? last = some r' ∧ r'.source = r.source ∧ r'.path? = r.path? ∧
      (∀ path, r.path? = some path → r'.display = r.display) ∧
      (r.source.value.isCustom = false →
        (∀ disk, ∃ one other,
          (({ s with disk }).act (.metadata id)).1 = .metadata one ∧
          (({ after with disk }).act (.metadata id)).1 = .metadata one ∧
          (({ after with disk }).act (.metadata last)).1 = .metadata other ∧
          LoadsAs r'.properties.kind one other ∧
          (r'.properties.kind = r.properties.kind → other = one)) ∧
        (r'.properties.kind = r.properties.kind → r'.display = r.display ∧
          ∀ failure catalog location,
            (after.act (.diagnoseReference last failure catalog location)).1 =
              (after.act (.diagnoseReference id failure catalog location)).1)) := by
  obtain ⟨r', reached, same⟩ := descends.sameImage found
  obtain ⟨later, still, stays⟩ := descends.later found
  refine ⟨r', reached, same.source, same.path?, fun path => same.display_of_path, ?_⟩
  intro builtIn
  constructor
  · intro disk
    have before : ({ s with disk } : Session).reference? id = some r := found
    have first : ({ after with disk } : Session).reference? id = some later := still
    have second : ({ after with disk } : Session).reference? last = some r' := reached
    refine ⟨_, _, act_metadata before, ?_, act_metadata second, ?_, ?_⟩
    · rw [act_metadata first, stays.source, stays.properties,
        Source.load_of_kind builtIn rfl disk (s.loads r.source.id)]
      rfl
    · rw [same.source]
      exact Source.loadsAs_load builtIn disk _ _
    · intro kind
      rw [same.source]
      exact Source.load_of_kind builtIn kind disk _ _
  · intro kind
    have shown : r'.display = r.display := same.display_of_kind builtIn kind
    refine ⟨shown, fun failure catalog location => ?_⟩
    have shownLater : later.display = r.display :=
      stays.sameImage.display_of_kind builtIn (congrArg _ stays.properties)
    rw [act_diagnoseReference reached, act_diagnoseReference still, shown, shownLater, kind,
      stays.properties]

/-- An empty image that becomes a module: it is shown and refused in other words, but from the same
source and with a failure of the same variant. -/
theorem empty_image_stays_malformed :
    let s := ({ disk := .empty [] } : Session).run
      [.makeSource (.memory { data := [] }), .create 0 none .assembly]
    let after := (s.act (.withProperties ⟨0⟩ .module)).2
    let assembly : LoadError := .found "Provided assembly image was empty"
    let module : LoadError := .found "Provided module image was empty"
    ∃ r r', s.reference? ⟨0⟩ = some r ∧ Descends s ⟨0⟩ after ⟨1⟩ ∧
      r.source.value.isCustom = false ∧ after.reference? ⟨1⟩ = some r' ∧ r'.source = r.source ∧
      r.display = "<in-memory assembly>" ∧ r'.display = "<in-memory module>" ∧
      (after.act (.metadata ⟨0⟩)).1 = .metadata (.error assembly) ∧
      (after.act (.metadata ⟨1⟩)).1 = .metadata (.error module) ∧
      LoadsAs .module (.error assembly) (.error module) := by
  intro s after assembly module
  let r : Reference := ⟨⟨0, .memory { data := [] }⟩, none, .assembly, none⟩
  have found : s.reference? ⟨0⟩ = some r := rfl
  have given : (s.act (.withProperties ⟨0⟩ .module)).1 = .reference (.ok ⟨1⟩) := rfl
  have descends : Descends s ⟨0⟩ after ⟨1⟩ := .update (.properties .module) given (.same _ _)
  obtain ⟨r', reached, source, -, -, builtIn⟩ :=
    updates_keep_referent s after ⟨0⟩ ⟨1⟩ r found descends
  have made : after.reference? ⟨1⟩ = some (r.withProperties .module) := rfl
  obtain rfl := Option.some.inj (made.symm.trans reached)
  have first : (after.act (.metadata ⟨0⟩)).1 = .metadata (.error assembly) := rfl
  have second : (after.act (.metadata ⟨1⟩)).1 = .metadata (.error module) := rfl
  obtain ⟨one, other, -, loads, loads', as, -⟩ := (builtIn rfl).1 after.disk
  obtain rfl := Answer.metadata.inj (loads.symm.trans first)
  obtain rfl := Answer.metadata.inj (loads'.symm.trans second)
  exact ⟨r, _, found, descends, rfl, reached, source, by decide, by decide, first, second, as⟩

end Session

end ImageRefs
