import ImageRefs.Proofs.Session.Identity

/-!
The properties of every reference were accepted by its source. So it does no harm that an update to
the properties that there are does not ask the source again.
-/

set_option autoImplicit false

namespace ImageRefs

/-- The source has no rules of its own for properties. -/
def Source.ValidatesByDefault (source : Source) : Prop :=
  ∀ p, source.validate p = p.validate

theorem Source.ValidatesByDefault.file (image : FileImage) :
    (Source.file image).ValidatesByDefault := fun _ => rfl

theorem Source.ValidatesByDefault.memory (image : MemoryImage) :
    (Source.memory image).ValidatesByDefault := fun _ => rfl

def Reference.Accepted (r : Reference) : Prop :=
  r.source.value.validate r.properties = .ok ()

namespace Session

variable {s : Session} {id : RefId} {r : Reference} {p : Properties}

/-! ### Runs -/

theorem Change.accepted {a : Action} {references : List Reference}
    (change : Change s a references) (all : ∀ r ∈ s.references, r.Accepted) :
    ∀ r ∈ references, r.Accepted := by
  cases change with
  | none => exact all
  | created found accepted =>
    intro r member
    rcases List.mem_append.mp member with old | new
    · exact all r old
    · rw [List.mem_singleton.mp new]
      exact accepted
  | derived u found requested changed accepted =>
    intro r member
    rcases List.mem_append.mp member with old | new
    · exact all r old
    · rw [List.mem_singleton.mp new]
      exact accepted
  | bound found unbound =>
    intro r member
    rcases List.mem_or_eq_of_mem_set member with old | rfl
    · exact all r old
    · -- What is bound has the source and the properties that it had.
      have before := all _ (List.mem_of_getElem? found)
      exact before

theorem run_accepted (actions : List Action) (all : ∀ r ∈ s.references, r.Accepted) :
    ∀ r ∈ (s.run actions).references, r.Accepted := by
  induction actions generalizing s with
  | nil => exact all
  | cons a actions ih =>
    apply ih
    exact (act_effect s a).change.accepted all

/-! ### Updates without the shortcut -/

/-- The update as it is if the source is asked every time: a new reference, also if the properties
are the ones that there are. -/
def replaceProperties (s : Session) (r : Reference) (p : Properties) :
    Except Error RefId × Session :=
  match r.source.value.validate p with
  | .error error => (.error error, s)
  | .ok () => (.ok ⟨s.references.length⟩, s.derive r p)

/-- Two outcomes that report the same error, or give references that differ in nothing but their
identity. -/
structure Agree (one other : Except Error RefId × Session) : Prop where
  error : ∀ error, one.1 = .error error ↔ other.1 = .error error
  reference : ∀ first second, one.1 = .ok first → other.1 = .ok second →
    ∃ r, one.2.reference? first = some r ∧ other.2.reference? second = some r

theorem reference?_derive (s : Session) (r : Reference) (p : Properties) :
    (s.derive r p).reference? ⟨s.references.length⟩ = some (r.withProperties p) :=
  List.getElem?_concat_length

theorem withProperties_agrees (found : s.reference? id = some r) (accepted : r.Accepted)
    (p : Properties) : Agree (s.withProperties id r p) (s.replaceProperties r p) := by
  by_cases same : p = r.properties
  · subst same
    have kept : s.withProperties id r r.properties = (.ok id, s) := by simp [withProperties]
    have made : s.replaceProperties r r.properties =
        (.ok ⟨s.references.length⟩, s.derive r r.properties) := by
      rw [replaceProperties, accepted]
    rw [kept, made]
    refine ⟨by simp, ?_⟩
    rintro first second ⟨⟩ ⟨⟩
    exact ⟨r, found, reference?_derive s r r.properties⟩
  · -- Where the properties differ, the shortcut is not taken and both do the same.
    have path : s.withProperties id r p = s.replaceProperties r p := by
      simp only [withProperties, if_neg same, replaceProperties]
      cases r.source.value.validate p <;> rfl
    rw [path]
    refine ⟨fun _ => Iff.rfl, ?_⟩
    intro first second one other
    obtain rfl : first = second := Except.ok.inj (one.symm.trans other)
    cases checked : r.source.value.validate p with
    | error error => simp [replaceProperties, checked] at one
    | ok _ =>
      simp only [replaceProperties, checked, Except.ok.injEq] at one ⊢
      subst one
      exact ⟨_, reference?_derive s r p, reference?_derive s r p⟩

/-! ### Valid properties are taken -/

theorem createFrom_accepted {source : Source} (s : Session) (path? : Option Path)
    (accepted : source.validate p = .ok ()) :
    s.createFrom source path? p =
      (.ok ⟨s.references.length⟩, ((s.makeSource source).2.addReference
        { source := (s.makeSource source).1, path?, properties := p }).2) := by
  simp [createFrom, makeSource, create, addReference, accepted]

theorem createFrom_ok {source : Source} (usual : source.ValidatesByDefault)
    (accepted : p.validate = .ok ()) (s : Session) (path? : Option Path) :
    ∃ id, (s.createFrom source path? p).1 = .ok id ∧
      (s.createFrom source path? p).2.reference? id =
        some { source := ⟨s.fresh, source⟩, path?, properties := p } := by
  rw [createFrom_accepted s path? ((usual p).trans accepted)]
  exact ⟨_, rfl, List.getElem?_concat_length⟩

/-- An update succeeds if what it asks for is accepted. -/
theorem act_update_accepted (u : Update) (found : s.reference? id = some r)
    (requested : u.requested r.properties = .ok p) (accepted : r.source.value.validate p = .ok ()) :
    ∃ next, (s.act (u.action id)).1 = .reference (.ok next) := by
  by_cases same : p = r.properties
  · subst same
    exact ⟨id, congrArg Prod.fst (act_update_same u found requested)⟩
  · exact ⟨_, congrArg Prod.fst (act_update_changed u found requested same accepted)⟩

theorem act_withProperties_ok (found : s.reference? id = some r)
    (accepted : r.source.value.validate p = .ok ()) :
    ∃ next, (s.act (.withProperties id p)).1 = .reference (.ok next) ∧
      (s.act (.withProperties id p)).2.reference? next = some (r.withProperties p) := by
  obtain ⟨next, given⟩ := act_update_accepted (.properties p) found rfl accepted
  exact ⟨next, given, reference?_of_update found given⟩

/-- All properties that can be obtained are valid, and no source refuses them that has no rules of
its own, such as a file or an image in memory: they lead to a reference that has just these. In
every session the properties of a reference are accepted by its source; an update that does not ask
the source for them again agrees with one that does. -/
theorem obtainable_valid_and_held_accepted :
    (∀ p, Properties.Obtainable p → p.Valid ∧ p.validate = .ok ()) ∧
    (∀ p, Properties.Obtainable p → ∀ s : Session,
      (∀ image, ∃ id, (s.fromFile image p).1 = .ok id ∧
        (s.fromFile image p).2.reference? id =
          some { source := ⟨s.fresh, .file image⟩, path? := some image.path, properties := p }) ∧
      (∀ data, ∃ id, (s.fromBytes data p).1 = .ok id ∧
        (s.fromBytes data p).2.reference? id =
          some { source := ⟨s.fresh, .memory { data }⟩, path? := none, properties := p }) ∧
      (∀ image, ∃ id, (s.fromImage image p).1 = .ok id ∧
        (s.fromImage image p).2.reference? id =
          some { source := ⟨s.fresh, .memory image⟩, path? := none, properties := p }) ∧
      ∀ id r, s.reference? id = some r → r.source.value.ValidatesByDefault →
        ∃ next, (s.act (.withProperties id p)).1 = .reference (.ok next) ∧
          (s.act (.withProperties id p)).2.reference? next = some (r.withProperties p)) ∧
    ∀ (disk : Disk) (actions : List Action) (id : RefId) (r : Reference),
      let s := ({ disk } : Session).run actions
      s.reference? id = some r → r.source.value.validate r.properties = .ok () ∧
        ∀ p, Agree (s.withProperties id r p) (s.replaceProperties r p) := by
  refine ⟨?_, ?_, ?_⟩
  · intro p obtained
    exact ⟨obtained.valid, Properties.validate_eq_ok_iff.mpr obtained.valid⟩
  · intro p obtained s
    have accepted : p.validate = .ok () := Properties.validate_eq_ok_iff.mpr obtained.valid
    refine ⟨?_, ?_, ?_, ?_⟩
    · exact fun image => createFrom_ok (.file image) accepted s image.path
    · exact fun data => createFrom_ok (.memory { data }) accepted s none
    · exact fun image => createFrom_ok (.memory image) accepted s none
    · intro id r found usual
      exact act_withProperties_ok found ((usual p).trans accepted)
  · intro disk actions id r s found
    have start : ∀ r ∈ ({ disk } : Session).references, r.Accepted := by simp
    have accepted := run_accepted actions start r (List.mem_of_getElem? found)
    exact ⟨accepted, withProperties_agrees found accepted⟩

/-- An alias that the source of a reference reserves is refused with and without the shortcut,
though it is valid. -/
theorem reserved_alias_refused_alike :
    let strict : CustomSource := {
      validate := CustomSource.validateReserving ["A"]
      load := CustomSource.loadBytes []
      documentation := CustomSource.newProvider none }
    let s := ({ disk := .empty [] } : Session).run
      [.makeSource (.custom strict), .create 0 none .assembly]
    let r : Reference := { source := ⟨0, .custom strict⟩, path? := none, properties := .assembly }
    let named : Properties := ⟨.assembly, ["A"], false⟩
    Properties.Obtainable named ∧ named.Valid ∧ s.reference? ⟨0⟩ = some r ∧
      (∃ id, (s.fromBytes [77] named).1 = .ok id ∧
        (s.fromBytes [77] named).2.reference? id =
          some { source := ⟨1, .memory { data := [77] }⟩, path? := none, properties := named }) ∧
      r.source.value.validate r.properties = .ok () ∧
      Agree (s.withProperties ⟨0⟩ r named) (s.replaceProperties r named) ∧
      (s.withProperties ⟨0⟩ r named).1 =
        .error (.invalidAlias "A" (.refused "alias is reserved by this source")) := by
  intro strict s r named
  obtain ⟨valid, taken, held⟩ := obtainable_valid_and_held_accepted
  have given : Properties.assembly.withAliases ["A"] = .ok named := rfl
  have obtained : Properties.Obtainable named := .withAliases .assembly given
  have found : s.reference? ⟨0⟩ = some r := rfl
  obtain ⟨accepted, agree⟩ := held (.empty []) _ ⟨0⟩ r found
  exact ⟨obtained, (valid named obtained).1, found, (taken named obtained s).2.1 [77], accepted,
    agree named, rfl⟩

end Session

end ImageRefs
