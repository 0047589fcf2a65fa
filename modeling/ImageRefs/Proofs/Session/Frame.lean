import ImageRefs.Proofs.Session.Validation

/-!
What work with references leaves alone. A reference never changes, except that documentation is
bound to it when it is asked for; and what is refused leaves no trace.
-/

set_option autoImplicit false

namespace ImageRefs

theorem Update.isConfiguration_of_requested {u : Update} {p : Properties} {error : Error}
    (refused : u.requested p = .error error) : error.isConfiguration = true := by
  cases u with
  | properties all => cases refused
  | aliases names =>
    exact Properties.isConfiguration_of_validate (Properties.checked_eq_error refused)
  | embedInteropTypes value =>
    exact Properties.isConfiguration_of_validate (Properties.checked_eq_error refused)

theorem Source.ValidatesByDefault.isConfiguration {source : Source} {p : Properties}
    {error : Error} (usual : source.ValidatesByDefault)
    (refused : source.validate p = .error error) : error.isConfiguration = true := by
  rw [usual p] at refused
  exact Properties.isConfiguration_of_validate refused

/-! ### References over sources of their own -/

/-- The ways to make a reference together with its source. -/
inductive Construction where
  | new (source : Source) (path? : Option Path)
  | file (image : FileImage)
  | memory (image : MemoryImage)
  | bytes (data : Bytes)

namespace Construction

def source : Construction → Source
  | .new source _ => source
  | .file image => .file image
  | .memory image => .memory image
  | .bytes data => .memory { data }

def path? : Construction → Option Path
  | .new _ path? => path?
  | .file image => some image.path
  | .memory _ | .bytes _ => none

/-- Makes the reference. -/
def make (s : Session) (p : Properties) : Construction → Except Error RefId × Session
  | .new source path? => s.createFrom source path? p
  | .file image => s.fromFile image p
  | .memory image => s.fromImage image p
  | .bytes data => s.fromBytes data p

variable {s : Session} {p : Properties} {c : Construction}

theorem make_eq (c : Construction) : c.make s p = s.createFrom c.source c.path? p := by
  cases c <;> rfl

theorem make_refused {error : Error} (refused : c.source.validate p = .error error) :
    c.make s p = (.error error, (s.makeSource c.source).2) := by
  rw [make_eq]
  simp [Session.createFrom, Session.makeSource, Session.create, refused]

theorem make_accepted (accepted : c.source.validate p = .ok ()) :
    c.make s p = (.ok ⟨s.references.length⟩, ((s.makeSource c.source).2.addReference
      { source := (s.makeSource c.source).1, path? := c.path?, properties := p }).2) := by
  rw [make_eq]
  exact s.createFrom_accepted c.path? accepted

end Construction

namespace Session

variable {s : Session} {id : RefId} {r : Reference} {a : Action} {error : Error}

/-! ### References stay -/

theorem make_frame (c : Construction) (p : Properties) (found : s.reference? id = some r) :
    (c.make s p).2.reference? id = some r := by
  cases checked : c.source.validate p with
  | error error =>
    rw [Construction.make_refused checked]
    exact found
  | ok _ =>
    rw [Construction.make_accepted checked]
    exact (List.getElem?_append_left (lt_of_reference? found)).trans found

theorem run_frame (actions : List Action) (found : s.reference? id = some r) :
    (s.run actions).reference? id = some r ∨
      .documentation id ∈ actions ∧ r.documentation? = none ∧
        ∃ object, (s.run actions).reference? id = some { r with documentation? := some object } := by
  induction actions generalizing s r with
  | nil => exact Or.inl found
  | cons a actions ih =>
    rcases (act_effect s a).change.frame found with same | ⟨rfl, unbound, object, bound⟩
    · rcases ih same with stays | ⟨member, unbound, later⟩
      · exact Or.inl stays
      · exact Or.inr ⟨List.mem_cons_of_mem _ member, unbound, later⟩
    · -- From here on it is bound, so no later request binds it again.
      rcases ih bound with stays | ⟨-, again, -⟩
      · exact Or.inr ⟨List.mem_cons_self, unbound, object, stays⟩
      · cases again

/-! ### Refusals -/

/-- The source that an action asks whether it accepts properties. -/
def judge? (s : Session) : Action → Option (Object Source)
  | .create source _ _ => s.source? source
  | .withProperties id _ | .withAliases id _ | .withEmbedInteropTypes id _ =>
    (s.reference? id).map Reference.source
  | _ => none

theorem judge?_update (u : Update) (id : RefId) :
    s.judge? (u.action id) = (s.reference? id).map Reference.source := by
  cases u <;> rfl

theorem update_refused (u : Update) (id : RefId)
    (refused : (s.act (u.action id)).1 = .reference (.error error)) :
    (s.act (u.action id)).2 = s ∧ ∃ object, s.judge? (u.action id) = some object ∧
      (object.value.ValidatesByDefault → error.isConfiguration = true) := by
  cases found : s.reference? id with
  | none =>
    rw [act_update_missing u found] at refused
    cases refused
  | some r =>
    rw [judge?_update, found]
    cases requested : u.requested r.properties with
    | error other =>
      rw [act_update u found, requested] at refused ⊢
      cases refused
      exact ⟨rfl, r.source, rfl, fun _ => Update.isConfiguration_of_requested requested⟩
    | ok p =>
      by_cases same : p = r.properties
      · subst same
        rw [act_update_same u found requested] at refused
        cases refused
      cases checked : r.source.value.validate p with
      | ok _ =>
        rw [act_update_changed u found requested same checked] at refused
        cases refused
      | error other =>
        rw [act_update_refused u found requested same checked] at refused ⊢
        cases refused
        exact ⟨rfl, r.source, rfl, fun usual => usual.isConfiguration checked⟩

theorem create_refused (source : Nat) (path? : Option Path) (p : Properties)
    (refused : (s.act (.create source path? p)).1 = .reference (.error error)) :
    (s.act (.create source path? p)).2 = s ∧
      ∃ object, s.judge? (.create source path? p) = some object ∧
        (object.value.ValidatesByDefault → error.isConfiguration = true) := by
  cases found : s.source? source with
  | none => simp [act, found] at refused
  | some object =>
    cases checked : object.value.validate p with
    | ok _ => simp [act, found, create, checked] at refused
    | error other =>
      simp only [act, found, create, checked, Prod.map, Answer.reference.injEq,
        Except.error.injEq] at refused ⊢
      subst refused
      exact ⟨rfl, object, found, fun usual => usual.isConfiguration checked⟩

theorem act_refused (refused : (s.act a).1 = .reference (.error error)) :
    (s.act a).2 = s ∧ ∃ object, s.judge? a = some object ∧
      (object.value.ValidatesByDefault → error.isConfiguration = true) := by
  cases a with
  | create source path? p => exact create_refused source path? p refused
  | withProperties id p => exact update_refused (.properties p) id refused
  | withAliases id names => exact update_refused (.aliases names) id refused
  | withEmbedInteropTypes id value => exact update_refused (.embedInteropTypes value) id refused
  | clone id | documentation id | metadata id | diagnoseReference id failure catalog location =>
    simp only [act, onReference] at refused
    split at refused <;> simp [Prod.map] at refused
  | _ => cases refused

theorem make_leaves_no_trace {c : Construction} {p : Properties}
    (refused : (c.make s p).1 = .error error) :
    (c.make s p).2 = (s.makeSource c.source).2 ∧
      (c.source.ValidatesByDefault → error.isConfiguration = true) := by
  cases checked : c.source.validate p with
  | ok _ =>
    rw [Construction.make_accepted checked] at refused
    cases refused
  | error other =>
    rw [Construction.make_refused checked] at refused ⊢
    cases refused
    exact ⟨rfl, fun usual => usual.isConfiguration checked⟩

/-- No action changes a reference that there is, except that a request for its documentation binds
it if it is unbound, and making references changes none. An action that is refused leaves the
session as it was; if it was to make a source too, that source is all there is more. Sources
without rules of their own refuse properties for no other reason than the properties. -/
theorem immutable_and_refused_without_trace (s : Session) :
    (∀ a id r, s.reference? id = some r →
      (s.act a).2.reference? id = some r ∨
        a = .documentation id ∧ r.documentation? = none ∧
          ∃ object, (s.act a).2.reference? id = some { r with documentation? := some object }) ∧
    (∀ actions id r, s.reference? id = some r →
      (s.run actions).reference? id = some r ∨
        .documentation id ∈ actions ∧ r.documentation? = none ∧
          ∃ object,
            (s.run actions).reference? id = some { r with documentation? := some object }) ∧
    (∀ (c : Construction) p id r, s.reference? id = some r →
      (c.make s p).2.reference? id = some r) ∧
    (∀ a error, (s.act a).1 = .reference (.error error) →
      (s.act a).2 = s ∧ ∃ object, s.judge? a = some object ∧
        (object.value.ValidatesByDefault → error.isConfiguration = true)) ∧
    ∀ (c : Construction) p error, (c.make s p).1 = .error error →
      (c.make s p).2 = { s with
        fresh := s.fresh + 1
        sources := s.sources ++ [⟨s.fresh, c.source⟩] } ∧
      (c.source.ValidatesByDefault → error.isConfiguration = true) := by
  refine ⟨?_, ?_, ?_, ?_, ?_⟩
  · exact fun a id r found => (act_effect s a).change.frame found
  · exact fun actions id r found => run_frame actions found
  · exact fun c p id r found => make_frame c p found
  · exact fun a error refused => act_refused refused
  · exact fun c p error refused => make_leaves_no_trace refused

/-- A bound reference, an update of it that repeats an alias, and a file that is to be a module with
an alias. -/
theorem repeated_alias_refused_without_trace :
    let s := ({ disk := .empty [] } : Session).run
      [.makeSource (.memory { data := [77] }), .create 0 none .assembly, .documentation ⟨0⟩]
    let file : Construction := .file { path := .ofString "a.dll" }
    let r : Reference :=
      ⟨⟨0, .memory { data := [77] }⟩, none, .assembly, some ⟨1, .nothing⟩⟩
    s.reference? ⟨0⟩ = some r ∧
      (s.act (.withAliases ⟨0⟩ ["A", "A"])).1 = .reference (.error (.duplicateAlias "A")) ∧
      (s.act (.withAliases ⟨0⟩ ["A", "A"])).2 = s ∧
      (Error.duplicateAlias "A").isConfiguration = true ∧
      (file.make s ⟨.module, ["A"], false⟩).1 = .error .moduleAliases ∧
      (file.make s ⟨.module, ["A"], false⟩).2.log = s.log ∧
      (file.make s ⟨.module, ["A"], false⟩).2.reference? ⟨0⟩ = some r := by
  intro s file r
  obtain ⟨-, -, made, refused, unmade⟩ := immutable_and_refused_without_trace s
  have found : s.reference? ⟨0⟩ = some r := rfl
  have repeated : (s.act (.withAliases ⟨0⟩ ["A", "A"])).1 =
      .reference (.error (.duplicateAlias "A")) := rfl
  obtain ⟨unchanged, object, asked, configuration⟩ := refused _ _ repeated
  obtain rfl : ⟨0, .memory { data := [77] }⟩ = object := Option.some.inj asked
  have failed : (file.make s ⟨.module, ["A"], false⟩).1 = .error .moduleAliases := rfl
  refine ⟨found, repeated, unchanged, configuration (.memory _), failed, ?_, ?_⟩
  · rw [(unmade file _ _ failed).1]
  · exact made file _ _ _ found

end Session

end ImageRefs
