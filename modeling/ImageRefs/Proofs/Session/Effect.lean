import ImageRefs.Proofs.Binding.Publication
import ImageRefs.Proofs.Session.Update

/-!
What one action does. The actions are opened here only; everything that holds of all runs is read
off `Effect`.
-/

set_option autoImplicit false

namespace ImageRefs

open Documentation

/-- The source has a provider of its own for every call, or none. -/
def Source.GivesNew (source : Source) : Prop :=
  ∀ disk earlier object, (source.documentation disk earlier).1 ≠ .existing object

theorem Source.givesNew_file (image : FileImage) : (Source.file image).GivesNew := by
  intro disk earlier object same
  simp only [documentation, FileImage.documentation] at same
  split at same
  · cases same
  · split at same <;> cases same

namespace Session

variable {s : Session} {id : RefId} {r : Reference}

/-! ### Documentation -/

theorem act_documentation (found : s.reference? id = some r) :
    s.act (.documentation id) =
      (.provider (s.documentation id r).1, (s.documentation id r).2) := by
  simp [act, onReference, found, Prod.map]

theorem act_documentation_missing (missing : s.reference? id = none) :
    s.act (.documentation id) = (.missing, s) := by
  simp [act, onReference, missing]

theorem documentation_bound {object : Object Provider} (bound : r.documentation? = some object) :
    s.documentation id r = (object, s) := by
  simp [documentation, bound]

theorem act_documentation_bound {object : Object Provider} (found : s.reference? id = some r)
    (bound : r.documentation? = some object) :
    s.act (.documentation id) = (.provider object, s) := by
  rw [act_documentation found, documentation_bound bound]

/-- What the source of a reference answers when it is asked for documentation, and what it reports. -/
def offered (s : Session) (r : Reference) : Candidate × List Event :=
  r.source.value.documentation s.disk (s.documentationCalls r.source.id)

/-- The first request for documentation binds what stands for the candidate of the source, and
reports it after what the source reports. -/
theorem documentation_unbound (s : Session) (id : RefId) (unbound : r.documentation? = none) :
    ∃ object fresh,
      s.documentation id r = (object, { s with
        references := s.references.set id.index { r with documentation? := some object }
        calls := s.calls ++ [.documentation r.source.id]
        fresh
        log := s.log ++ ((s.offered r).2 ++ [.providerBound object.value.isEmpty]) }) ∧
      (s.offered r).1.StandsFor s.fresh object ∧ s.fresh ≤ fresh ∧
      (r.source.value.GivesNew → object.id = s.fresh ∧ s.fresh < fresh) := by
  let asked : Binding := { fresh := s.fresh, log := s.log ++ (s.offered r).2 }
  let candidate := (s.offered r).1
  obtain ⟨object, provider, fresh⟩ := Binding.getOrBind_answer (b := asked) rfl candidate
  have log := Binding.getOrBind_answer_log (b := asked) rfl candidate
  refine ⟨(asked.obtain candidate).1, (asked.obtain candidate).2.fresh, ?_,
    asked.obtain_stands candidate, ?_, ?_⟩
  · rw [← List.append_assoc, ← log, ← provider, ← object, ← fresh]
    simp only [documentation, unbound]
    rfl
  · obtain ⟨fresh, le, same⟩ := asked.obtain_eq candidate
    rw [same]
    exact le
  · intro givesNew
    cases offers : candidate with
    | nothing => exact ⟨rfl, Nat.lt_succ_self _⟩
    | fresh provider => exact ⟨rfl, Nat.lt_succ_self _⟩
    | existing old => exact absurd offers (givesNew _ _ old)

/-! ### All actions -/

/-- The calls of sources that an action makes. -/
def callsOf (s : Session) : Action → List SourceCall
  | .documentation id =>
    match s.reference? id with
    | some r => if r.isBound then [] else [.documentation r.source.id]
    | none => []
  | .metadata id =>
    match s.reference? id with
    | some r => [.load r.source.id]
    | none => []
  | _ => []

/-- How an action may change the references. -/
inductive Change (s : Session) : Action → List Reference → Prop where
  | none {a : Action} : Change s a s.references
  | created {source : Nat} {path? : Option Path} {p : Properties} {object : Object Source}
      (found : s.source? source = some object) (accepted : object.value.validate p = .ok ()) :
      Change s (.create source path? p)
        (s.references ++ [{ source := object, path?, properties := p }])
  | derived (u : Update) {id : RefId} {r : Reference} {p : Properties}
      (found : s.reference? id = some r) (requested : u.requested r.properties = .ok p)
      (changed : p ≠ r.properties) (accepted : r.source.value.validate p = .ok ()) :
      Change s (u.action id) (s.references ++ [r.withProperties p])
  | bound {id : RefId} {r : Reference} {object : Object Provider}
      (found : s.reference? id = some r) (unbound : r.documentation? = Option.none) :
      Change s (.documentation id)
        (s.references.set id.index { r with documentation? := some object })

structure Effect (s : Session) (a : Action) (after : Session) : Prop where
  change : Change s a after.references
  calls : after.calls = s.calls ++ s.callsOf a
  fresh : s.fresh ≤ after.fresh

/-- An action that touches no reference. -/
theorem Effect.quiet {a : Action} {after : Session} (references : after.references = s.references)
    (calls : after.calls = s.calls ++ s.callsOf a) (fresh : s.fresh ≤ after.fresh) :
    Effect s a after where
  change := references ▸ .none
  calls := calls
  fresh := fresh

theorem effect_update (u : Update) (id : RefId) :
    Effect s (u.action id) (s.act (u.action id)).2 := by
  have silent : s.callsOf (u.action id) = [] := by cases u <;> rfl
  have unchanged : Effect s (u.action id) s := .quiet rfl (by simp [silent]) le_rfl
  cases found : s.reference? id with
  | none => rwa [act_update_missing u found]
  | some r =>
    cases requested : u.requested r.properties with
    | error error =>
      rw [act_update u found, requested]
      exact unchanged
    | ok p =>
      by_cases same : p = r.properties
      · subst same
        rwa [act_update_same u found requested]
      cases accepted : r.source.value.validate p with
      | error error => rwa [act_update_refused u found requested same accepted]
      | ok _ =>
        rw [act_update_changed u found requested same accepted]
        exact {
          change := .derived u found requested same accepted
          calls := by simp [silent, derive, addReference, emit]
          fresh := le_rfl }

theorem effect_documentation (id : RefId) :
    Effect s (.documentation id) (s.act (.documentation id)).2 := by
  cases found : s.reference? id with
  | none =>
    rw [act_documentation_missing found]
    exact .quiet rfl (by simp [callsOf, found]) le_rfl
  | some r =>
    cases place : r.documentation? with
    | some object =>
      rw [act_documentation_bound found place]
      exact .quiet rfl (by simp [callsOf, found, Reference.isBound, place]) le_rfl
    | none =>
      obtain ⟨object, fresh, same, -, le, -⟩ := documentation_unbound s id place
      rw [act_documentation found, same]
      exact {
        change := .bound found place
        calls := by simp [callsOf, found, Reference.isBound, place]
        fresh := le }

theorem effect_metadata (id : RefId) : Effect s (.metadata id) (s.act (.metadata id)).2 := by
  cases found : s.reference? id with
  | none =>
    simp only [act, onReference, found]
    exact .quiet rfl (by simp [callsOf, found]) le_rfl
  | some r =>
    simp only [act, onReference, found]
    exact .quiet rfl (by simp [callsOf, found, metadata, loadImage, emit]) le_rfl

theorem effect_create (source : Nat) (path? : Option Path) (p : Properties) :
    Effect s (.create source path? p) (s.act (.create source path? p)).2 := by
  cases found : s.source? source with
  | none =>
    simp only [act, found]
    exact .quiet rfl (by simp [callsOf]) le_rfl
  | some object =>
    cases accepted : object.value.validate p with
    | error error =>
      simp only [act, found, create, accepted]
      exact .quiet rfl (by simp [callsOf]) le_rfl
    | ok _ =>
      simp only [act, found, create, accepted]
      exact {
        change := .created found accepted
        calls := by simp [callsOf, addReference]
        fresh := le_rfl }

/-- Every action does one of these things. -/
theorem act_effect (s : Session) (a : Action) : Effect s a (s.act a).2 := by
  cases a with
  | makeProvider provider => exact .quiet rfl (by simp [act, makeProvider, callsOf]) (Nat.le_succ _)
  | makeSource source => exact .quiet rfl (by simp [act, makeSource, callsOf]) (Nat.le_succ _)
  | create source path? p => exact effect_create source path? p
  | clone id =>
    simp only [act, onReference]
    split <;> exact .quiet rfl (by simp [callsOf]) le_rfl
  | withProperties id p => exact effect_update (.properties p) id
  | withAliases id names => exact effect_update (.aliases names) id
  | withEmbedInteropTypes id value => exact effect_update (.embedInteropTypes value) id
  | documentation id => exact effect_documentation id
  | metadata id => exact effect_metadata id
  | diagnoseReference id failure catalog location =>
    simp only [act, onReference]
    split
    · exact .quiet rfl (by simp [callsOf]) le_rfl
    · simp only [diagnoseReference, diagnose]
      split <;> exact .quiet rfl (by simp [callsOf, emit]) le_rfl
  | diagnose failure catalog location displayName kind =>
    simp only [act, diagnose]
    split <;> exact .quiet rfl (by simp [callsOf, emit]) le_rfl
  | push d => exact .quiet rfl (by simp [act, push, callsOf]) le_rfl
  | write path content => exact .quiet rfl (by simp [act, onDisk, callsOf]) le_rfl
  | makeDirectory path => exact .quiet rfl (by simp [act, onDisk, callsOf]) le_rfl
  | remove path => exact .quiet rfl (by simp [act, onDisk, callsOf]) le_rfl

end Session

end ImageRefs
