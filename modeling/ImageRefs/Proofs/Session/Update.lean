import ImageRefs.Proofs.Properties.Validity
import ImageRefs.Session.Step

/-!
Updates. However an update asks for other properties, it gives the same reference if these are the
ones there are, and a new reference otherwise.
-/

set_option autoImplicit false

namespace ImageRefs

/-- The three ways to ask for a reference with other properties. -/
inductive Update where
  | properties (p : Properties)
  | aliases (names : List String)
  | embedInteropTypes (value : Bool)
  deriving DecidableEq, Repr

namespace Update

def action : Update → RefId → Action
  | .properties p, id => .withProperties id p
  | .aliases names, id => .withAliases id names
  | .embedInteropTypes value, id => .withEmbedInteropTypes id value

/-- The properties after the update. -/
def applied : Update → Properties → Properties
  | .properties p, _ => p
  | .aliases names, current => { current with aliases := names }
  | .embedInteropTypes value, current => { current with embedInteropTypes := value }

/-- The same, unless they are refused before the source of the reference is asked. -/
def requested : Update → Properties → Except Error Properties
  | .properties p, _ => .ok p
  | .aliases names, current => current.withAliases names
  | .embedInteropTypes value, current => current.withEmbedInteropTypes value

/-- The update asks for a value that the properties already have. -/
def Keeps : Update → Properties → Prop
  | .properties p, current => p = current
  | .aliases names, current => names = current.aliases
  | .embedInteropTypes value, current => value = current.embedInteropTypes

variable {u : Update} {p q : Properties}

theorem applied_eq_iff : u.applied p = p ↔ u.Keeps p := by
  obtain ⟨kind, aliases, embed⟩ := p
  cases u <;> simp [applied, Keeps]

theorem applied_applied : u.applied (u.applied p) = u.applied p := by
  cases u <;> rfl

theorem requested_eq_ok_iff :
    u.requested p = .ok q ↔
      q = u.applied p ∧ ((∃ all, u = .properties all) ∨ q.validate = .ok ()) := by
  cases u with
  | properties all => simp [requested, applied, eq_comm]
  | aliases names =>
    refine Properties.checked_eq_ok_iff.trans ?_
    simp [applied]
  | embedInteropTypes value =>
    refine Properties.checked_eq_ok_iff.trans ?_
    simp [applied]

/-- What was requested once can be requested again, and changes nothing then. -/
theorem requested_again (h : u.requested p = .ok q) : u.requested q = .ok q := by
  obtain ⟨rfl, accepted⟩ := requested_eq_ok_iff.mp h
  exact requested_eq_ok_iff.mpr ⟨applied_applied.symm, accepted⟩

end Update

namespace Session

variable {s : Session} {id next : RefId} {r : Reference} {p : Properties}

/-- The session after a reference with other properties was made. -/
def derive (s : Session) (r : Reference) (p : Properties) : Session :=
  (s.emit [.propertiesUpdated r.display p]).addReference (r.withProperties p) |>.2

theorem act_update (u : Update) (found : s.reference? id = some r) :
    s.act (u.action id) =
      match u.requested r.properties with
      | .error error => (.reference (.error error), s)
      | .ok p => (.reference (s.withProperties id r p).1, (s.withProperties id r p).2) := by
  cases u with
  | properties p => simp [Update.action, act, onReference, found, Update.requested, Prod.map]
  | aliases names =>
    simp only [Update.action, act, onReference, found, Update.requested, withAliases, Prod.map]
    cases r.properties.withAliases names <;> rfl
  | embedInteropTypes value =>
    simp only [Update.action, act, onReference, found, Update.requested, withEmbedInteropTypes,
      Prod.map]
    cases r.properties.withEmbedInteropTypes value <;> rfl

theorem act_update_missing (u : Update) (missing : s.reference? id = none) :
    s.act (u.action id) = (.missing, s) := by
  cases u <;> simp [Update.action, act, onReference, missing]

/-- An update to the properties that there are gives the same reference. -/
theorem act_update_same (u : Update) (found : s.reference? id = some r)
    (requested : u.requested r.properties = .ok r.properties) :
    s.act (u.action id) = (.reference (.ok id), s) := by
  rw [act_update u found, requested]
  simp [withProperties]

/-- An update that the source refuses changes nothing. -/
theorem act_update_refused {error : Error} (u : Update) (found : s.reference? id = some r)
    (requested : u.requested r.properties = .ok p) (changed : p ≠ r.properties)
    (refused : r.source.value.validate p = .error error) :
    s.act (u.action id) = (.reference (.error error), s) := by
  rw [act_update u found, requested]
  simp [withProperties, changed, refused]

/-- Any other update makes a reference. -/
theorem act_update_changed (u : Update) (found : s.reference? id = some r)
    (requested : u.requested r.properties = .ok p) (changed : p ≠ r.properties)
    (accepted : r.source.value.validate p = .ok ()) :
    s.act (u.action id) = (.reference (.ok ⟨s.references.length⟩), s.derive r p) := by
  rw [act_update u found, requested]
  simp [withProperties, changed, accepted, derive, addReference, emit]

/-- An update that succeeds has kept the reference, or made the next one. -/
theorem act_update_ok (u : Update) (found : s.reference? id = some r)
    (given : (s.act (u.action id)).1 = .reference (.ok next)) :
    u.requested r.properties = .ok (u.applied r.properties) ∧
      ((u.Keeps r.properties ∧ next = id ∧ (s.act (u.action id)).2 = s) ∨
        (¬u.Keeps r.properties ∧ next = ⟨s.references.length⟩ ∧
          (s.act (u.action id)).2 = s.derive r (u.applied r.properties))) := by
  cases requested : u.requested r.properties with
  | error error =>
    rw [act_update u found, requested] at given
    simp at given
  | ok p =>
    obtain ⟨rfl, -⟩ := Update.requested_eq_ok_iff.mp requested
    refine ⟨rfl, ?_⟩
    -- The source is asked only if something changes, so a kept reference is not validated again.
    by_cases same : u.applied r.properties = r.properties
    · rw [act_update_same u found (requested.trans (congrArg _ same))] at given ⊢
      simp only [Answer.reference.injEq, Except.ok.injEq] at given
      exact Or.inl ⟨Update.applied_eq_iff.mp same, given.symm, rfl⟩
    have changed : ¬u.Keeps r.properties := fun keeps => same (Update.applied_eq_iff.mpr keeps)
    cases accepted : r.source.value.validate (u.applied r.properties) with
    | error error =>
      rw [act_update_refused u found requested same accepted] at given
      simp at given
    | ok _ =>
      rw [act_update_changed u found requested same accepted] at given ⊢
      simp only [Answer.reference.injEq, Except.ok.injEq] at given
      exact Or.inr ⟨changed, given.symm, rfl⟩

end Session

end ImageRefs
