import ImageRefs.Proofs.Session.Effect

/-!
Runs of actions, step by step. No reference is ever lost or altered, except that documentation is
bound to one that had none.
-/

set_option autoImplicit false

namespace ImageRefs

open Documentation

/-- An action, and the session that it meets. -/
structure Step where
  before : Session
  action : Action

namespace Step

def answer (step : Step) : Answer :=
  (step.before.act step.action).1

def after (step : Step) : Session :=
  (step.before.act step.action).2

def AsksFor (step : Step) (id : RefId) : Prop :=
  step.action = .documentation id ∧ ∃ r, step.before.reference? id = some r

/-- Asks for the documentation of the reference `r`, which has none yet. -/
def Binds (step : Step) (id : RefId) (r : Reference) : Prop :=
  step.action = .documentation id ∧ step.before.reference? id = some r ∧ r.documentation? = none

/-- A reference is made by an update that changes a value of the reference `p`. -/
def Derives (step : Step) (parent : RefId) (p : Reference) (id : RefId) : Prop :=
  ∃ u : Update, step.action = u.action parent ∧ step.before.reference? parent = some p ∧
    ¬u.Keeps p.properties ∧ step.answer = .reference (.ok id)

end Step

theorem Reference.isBound_iff {r : Reference} :
    r.isBound = true ↔ ∃ object, r.documentation? = some object :=
  Option.isSome_iff_exists

/-- A reference as it was, and as it is later. -/
structure Reference.Later (r later : Reference) : Prop where
  source : later.source = r.source
  path? : later.path? = r.path?
  properties : later.properties = r.properties
  documentation : ∀ object, r.documentation? = some object → later.documentation? = some object

theorem Reference.Later.refl (r : Reference) : r.Later r := ⟨rfl, rfl, rfl, fun _ h => h⟩

theorem Reference.Later.trans {r middle later : Reference} (one : r.Later middle)
    (other : middle.Later later) : r.Later later where
  source := other.source.trans one.source
  path? := other.path?.trans one.path?
  properties := other.properties.trans one.properties
  documentation object bound := other.documentation object (one.documentation object bound)

namespace Session

variable {s : Session} {id : RefId} {r : Reference} {a : Action} {references : List Reference}

theorem lt_of_reference? (found : s.reference? id = some r) : id.index < s.references.length :=
  (List.getElem?_eq_some_iff.mp found).1

theorem reference?_eq_none_iff : s.reference? id = none ↔ s.references.length ≤ id.index :=
  List.getElem?_eq_none_iff

/-! ### One action -/

/-- A reference stays as it is, or its documentation is bound because it was asked for. -/
theorem Change.frame (change : Change s a references) (found : s.reference? id = some r) :
    references[id.index]? = some r ∨
      a = .documentation id ∧ r.documentation? = Option.none ∧
        ∃ object, references[id.index]? = some { r with documentation? := some object } := by
  have bound := lt_of_reference? found
  cases change with
  | none => exact Or.inl found
  | created source accepted => exact Or.inl (by rwa [List.getElem?_append_left bound])
  | derived u parent requested changed accepted =>
    exact Or.inl (by rwa [List.getElem?_append_left bound])
  | @bound other old object holder unbound =>
    by_cases same : other = id
    · subst same
      obtain rfl := Option.some.inj (holder.symm.trans found)
      exact Or.inr ⟨rfl, unbound, object, List.getElem?_set_self bound⟩
    · rw [List.getElem?_set_ne fun index => same (congrArg RefId.mk index)]
      exact Or.inl found

theorem Change.later (change : Change s a references) (found : s.reference? id = some r) :
    ∃ later, references[id.index]? = some later ∧ r.Later later := by
  rcases change.frame found with same | ⟨-, unbound, object, bound⟩
  · exact ⟨r, same, .refl r⟩
  · refine ⟨_, bound, rfl, rfl, rfl, fun earlier h => ?_⟩
    rw [unbound] at h
    cases h

theorem act_later (a : Action) (found : s.reference? id = some r) :
    ∃ later, (s.act a).2.reference? id = some later ∧ r.Later later :=
  (act_effect s a).change.later found

theorem getElem?_append_one {new : Reference}
    (found : (s.references ++ [new])[id.index]? = some r) :
    s.reference? id = some r ∨ id = ⟨s.references.length⟩ ∧ r = new := by
  rw [List.getElem?_append] at found
  split at found
  next => exact Or.inl found
  next beyond =>
    rw [List.getElem?_singleton] at found
    split at found
    next last =>
      right
      have place : id.index = s.references.length := by omega
      exact ⟨by rw [← place], (Option.some.inj found).symm⟩
    next => simp at found

/-- Where a reference comes from that is bound after an action: it was bound before, its own
documentation was asked for, or it is new and was made from a bound reference. -/
theorem bound_of_act {object : Object Provider}
    (found : (s.act a).2.reference? id = some r) (bound : r.documentation? = some object) :
    (∃ old, s.reference? id = some old ∧ old.documentation? = some object) ∨
    (∃ old, Step.Binds ⟨s, a⟩ id old) ∨
    ∃ parent p, Step.Derives ⟨s, a⟩ parent p id ∧ p.documentation? = some object := by
  have change := (act_effect s a).change
  rw [reference?] at found
  generalize (s.act a).2.references = references at change found
  cases change with
  | none => exact Or.inl ⟨r, found, bound⟩
  | created source accepted =>
    rcases getElem?_append_one found with old | ⟨-, rfl⟩
    · exact Or.inl ⟨r, old, bound⟩
    · simp at bound
  | @derived u parent p q holder requested changed accepted =>
    rcases getElem?_append_one found with old | ⟨new, rfl⟩
    · exact Or.inl ⟨r, old, bound⟩
    · obtain ⟨rfl, -⟩ := Update.requested_eq_ok_iff.mp requested
      refine Or.inr (Or.inr ⟨parent, p, ⟨u, rfl, holder, ?_, ?_⟩, bound⟩)
      · exact fun keeps => changed (Update.applied_eq_iff.mpr keeps)
      · rw [Step.answer, act_update_changed u holder requested changed accepted, new]
  | @bound other old object holder unbound =>
    by_cases same : other = id
    · subst same
      exact Or.inr (Or.inl ⟨old, rfl, holder, unbound⟩)
    · rw [List.getElem?_set_ne fun index => same (congrArg RefId.mk index)] at found
      exact Or.inl ⟨r, found, bound⟩

/-- Asking for the documentation of one reference leaves all others as they are. -/
theorem act_documentation_other {other : RefId} (different : other ≠ id) :
    (s.act (.documentation id)).2.reference? other = s.reference? other := by
  have index : id.index ≠ other.index := fun same => different (congrArg RefId.mk same.symm)
  cases found : s.reference? id with
  | none => rw [act_documentation_missing found]
  | some r =>
    cases place : r.documentation? with
    | some object => rw [act_documentation_bound found place]
    | none =>
      obtain ⟨object, fresh, same, -⟩ := documentation_unbound s id place
      rw [act_documentation found, same]
      exact List.getElem?_set_ne index

/-- Whoever asks for documentation is given what is bound then. -/
theorem bound_of_documentation (found : s.reference? id = some r) :
    (s.documentation id r).2.reference? id =
      some { r with documentation? := some (s.documentation id r).1 } := by
  cases place : r.documentation? with
  | some object =>
    rw [documentation_bound place, ← place]
    exact found
  | none =>
    obtain ⟨object, fresh, same, -⟩ := documentation_unbound s id place
    rw [same]
    exact List.getElem?_set_self (lt_of_reference? found)

/-! ### Runs -/

variable {actions : List Action} {step one other : Step}

theorem run_later (actions : List Action) (found : s.reference? id = some r) :
    ∃ later, (s.run actions).reference? id = some later ∧ r.Later later := by
  induction actions generalizing s r with
  | nil => exact ⟨r, found, .refl r⟩
  | cons a actions ih =>
    obtain ⟨middle, found, one⟩ := act_later a found
    obtain ⟨later, found, other⟩ := ih found
    exact ⟨later, found, one.trans other⟩

/-- The steps of a run. -/
def steps (s : Session) : List Action → List Step
  | [] => []
  | a :: actions => ⟨s, a⟩ :: (s.act a).2.steps actions

theorem run_append (s : Session) (first second : List Action) :
    s.run (first ++ second) = (s.run first).run second :=
  List.foldl_append

theorem steps_append (s : Session) (first second : List Action) :
    s.steps (first ++ second) = s.steps first ++ (s.run first).steps second := by
  induction first generalizing s with
  | nil => rfl
  | cons a first ih => exact congrArg _ (ih (s.act a).2)

theorem mem_steps_iff :
    step ∈ s.steps actions ↔ ∃ earlier later,
      actions = earlier ++ step.action :: later ∧ step.before = s.run earlier := by
  induction actions generalizing s with
  | nil => simp [steps]
  | cons a actions ih =>
    constructor
    · intro member
      rcases List.mem_cons.mp member with rfl | member
      · exact ⟨[], actions, rfl, rfl⟩
      · obtain ⟨earlier, later, split, before⟩ := ih.mp member
        exact ⟨a :: earlier, later, by rw [split, List.cons_append], before⟩
    · rintro ⟨earlier, later, split, before⟩
      obtain ⟨place, action⟩ := step
      subst before
      cases earlier with
      | nil =>
        obtain ⟨rfl, -⟩ := List.cons.inj split
        exact List.mem_cons_self
      | cons first earlier =>
        obtain ⟨rfl, rest⟩ := List.cons.inj split
        exact List.mem_cons_of_mem _ (ih.mpr ⟨earlier, later, rest, rfl⟩)

/-! ### Steps of one run -/

theorem run_of_mem_steps (member : step ∈ s.steps actions) :
    ∃ later, s.run actions = step.after.run later := by
  obtain ⟨earlier, later, rfl, before⟩ := mem_steps_iff.mp member
  refine ⟨later, ?_⟩
  rw [run_append, ← before]
  rfl

theorem later_of_after (member : step ∈ s.steps actions)
    (found : step.after.reference? id = some r) :
    ∃ later, (s.run actions).reference? id = some later ∧ r.Later later := by
  obtain ⟨rest, same⟩ := run_of_mem_steps member
  rw [same]
  exact run_later rest found

theorem later_of_before (member : step ∈ s.steps actions)
    (found : step.before.reference? id = some r) :
    ∃ later, (s.run actions).reference? id = some later ∧ r.Later later := by
  obtain ⟨middle, found, first⟩ := act_later step.action found
  obtain ⟨later, found, second⟩ := later_of_after member found
  exact ⟨later, found, first.trans second⟩

/-- Of two steps of a run, one comes first. -/
theorem steps_ordered (first : one ∈ s.steps actions) (second : other ∈ s.steps actions) :
    one = other ∨ (∃ between, other.before = one.after.run between) ∨
      ∃ between, one.before = other.after.run between := by
  induction actions generalizing s with
  | nil => cases first
  | cons a actions ih =>
    rcases List.mem_cons.mp first with rfl | first
    · rcases List.mem_cons.mp second with rfl | second
      · exact Or.inl rfl
      · obtain ⟨between, -, -, before⟩ := mem_steps_iff.mp second
        exact Or.inr (Or.inl ⟨between, before⟩)
    · rcases List.mem_cons.mp second with rfl | second
      · obtain ⟨between, -, -, before⟩ := mem_steps_iff.mp first
        exact Or.inr (Or.inr ⟨between, before⟩)
      · exact ih first second

theorem run_fresh (s : Session) (actions : List Action) : s.fresh ≤ (s.run actions).fresh := by
  induction actions generalizing s with
  | nil => exact le_rfl
  | cons a actions ih => exact (act_effect s a).fresh.trans (ih _)

end Session

namespace Step

variable {step : Step} {id : RefId} {r : Reference}

/-- Whoever asks for documentation finds it bound afterwards. -/
theorem after_of_asks (asks : step.action = .documentation id)
    (found : step.before.reference? id = some r) :
    step.after.reference? id =
      some { r with documentation? := some (step.before.documentation id r).1 } := by
  rw [after, asks, Session.act_documentation found]
  exact Session.bound_of_documentation found

theorem Binds.after (binds : step.Binds id r) :
    ∃ object, step.after.reference? id = some { r with documentation? := some object } ∧
      (r.source.value.GivesNew →
        object.id = step.before.fresh ∧ step.before.fresh < step.after.fresh) := by
  obtain ⟨asks, found, unbound⟩ := binds
  refine ⟨_, after_of_asks asks found, fun givesNew => ?_⟩
  obtain ⟨object, fresh, same, -, -, new⟩ :=
    Session.documentation_unbound step.before id unbound
  rw [Step.after, asks, Session.act_documentation found, same]
  exact new givesNew

theorem AsksFor.after (asks : step.AsksFor id) :
    ∃ r, step.after.reference? id = some r ∧ r.isBound = true := by
  obtain ⟨action, r, found⟩ := asks
  exact ⟨_, after_of_asks action found, rfl⟩

end Step

end ImageRefs
