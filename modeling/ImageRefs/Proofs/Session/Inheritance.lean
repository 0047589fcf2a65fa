import ImageRefs.Proofs.Session.Calls
import ImageRefs.Proofs.Session.Identity

/-!
Where the documentation of references comes from. A reference is bound by its own request, or is
made from a bound one; so every bound reference has an origin, and shares the provider with all
others of that origin.
-/

set_option autoImplicit false

namespace ImageRefs

open Documentation

/-- A reference, and the one whose request bound the provider that it has. -/
inductive Origin (history : List Step) : RefId → RefId → Prop where
  | own {step : Step} {id : RefId} {r : Reference} (member : step ∈ history)
      (binds : step.Binds id r) : Origin history id id
  | inherited {step : Step} {origin parent id : RefId} {p : Reference} (member : step ∈ history)
      (derives : step.Derives parent p id) (bound : p.isBound = true)
      (earlier : Origin history origin parent) : Origin history origin id

theorem Origin.mono {history longer : List Step} {origin id : RefId}
    (part : ∀ step ∈ history, step ∈ longer) (h : Origin history origin id) :
    Origin longer origin id := by
  induction h with
  | own member binds => exact .own (part _ member) binds
  | inherited member derives bound _ ih => exact .inherited (part _ member) derives bound ih

theorem Origin.binds {history : List Step} {origin id : RefId} (h : Origin history origin id) :
    ∃ step ∈ history, ∃ r, step.Binds origin r := by
  induction h with
  | own member binds => exact ⟨_, member, _, binds⟩
  | inherited _ _ _ _ ih => exact ih

namespace Step

variable {step : Step} {id parent : RefId} {r p : Reference}

theorem Derives.found (derives : step.Derives parent p id) :
    step.before.reference? parent = some p := by
  obtain ⟨u, -, found, -⟩ := derives
  exact found

theorem Derives.after (derives : step.Derives parent p id) :
    ∃ r, step.after.reference? id = some r ∧ r.source = p.source ∧
      r.documentation? = p.documentation? := by
  obtain ⟨u, action, found, -, given⟩ := derives
  rw [answer, action] at given
  have there := Session.reference?_of_update found given
  rw [Step.after, action]
  exact ⟨_, there, rfl, rfl⟩

end Step

namespace Session

variable {disk : Disk} {s : Session} {actions : List Action} {origin id : RefId} {r : Reference}
  {object : Object Provider}

/-- What is made from a bound reference has its provider, from then on. -/
theorem later_of_derives {step : Step} {parent : RefId} {p : Reference}
    (member : step ∈ s.steps actions) (derives : step.Derives parent p id)
    (bound : p.documentation? = some object) :
    ∃ r, (s.run actions).reference? id = some r ∧ r.source = p.source ∧
      r.documentation? = some object := by
  obtain ⟨child, after, source, inherited⟩ := derives.after
  obtain ⟨later, found, kept⟩ := later_of_after member after
  exact ⟨later, found, kept.source.trans source,
    kept.documentation object (inherited.trans bound)⟩

/-- The provider of a reference is the one that is bound to its origin. -/
theorem provider_of_origin (h : Origin (s.steps actions) origin id)
    (found : (s.run actions).reference? id = some r) (bound : r.documentation? = some object) :
    ∃ first, (s.run actions).reference? origin = some first ∧ first.source = r.source ∧
      first.documentation? = some object := by
  induction h generalizing r with
  | own member binds => exact ⟨r, found, rfl, bound⟩
  | inherited member derives boundThen _ ih =>
    obtain ⟨held, was⟩ := Reference.isBound_iff.mp boundThen
    obtain ⟨child, there, source, inherited⟩ := later_of_derives member derives was
    obtain rfl := Option.some.inj (there.symm.trans found)
    obtain rfl := Option.some.inj (inherited.symm.trans bound)
    -- The parent still has what it had when the update took it over.
    obtain ⟨parent, holder, kept⟩ := later_of_before member derives.found
    obtain ⟨first, firstFound, same, firstBound⟩ := ih holder (kept.documentation _ was)
    exact ⟨first, firstFound, by rw [same, kept.source, source], firstBound⟩

/-- Every bound reference has an origin, in a run that starts without references. -/
theorem exists_origin (actions : List Action)
    (found : (({ disk } : Session).run actions).reference? id = some r)
    (bound : r.documentation? = some object) :
    ∃ origin, Origin (({ disk } : Session).steps actions) origin id := by
  -- From the end of the run: the last action decides whether the reference was bound before it.
  induction actions using List.reverseRecOn generalizing id r with
  | nil => cases found
  | append_singleton actions a ih =>
    rw [run_append] at found
    rw [steps_append]
    have kept : ∀ step ∈ ({ disk } : Session).steps actions,
        step ∈ ({ disk } : Session).steps actions ++ (({ disk } : Session).run actions).steps [a] :=
      fun _ => List.mem_append_left _
    have last : Step.mk (({ disk } : Session).run actions) a ∈
        ({ disk } : Session).steps actions ++ (({ disk } : Session).run actions).steps [a] :=
      List.mem_append_right _ List.mem_cons_self
    rcases bound_of_act found bound with ⟨old, there, before⟩ | ⟨old, binds⟩ |
      ⟨parent, p, derives, inherited⟩
    · obtain ⟨origin, earlier⟩ := ih there before
      exact ⟨origin, earlier.mono kept⟩
    · exact ⟨id, .own last binds⟩
    · obtain ⟨origin, earlier⟩ := ih derives.found inherited
      exact ⟨origin, .inherited last derives (Reference.isBound_iff.mpr ⟨object, inherited⟩)
        (earlier.mono kept)⟩

/-- What the request for a reference bound was new then, if its source gives new providers. -/
theorem id_of_binds {step : Step} {old : Reference} (member : step ∈ s.steps actions)
    (binds : step.Binds id old) (found : (s.run actions).reference? id = some r)
    (bound : r.documentation? = some object) (new : r.source.value.GivesNew) :
    object.id = step.before.fresh ∧ step.before.fresh < step.after.fresh := by
  obtain ⟨own, after, fresh⟩ := binds.after
  obtain ⟨later, there, kept⟩ := later_of_after member after
  obtain rfl := Option.some.inj (there.symm.trans found)
  have stays := kept.documentation own rfl
  obtain rfl := Option.some.inj (stays.symm.trans bound)
  rw [kept.source] at new
  exact fresh new

/-- Two requests that bound providers of one identity are one request. -/
theorem eq_of_binds {one other : Step} {id₁ id₂ : RefId} {old₁ old₂ r₁ r₂ : Reference}
    {object₁ object₂ : Object Provider} (first : one ∈ s.steps actions)
    (second : other ∈ s.steps actions) (binds₁ : one.Binds id₁ old₁)
    (binds₂ : other.Binds id₂ old₂) (found₁ : (s.run actions).reference? id₁ = some r₁)
    (found₂ : (s.run actions).reference? id₂ = some r₂)
    (bound₁ : r₁.documentation? = some object₁) (bound₂ : r₂.documentation? = some object₂)
    (new₁ : r₁.source.value.GivesNew) (new₂ : r₂.source.value.GivesNew)
    (same : object₁.id = object₂.id) : id₁ = id₂ := by
  have fresh₁ := id_of_binds first binds₁ found₁ bound₁ new₁
  have fresh₂ := id_of_binds second binds₂ found₂ bound₂ new₂
  rcases steps_ordered first second with rfl | ⟨between, before⟩ | ⟨between, before⟩
  · have asks : Action.documentation id₁ = .documentation id₂ := binds₁.1.symm.trans binds₂.1
    exact Action.documentation.inj asks
  · have grown := run_fresh one.after between
    rw [← before] at grown
    omega
  · have grown := run_fresh other.after between
    rw [← before] at grown
    omega

theorem isBound_iff_asked_or_inherited
    (found : (({ disk } : Session).run actions).reference? id = some r) :
    r.isBound = true ↔ (∃ step ∈ ({ disk } : Session).steps actions, step.AsksFor id) ∨
      ∃ step ∈ ({ disk } : Session).steps actions,
        ∃ parent p, step.Derives parent p id ∧ p.isBound = true := by
  constructor
  · intro bound
    obtain ⟨object, held⟩ := Reference.isBound_iff.mp bound
    obtain ⟨origin, h⟩ := exists_origin actions found held
    cases h with
    | own member binds =>
      obtain ⟨asks, there, -⟩ := binds
      exact Or.inl ⟨_, member, asks, _, there⟩
    | inherited member derives bound earlier => exact Or.inr ⟨_, member, _, _, derives, bound⟩
  · rintro (⟨step, member, asks⟩ | ⟨step, member, parent, p, derives, bound⟩)
    · obtain ⟨asked, after, bound⟩ := asks.after
      obtain ⟨object, held⟩ := Reference.isBound_iff.mp bound
      obtain ⟨later, there, kept⟩ := later_of_after member after
      obtain rfl := Option.some.inj (there.symm.trans found)
      exact Reference.isBound_iff.mpr ⟨object, kept.documentation object held⟩
    · obtain ⟨object, held⟩ := Reference.isBound_iff.mp bound
      obtain ⟨child, there, -, inherited⟩ := later_of_derives member derives held
      obtain rfl := Option.some.inj (there.symm.trans found)
      exact Reference.isBound_iff.mpr ⟨object, inherited⟩

theorem same_provider_iff {id₁ id₂ : RefId} {r₁ r₂ : Reference}
    {object₁ object₂ : Object Provider}
    (found₁ : (({ disk } : Session).run actions).reference? id₁ = some r₁)
    (bound₁ : r₁.documentation? = some object₁)
    (found₂ : (({ disk } : Session).run actions).reference? id₂ = some r₂)
    (bound₂ : r₂.documentation? = some object₂)
    (new₁ : r₁.source.value.GivesNew) (new₂ : r₂.source.value.GivesNew) :
    object₁.id = object₂.id ↔ ∃ origin, Origin (({ disk } : Session).steps actions) origin id₁ ∧
      Origin (({ disk } : Session).steps actions) origin id₂ := by
  constructor
  · intro same
    obtain ⟨origin₁, h₁⟩ := exists_origin actions found₁ bound₁
    obtain ⟨origin₂, h₂⟩ := exists_origin actions found₂ bound₂
    obtain ⟨first₁, there₁, source₁, held₁⟩ := provider_of_origin h₁ found₁ bound₁
    obtain ⟨first₂, there₂, source₂, held₂⟩ := provider_of_origin h₂ found₂ bound₂
    obtain ⟨one, member₁, old₁, binds₁⟩ := h₁.binds
    obtain ⟨other, member₂, old₂, binds₂⟩ := h₂.binds
    rw [← source₁] at new₁
    rw [← source₂] at new₂
    obtain rfl := eq_of_binds member₁ member₂ binds₁ binds₂ there₁ there₂ held₁ held₂ new₁ new₂ same
    exact ⟨origin₁, h₁, h₂⟩
  · rintro ⟨origin, h₁, h₂⟩
    obtain ⟨first, there, -, held₁⟩ := provider_of_origin h₁ found₁ bound₁
    obtain ⟨again, here, -, held₂⟩ := provider_of_origin h₂ found₂ bound₂
    obtain rfl := Option.some.inj (there.symm.trans here)
    obtain rfl := Option.some.inj (held₁.symm.trans held₂)
    rfl

/-- A reference is bound exactly if its documentation was asked for, or an update made it from a
reference that was bound then; it has the provider of that one. Nothing else binds, and sources are
asked for documentation once for each reference that its own request bound, and for an image with
each request for metadata. Where sources give new providers, references share one exactly if they
have a common origin. -/
theorem documentation_asked_or_inherited (disk : Disk) (actions : List Action) :
    let s := ({ disk } : Session).run actions
    let history := ({ disk } : Session).steps actions
    (∀ id r, s.reference? id = some r →
      (r.isBound = true ↔ (∃ step ∈ history, step.AsksFor id) ∨
        ∃ step ∈ history, ∃ parent p, step.Derives parent p id ∧ p.isBound = true)) ∧
    (∀ step ∈ history, ∀ parent p id object, step.Derives parent p id →
      p.documentation? = some object →
        ∃ r, s.reference? id = some r ∧ r.documentation? = some object) ∧
    (∀ id other, other ≠ id →
      (s.act (.documentation id)).2.reference? other = s.reference? other) ∧
    (∀ source, s.documentationCalls source =
      {id | ∃ step ∈ history, ∃ r, step.Binds id r ∧ r.source.id = source}.ncard) ∧
    (∀ source, s.loads source = history.countP (Step.loadsFrom source)) ∧
    ∀ id₁ id₂ r₁ r₂ object₁ object₂,
      s.reference? id₁ = some r₁ → r₁.documentation? = some object₁ →
      s.reference? id₂ = some r₂ → r₂.documentation? = some object₂ →
      r₁.source.value.GivesNew → r₂.source.value.GivesNew →
        (object₁.id = object₂.id ↔
          ∃ origin, Origin history origin id₁ ∧ Origin history origin id₂) := by
  intro s history
  refine ⟨?_, ?_, ?_, ?_, ?_, ?_⟩
  · exact fun id r found => isBound_iff_asked_or_inherited found
  · intro step member parent p id object derives bound
    obtain ⟨child, there, -, inherited⟩ := later_of_derives member derives bound
    exact ⟨child, there, inherited⟩
  · exact fun id other => act_documentation_other
  · exact fun source => documentationCalls_eq_ncard actions rfl
  · exact fun source => by simpa [loads] using loads_run { disk } source actions
  · intro id₁ id₂ r₁ r₂ object₁ object₂ found₁ bound₁ found₂ bound₂ new₁ new₂
    exact same_provider_iff found₁ bound₁ found₂ bound₂ new₁ new₂

/-- A reference made from a bound one has its origin; a second one that is created and bound on its
own has another. -/
theorem derived_shares_created_differs :
    let actions : List Action := [.makeSource (.memory { data := [77] }), .create 0 none .assembly,
      .documentation ⟨0⟩, .withEmbedInteropTypes ⟨0⟩ true, .create 0 none .assembly,
      .documentation ⟨2⟩]
    let history := ({ disk := .empty [] } : Session).steps actions
    (Source.memory { data := [77] }).GivesNew ∧
      (∃ origin, Origin history origin ⟨0⟩ ∧ Origin history origin ⟨1⟩) ∧
      ¬∃ origin, Origin history origin ⟨0⟩ ∧ Origin history origin ⟨2⟩ := by
  intro actions history
  have new : (Source.memory { data := [77] }).GivesNew := by
    intro disk earlier object same
    cases same
  obtain ⟨-, -, -, -, -, share⟩ := documentation_asked_or_inherited (.empty []) actions
  refine ⟨new, ?_, ?_⟩
  · exact (share ⟨0⟩ ⟨1⟩ _ _ _ _ rfl rfl rfl rfl new new).mp rfl
  · intro common
    have same := (share ⟨0⟩ ⟨2⟩ _ _ _ _ rfl rfl rfl rfl new new).mpr common
    exact absurd same (by decide)

end Session

end ImageRefs
