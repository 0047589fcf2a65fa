import ImageRefs.Proofs.Session.Run
import Mathlib.Data.Set.Card

/-!
How often sources are called. A source is asked for documentation once for each reference that is
bound by its own request, and for an image once for each request for metadata.
-/

set_option autoImplicit false

namespace ImageRefs

namespace Step

/-- The reference over the source that is bound by its own request. -/
def binder? (source : Nat) (step : Step) : Option RefId :=
  match step.action with
  | .documentation id =>
    if (step.before.reference? id).any fun r => !r.isBound && r.source.id == source then some id
    else none
  | _ => none

/-- Asks for the image of a reference over the source. -/
def loadsFrom (source : Nat) (step : Step) : Bool :=
  match step.action with
  | .metadata id => (step.before.reference? id).any fun r => r.source.id == source
  | _ => false

variable {step : Step} {source : Nat} {id : RefId}

theorem binder?_eq_some_iff :
    step.binder? source = some id ↔ ∃ r, step.Binds id r ∧ r.source.id = source := by
  obtain ⟨before, action⟩ := step
  cases action with
  | documentation other =>
    cases found : before.reference? other with
    | none =>
      simp only [binder?, Binds, found, Option.any_none, Action.documentation.injEq]
      constructor
      · intro h
        simp at h
      · rintro ⟨r, ⟨rfl, there, -⟩, -⟩
        rw [found] at there
        cases there
    | some r =>
      have unbound : r.isBound = false ↔ r.documentation? = none := by
        rw [Reference.isBound, Option.isSome_eq_false_iff, Option.isNone_iff_eq_none]
      simp only [binder?, Binds, found, Option.any_some, Bool.and_eq_true, Bool.not_eq_true',
        unbound, beq_iff_eq, Option.ite_none_right_eq_some, Option.some.injEq,
        Action.documentation.injEq]
      constructor
      · rintro ⟨⟨unbound, same⟩, rfl⟩
        exact ⟨r, ⟨rfl, found, unbound⟩, same⟩
      · rintro ⟨other, ⟨rfl, there, unbound⟩, same⟩
        obtain rfl := Option.some.inj (found.symm.trans there)
        exact ⟨⟨unbound, same⟩, rfl⟩
  | _ => simp [binder?, Binds]

theorem count_documentation (step : Step) (source : Nat) :
    (step.before.callsOf step.action).count (.documentation source) =
      (step.binder? source).toList.length := by
  obtain ⟨before, action⟩ := step
  cases action with
  | documentation id =>
    simp only [Session.callsOf, binder?]
    cases before.reference? id with
    | none => rfl
    | some r =>
      by_cases bound : r.isBound
      · simp [bound]
      · by_cases same : r.source.id = source <;> simp [bound, same]
  | metadata id =>
    simp only [Session.callsOf, binder?]
    cases before.reference? id <;> simp
  | _ => rfl

theorem count_load (step : Step) (source : Nat) :
    (step.before.callsOf step.action).count (.load source) =
      if step.loadsFrom source then 1 else 0 := by
  obtain ⟨before, action⟩ := step
  cases action with
  | documentation id =>
    simp only [Session.callsOf, loadsFrom]
    cases before.reference? id with
    | none => rfl
    | some r => by_cases bound : r.isBound <;> simp [bound]
  | metadata id =>
    cases found : before.reference? id with
    | none => simp [Session.callsOf, loadsFrom, found]
    | some r =>
      by_cases same : r.source.id = source <;> simp [Session.callsOf, loadsFrom, found, same]
  | _ => rfl

end Step

namespace Session

variable {s : Session} {source : Nat}

/-- The references over a source that were bound by their own requests, in order. -/
def binders (source : Nat) (history : List Step) : List RefId :=
  history.filterMap (Step.binder? source)

theorem binders_cons (step : Step) (history : List Step) :
    binders source (step :: history) =
      (step.binder? source).toList ++ binders source history := by
  rw [binders, List.filterMap_cons]
  cases step.binder? source <;> rfl

theorem mem_binders_iff {history : List Step} {id : RefId} :
    id ∈ binders source history ↔
      ∃ step ∈ history, ∃ r, step.Binds id r ∧ r.source.id = source := by
  simp [binders, Step.binder?_eq_some_iff]

theorem documentationCalls_run (s : Session) (source : Nat) (actions : List Action) :
    (s.run actions).documentationCalls source =
      s.documentationCalls source + (binders source (s.steps actions)).length := by
  induction actions generalizing s with
  | nil => rfl
  | cons a actions ih =>
    have step : (s.act a).2.documentationCalls source =
        s.documentationCalls source + (Step.binder? source ⟨s, a⟩).toList.length := by
      rw [documentationCalls, (act_effect s a).calls, List.count_append]
      exact congrArg _ (Step.count_documentation ⟨s, a⟩ source)
    calc
      (s.run (a :: actions)).documentationCalls source
        = ((s.act a).2.run actions).documentationCalls source := rfl
      _ = s.documentationCalls source + (binders source (s.steps (a :: actions))).length := by
          rw [ih, step, steps, binders_cons, List.length_append, Nat.add_assoc]

theorem loads_run (s : Session) (source : Nat) (actions : List Action) :
    (s.run actions).loads source =
      s.loads source + (s.steps actions).countP (Step.loadsFrom source) := by
  induction actions generalizing s with
  | nil => rfl
  | cons a actions ih =>
    have step : (s.act a).2.loads source =
        s.loads source + if Step.loadsFrom source ⟨s, a⟩ then 1 else 0 := by
      rw [loads, (act_effect s a).calls, List.count_append]
      exact congrArg _ (Step.count_load ⟨s, a⟩ source)
    calc
      (s.run (a :: actions)).loads source = ((s.act a).2.run actions).loads source := rfl
      _ = s.loads source + (s.steps (a :: actions)).countP (Step.loadsFrom source) := by
          rw [ih, step, steps, List.countP_cons]
          omega

/-- No reference is bound by its own request twice. -/
theorem nodup_binders (s : Session) (source : Nat) (actions : List Action) :
    (binders source (s.steps actions)).Nodup := by
  induction actions using List.reverseRecOn with
  | nil => exact List.nodup_nil
  | append_singleton actions a ih =>
    rw [steps_append, binders, List.filterMap_append]
    refine List.nodup_append.mpr ⟨ih, ?_, ?_⟩
    · simp only [steps, List.filterMap_cons, List.filterMap_nil]
      cases Step.binder? source ⟨s.run actions, a⟩ <;> simp
    · -- Whatever was bound earlier is still bound now, and so is not bound again.
      rintro id earlier other now rfl
      obtain ⟨step, member, r, binds, -⟩ := mem_binders_iff.mp earlier
      obtain ⟨last, new, r', rebinds, -⟩ := mem_binders_iff.mp now
      obtain rfl := List.mem_singleton.mp new
      obtain ⟨object, after, -⟩ := binds.after
      obtain ⟨later, found, kept⟩ := later_of_after member after
      obtain ⟨-, there, unbound⟩ := rebinds
      obtain rfl := Option.some.inj (found.symm.trans there)
      rw [kept.documentation object rfl] at unbound
      cases unbound

/-- A source is asked for documentation once for each reference over it that is bound by its own
request. -/
theorem documentationCalls_eq_ncard (actions : List Action) (none_yet : s.calls = []) :
    (s.run actions).documentationCalls source =
      {id | ∃ step ∈ s.steps actions, ∃ r, step.Binds id r ∧ r.source.id = source}.ncard := by
  have binders_set : {id | ∃ step ∈ s.steps actions, ∃ r, step.Binds id r ∧ r.source.id = source} =
      (List.toFinset (binders source (s.steps actions)) : Set RefId) := by
    ext id
    rw [List.coe_toFinset]
    exact mem_binders_iff.symm
  rw [binders_set, Set.ncard_coe_finset,
    List.toFinset_card_of_nodup (nodup_binders s source actions), documentationCalls_run,
    documentationCalls, none_yet]
  simp

end Session

end ImageRefs
