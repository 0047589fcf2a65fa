import ImageRefs.Proofs.Binding.Account
import Mathlib.Data.List.Nodup

/-!
Publishing once. Whichever factory finishes first binds its object, and from then on no call runs
a factory: all calls, the outer ones that wait for it included, give that object.
-/

set_option autoImplicit false

namespace ImageRefs

open Documentation

/-- The candidate that is answered first when the factory runs: that of the factory in its first
question, or its own if it asks nothing. -/
def Factory.first : Factory → Candidate
  | .answer candidate => candidate
  | .ask inner _ => inner.first

namespace Binding

variable {bound : Object Provider} {b : Binding}

@[simp] theorem note_provider? (b : Binding) (moment : Moment) :
    (b.note moment).provider? = b.provider? := rfl

theorem publish_provider? (b : Binding) (candidate : Object Provider) :
    (b.publish candidate).2.provider? = some (b.provider?.getD candidate) := rfl

theorem obtain_provider? (b : Binding) (candidate : Candidate) :
    (b.obtain candidate).2.provider? = b.provider? := by
  obtain ⟨fresh, -, same⟩ := b.obtain_eq candidate
  rw [same]

/-- A call on a bound binder runs nothing. -/
theorem request_bound (run : Binding → Candidate × Binding) (h : b.provider? = some bound) :
    b.request run = (bound, b.enter.2.note (.returned b.calls bound)) := by
  have still : b.enter.2.provider? = some bound := h
  simp only [request, still]
  rfl

/-- A call on an unbound binder runs its factory and publishes what it yields. -/
theorem request_unbound (run : Binding → Candidate × Binding) (h : b.provider? = none) :
    b.request run =
      let ran := run (b.enter.2.note (.started b.calls))
      let obtained := ran.2.obtain ran.1
      let published := (obtained.2.note (.finished b.calls ran.1 obtained.1)).publish obtained.1
      (published.1, published.2.note (.returned b.calls published.1)) := by
  have still : b.enter.2.provider? = none := h
  simp only [request, still]
  rfl

/-! ### Stretches -/

/-- A stretch in which something is bound all the time: no factory finishes, since none runs. -/
structure Rest (b after : Binding) (bound : Object Provider) (moments : List Moment) : Prop where
  account : Account bound b after moments
  complete : Complete moments
  provider : after.provider? = some bound
  none_finished : finishedObjects moments = []

/-- A stretch in which the first factory to finish binds its object. -/
structure Nest (b after : Binding) (bound : Object Provider) (moments : List Moment) : Prop where
  account : Account bound b after moments
  complete : Complete moments
  provider : after.provider? = some bound
  first : (finishedObjects moments).head? = some bound

variable {middle after : Binding} {first second : List Moment}

theorem Rest.trans (one : Rest b middle bound first) (other : Rest middle after bound second) :
    Rest b after bound (first ++ second) where
  account := one.account.trans other.account
  complete := one.complete.append other.complete
  provider := other.provider
  none_finished := by rw [finishedObjects_append, one.none_finished, other.none_finished]; rfl

theorem Nest.trans (one : Nest b middle bound first) (other : Rest middle after bound second) :
    Nest b after bound (first ++ second) where
  account := one.account.trans other.account
  complete := one.complete.append other.complete
  provider := other.provider
  first := by rw [finishedObjects_append, other.none_finished, List.append_nil]; exact one.first

theorem rest_request (run : Binding → Candidate × Binding) (h : b.provider? = some bound) :
    Rest b (b.request run).2 bound [.entered b.calls true, .returned b.calls bound] where
  account := by
    rw [request_bound run h]
    exact (account_enter_bound h).trans (account_return bound b.enter.2 b.calls)
  complete := ⟨by simp, rfl⟩
  provider := by
    rw [request_bound run h]
    exact h
  none_finished := rfl

/-- A factory that runs while something is bound only meets what is bound. -/
theorem rest_run (f : Factory) (h : b.provider? = some bound) :
    ∃ moments, Rest b (f.run b).2 bound moments := by
  induction f generalizing b with
  | answer candidate => exact ⟨[], .refl bound b, .nil, h, rfl⟩
  | ask inner next _ ih =>
    have asked := rest_request inner.run h
    obtain ⟨moments, rest⟩ := ih (b.request inner.run).1 asked.provider
    exact ⟨_, asked.trans rest⟩

/-- What a factory did before it answered: nothing, or its calls have bound a provider. -/
def Prepared (b after : Binding) : Prop :=
  after = b ∨ ∃ bound moments, Nest b after bound moments

/-- Whichever it did, it is settled what will be bound when it answers. -/
theorem Prepared.settled {after : Binding} (ready : Prepared b after) (h : b.provider? = none)
    (candidate : Candidate) :
    ∃ bound moments, Account bound b after moments ∧ Complete moments ∧
      after.provider?.getD (after.obtain candidate).1 = bound ∧
      (finishedObjects moments ++ [(after.obtain candidate).1]).head? = some bound := by
  rcases ready with rfl | ⟨bound, moments, nest⟩
  · exact ⟨(after.obtain candidate).1, [], .refl _ after, .nil, by rw [h]; rfl, rfl⟩
  · refine ⟨bound, moments, nest.account, nest.complete, by rw [nest.provider]; rfl, ?_⟩
    rw [List.head?_append, nest.first]
    rfl

/-- A call on an unbound binder binds the first finished object of its nest, and returns it. -/
theorem nest_request {run : Binding → Candidate × Binding} (h : b.provider? = none)
    (ready : Prepared (b.enter.2.note (.started b.calls))
      (run (b.enter.2.note (.started b.calls))).2) :
    ∃ moments, Nest b (b.request run).2 (b.request run).1 moments := by
  rw [request_unbound run h]
  generalize run (b.enter.2.note (.started b.calls)) = ran at ready ⊢
  obtain ⟨candidate, middle⟩ := ran
  obtain ⟨bound, moments, account, complete, won, first⟩ := ready.settled h candidate
  have entering := account_enter_unbound bound h
  have finishing := account_finish middle b.calls candidate won
  have published : ((((middle.obtain candidate).2.note (.finished b.calls candidate
      (middle.obtain candidate).1)).publish (middle.obtain candidate).1).1) = bound := by
    rw [← won, ← obtain_provider? middle candidate]
    rfl
  dsimp only
  rw [published]
  refine ⟨_, ((entering.trans account).trans finishing).trans (account_return bound _ b.calls),
    ?_, ?_, ?_⟩
  · simpa using complete.call b.calls candidate (middle.obtain candidate).1 bound
  · rw [note_provider?, publish_provider?, note_provider?, obtain_provider?, won]
  · simpa [finishedObjects, Moment.finishedObject?, List.filterMap_cons] using first

theorem prepared_run (f : Factory) (h : b.provider? = none) : Prepared b (f.run b).2 := by
  induction f generalizing b with
  | answer candidate => exact Or.inl rfl
  | ask inner next ihInner _ =>
    -- The first call settles what is bound. All later ones come to a bound binder, so what the
    -- factory does after it is a rest, whatever it does.
    have waiting : (b.enter.2.note (.started b.calls)).provider? = none := h
    obtain ⟨moments, nest⟩ := nest_request h (ihInner waiting)
    obtain ⟨others, rest⟩ := rest_run (next (b.request inner.run).1) nest.provider
    exact Or.inr ⟨_, _, nest.trans rest⟩

theorem nest_getOrBind (f : Factory) (h : b.provider? = none) :
    ∃ moments, Nest b (b.getOrBind f).2 (b.getOrBind f).1 moments := by
  have waiting : (b.enter.2.note (.started b.calls)).provider? = none := h
  exact nest_request h (prepared_run f waiting)

/-- A factory that only answers: what stands for its candidate is bound. -/
theorem getOrBind_answer (h : b.provider? = none) (candidate : Candidate) :
    (b.getOrBind (.answer candidate)).1 = (b.obtain candidate).1 ∧
      (b.getOrBind (.answer candidate)).2.provider? = some (b.obtain candidate).1 ∧
      (b.getOrBind (.answer candidate)).2.fresh = (b.obtain candidate).2.fresh := by
  obtain ⟨provider?, fresh, log, calls, history⟩ := b
  subst h
  cases candidate <;> exact ⟨rfl, rfl, rfl⟩

/-- What such a factory answers is never too late. -/
theorem getOrBind_answer_log (h : b.provider? = none) (candidate : Candidate) :
    (b.getOrBind (.answer candidate)).2.log =
      b.log ++ [.providerBound (b.obtain candidate).1.value.isEmpty] := by
  obtain ⟨provider?, fresh, log, calls, history⟩ := b
  subst h
  cases candidate <;>
    simp [getOrBind, request, enter, note, Factory.run, obtain, publish]

/-! ### The candidate that is bound -/

theorem obtain_waiting (b : Binding) (candidate : Candidate) :
    ((b.enter.2.note (.started b.calls)).obtain candidate).1 = (b.obtain candidate).1 := by
  cases candidate <;> rfl

/-- A call whose factory has bound a provider before it answers gives that one. -/
theorem request_overtaken {run : Binding → Candidate × Binding} (h : b.provider? = none)
    (won : (run (b.enter.2.note (.started b.calls))).2.provider? = some bound) :
    (b.request run).1 = bound := by
  rw [request_unbound run h]
  simp [publish, obtain_provider?, won]

/-- What is bound comes from the factory alone, however it goes on after its first question. -/
theorem request_run_first (f : Factory) (h : b.provider? = none) :
    (b.request f.run).1 = (b.obtain f.first).1 := by
  induction f generalizing b with
  | answer candidate => exact (getOrBind_answer h candidate).1
  | ask inner next ihInner _ =>
    have waiting : (b.enter.2.note (.started b.calls)).provider? = none := h
    obtain ⟨moments, nest⟩ := nest_getOrBind inner waiting
    -- The answer to the first question is bound, so what the factory does with it is a rest.
    obtain ⟨others, rest⟩ := rest_run (next _) nest.provider
    calc (b.request (Factory.ask inner next).run).1
        = ((b.enter.2.note (.started b.calls)).getOrBind inner).1 :=
          request_overtaken h rest.provider
      _ = ((b.enter.2.note (.started b.calls)).obtain inner.first).1 := ihInner waiting
      _ = (b.obtain inner.first).1 := obtain_waiting b inner.first

/-! ### The whole life of a binder -/

/-- The binder after calls one after the other. -/
def asked (b : Binding) (factories : List Factory) : Binding :=
  factories.foldl (fun b f => (b.getOrBind f).2) b

theorem rest_asked (factories : List Factory) (h : b.provider? = some bound) :
    ∃ moments, Rest b (b.asked factories) bound moments := by
  induction factories generalizing b with
  | nil => exact ⟨[], .refl bound b, .nil, h, rfl⟩
  | cons f factories ih =>
    have one := rest_request f.run h
    obtain ⟨moments, rest⟩ := ih one.provider
    exact ⟨_, one.trans rest⟩

theorem nest_asked (f : Factory) (later : List Factory) (h : b.provider? = none) :
    ∃ moments, Nest b (b.asked (f :: later)) (b.getOrBind f).1 moments := by
  obtain ⟨moments, nest⟩ := nest_getOrBind f h
  obtain ⟨others, rest⟩ := rest_asked later nest.provider
  exact ⟨_, nest.trans rest⟩

theorem account_asked (b : Binding) (factories : List Factory) :
    ∃ bound moments, Account bound b (b.asked factories) moments ∧ Complete moments := by
  cases place : b.provider? with
  | some bound =>
    obtain ⟨moments, rest⟩ := rest_asked factories place
    exact ⟨bound, moments, rest.account, rest.complete⟩
  | none =>
    cases factories with
    | nil => exact ⟨⟨0, .nothing⟩, [], .refl _ b, .nil⟩
    | cons f later =>
      obtain ⟨moments, nest⟩ := nest_asked f later place
      exact ⟨_, moments, nest.account, nest.complete⟩

end Binding

namespace Account

variable {bound : Object Provider} {b after : Binding} {moments : List Moment}

theorem entered_nodup (account : Account bound b after moments) :
    (moments.filterMap Moment.enteredCall?).Nodup := by
  rw [account.entered]
  exact List.nodup_range'

/-- Factories run once, for the calls that were made while nothing was bound. -/
theorem count_started (account : Account bound b after moments) (call : Nat) :
    moments.count (.started call) = if .entered call false ∈ moments then 1 else 0 := by
  have starts : (moments.filterMap Moment.startedCall?).count call =
      moments.count (.started call) := by
    rw [List.count_filterMap, List.count]
    congr 1
    funext moment
    cases moment <;> simp [Moment.startedCall?]
  have unbound : (moments.filterMap Moment.unboundCall?).count call =
      moments.count (.entered call false) := by
    rw [List.count_filterMap, List.count]
    congr 1
    funext moment
    cases moment with
    | entered other isBound => cases isBound <;> simp [Moment.unboundCall?]
    | started other => simp [Moment.unboundCall?]
    | finished other candidate object => simp [Moment.unboundCall?]
    | returned other object => simp [Moment.unboundCall?]
  -- No number is given to two calls, and starts are as many as unbound entries, call by call.
  have once : moments.count (.entered call false) ≤ 1 := by
    have entries := List.nodup_iff_count_le_one.mp account.entered_nodup call
    rw [List.count_filterMap] at entries
    refine le_trans (List.countP_mono_left ?_) entries
    intro moment _ same
    rw [eq_of_beq same]
    simp [Moment.enteredCall?]
  rw [← starts, account.started, unbound]
  split
  next member => exact le_antisymm once (List.count_pos_iff.mpr member)
  next absent => exact List.count_eq_zero.mpr absent

end Account

/-- If all factories answered with objects of their own, the first one is bound and all others are
discarded. -/
theorem Binding.Nest.events {b after : Binding} {bound : Object Provider} {moments : List Moment}
    (nest : Nest b after bound moments)
    (own : ((finishedObjects moments).map Object.id).Nodup) :
    (finishedObjects moments).map (publication bound) =
      .providerBound bound.value.isEmpty ::
        List.replicate ((finishedObjects moments).length - 1) .candidateDiscarded := by
  have first := nest.first
  cases finished : finishedObjects moments with
  | nil => simp [finished] at first
  | cons object rest =>
    rw [finished, List.head?_cons, Option.some.injEq] at first
    subst first
    rw [finished, List.map_cons, List.nodup_cons] at own
    -- Only the identity decides what is reported, so equal providers do not make a later one win.
    have discarded : ∀ other ∈ rest, publication object other = .candidateDiscarded := by
      intro other member
      refine if_neg fun same => own.1 ?_
      rw [same]
      exact List.mem_map_of_mem member
    rw [List.map_cons, List.map_congr_left discarded]
    simp [publication, List.map_const']

namespace Binding

/-- Asking a binder. A bound one returns its provider and runs nothing. An unbound one is bound to
the object of the factory that finishes first in the whole nest of calls, that is, to the candidate
of the innermost factory among the first questions, and all of these calls return that object. A
factory runs once, and to its end, for each call that was made while nothing was bound, and for no
other. What is bound stays bound. Over a life that starts unbound, one binding is reported, and all
other factories that ran are reported as too late, as long as their objects are different ones. -/
theorem getOrBind_binds_first_finished (b : Binding) (f : Factory) (later : List Factory) :
    (∀ bound, b.provider? = some bound →
      b.getOrBind f = (bound, { b with
        calls := b.calls + 1
        history := b.history ++ [.entered b.calls true, .returned b.calls bound] })) ∧
    (b.provider? = none → ∃ moments,
      (b.getOrBind f).2.history = b.history ++ moments ∧
      (b.getOrBind f).2.provider? = some (b.getOrBind f).1 ∧
      (b.getOrBind f).1 = (b.obtain f.first).1 ∧
      (finishedObjects moments).head? = some (b.getOrBind f).1 ∧
      (∀ call candidate object, .finished call candidate object ∈ moments →
        candidate.StandsFor b.fresh object) ∧
      (∀ call wasBound, .entered call wasBound ∈ moments →
        .returned call (b.getOrBind f).1 ∈ moments) ∧
      ∀ call object, .returned call object ∈ moments → object = (b.getOrBind f).1) ∧
    (∃ moments, (b.asked (f :: later)).history = b.history ++ moments ∧
      (moments.filterMap Moment.enteredCall?).Nodup ∧
      (∀ call, moments.count (.started call) =
        if .entered call false ∈ moments then 1 else 0) ∧
      (finishedObjects moments).length = (moments.filterMap Moment.startedCall?).length) ∧
    (∀ bound, b.provider? = some bound → (b.asked later).provider? = some bound) ∧
    (b.provider? = none → ∃ bound moments events,
      (b.asked (f :: later)).provider? = some bound ∧
      (b.asked (f :: later)).history = b.history ++ moments ∧
      (b.asked (f :: later)).log = b.log ++ events ∧
      (((finishedObjects moments).map Object.id).Nodup →
        events = .providerBound bound.value.isEmpty ::
          List.replicate ((finishedObjects moments).length - 1) .candidateDiscarded)) := by
  refine ⟨?_, ?_, ?_, ?_, ?_⟩
  · intro bound h
    rw [getOrBind, request_bound f.run h]
    simp [enter, note, isBound, h]
  · intro h
    obtain ⟨moments, nest⟩ := nest_getOrBind f h
    refine ⟨moments, nest.account.history, nest.provider, request_run_first f h, nest.first,
      nest.account.stands, ?_, nest.account.returns⟩
    intro call wasBound member
    obtain ⟨object, returned⟩ := nest.complete.returned call wasBound member
    rwa [← nest.account.returns call object returned]
  · obtain ⟨bound, moments, account, complete⟩ := account_asked b (f :: later)
    exact ⟨moments, account.history, account.entered_nodup, account.count_started,
      complete.finished⟩
  · intro bound h
    obtain ⟨moments, rest⟩ := rest_asked later h
    exact rest.provider
  · intro h
    obtain ⟨moments, nest⟩ := nest_asked f later h
    exact ⟨_, moments, _, nest.provider, nest.account.history, nest.account.log, nest.events⟩

/-- A factory that asks the binder and then answers nothing: what the inner factory answered is
bound, and the outer one is too late. -/
theorem inner_answer_binds :
    let f : Factory := .ask (.answer (.fresh (.texts [("T:A", "a")]))) fun _ => .answer .nothing
    ({} : Binding).provider? = none ∧
      (({} : Binding).getOrBind f).1 = ⟨0, .texts [("T:A", "a")]⟩ ∧
      (({} : Binding).asked [f, .answer .nothing]).provider? = some ⟨0, .texts [("T:A", "a")]⟩ ∧
      (({} : Binding).asked [f, .answer .nothing]).log =
        [.providerBound false, .candidateDiscarded] := by
  intro f
  obtain ⟨-, nest, -, -, life⟩ := getOrBind_binds_first_finished {} f [.answer .nothing]
  obtain ⟨-, -, -, given, -⟩ := nest rfl
  obtain ⟨bound, moments, events, provider, history, log, report⟩ := life rfl
  have whole : moments = (({} : Binding).asked [f, .answer .nothing]).history := history.symm
  have own : ((finishedObjects moments).map Object.id).Nodup := by
    rw [whole]
    decide
  have first : bound = ⟨0, .texts [("T:A", "a")]⟩ := Option.some.inj provider.symm
  refine ⟨rfl, given, provider.trans (congrArg _ first), ?_⟩
  rw [log, report own, whole, first]
  decide

end Binding

end ImageRefs
