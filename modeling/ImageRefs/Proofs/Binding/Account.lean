import ImageRefs.Binding
import Mathlib.Data.List.Range

/-!
Accounts of what happens at a binder. An account covers a stretch of its life, however deep the
factories nest in it, and accounts of neighbouring stretches add up to one.
-/

set_option autoImplicit false

namespace ImageRefs

open Documentation

/-! ### What a history tells -/

namespace Moment

def enteredCall? : Moment → Option Nat
  | .entered call _ => some call
  | _ => none

/-- The call, if it was made while nothing was bound. -/
def unboundCall? : Moment → Option Nat
  | .entered call false => some call
  | _ => none

def startedCall? : Moment → Option Nat
  | .started call => some call
  | _ => none

def finishedObject? : Moment → Option (Object Provider)
  | .finished _ _ object => some object
  | _ => none

end Moment

/-- The objects that factories answered with, in the order in which they finished. -/
def finishedObjects (moments : List Moment) : List (Object Provider) :=
  moments.filterMap Moment.finishedObject?

@[simp] theorem finishedObjects_append (first second : List Moment) :
    finishedObjects (first ++ second) = finishedObjects first ++ finishedObjects second :=
  List.filterMap_append

/-- The object of a candidate: a new one, unless the candidate is an object already. -/
def Candidate.StandsFor (fresh : Nat) : Candidate → Object Provider → Prop
  | .nothing, object => fresh ≤ object.id ∧ object.value = .nothing
  | .fresh provider, object => fresh ≤ object.id ∧ object.value = provider
  | .existing other, object => object = other

/-- The event of a factory that finished, when `bound` is what the binder has in the end. -/
def publication (bound candidate : Object Provider) : Event :=
  if bound.id = candidate.id then .providerBound bound.value.isEmpty else .candidateDiscarded

/-- A stretch of the life of a binder in which everything that is returned is the object `bound`. -/
structure Account (bound : Object Provider) (b after : Binding) (moments : List Moment) :
    Prop where
  history : after.history = b.history ++ moments
  log : after.log = b.log ++ (finishedObjects moments).map (publication bound)
  fresh : b.fresh ≤ after.fresh
  stands : ∀ call candidate object,
    .finished call candidate object ∈ moments → candidate.StandsFor b.fresh object
  returns : ∀ call object, .returned call object ∈ moments → object = bound
  calls : b.calls ≤ after.calls
  entered : moments.filterMap Moment.enteredCall? = List.range' b.calls (after.calls - b.calls)
  started : moments.filterMap Moment.startedCall? = moments.filterMap Moment.unboundCall?

theorem Candidate.StandsFor.mono {fresh earlier : Nat} {candidate : Candidate}
    {object : Object Provider} (le : earlier ≤ fresh) (h : candidate.StandsFor fresh object) :
    candidate.StandsFor earlier object := by
  cases candidate with
  | nothing => exact ⟨le.trans h.1, h.2⟩
  | fresh provider => exact ⟨le.trans h.1, h.2⟩
  | existing other => exact h

namespace Account

variable {bound : Object Provider} {b middle after : Binding} {first second : List Moment}

theorem refl (bound : Object Provider) (b : Binding) : Account bound b b [] where
  history := by simp
  log := by simp [finishedObjects]
  fresh := Nat.le_refl _
  stands := by simp
  returns := by simp
  calls := Nat.le_refl _
  entered := by simp
  started := rfl

theorem trans (one : Account bound b middle first) (other : Account bound middle after second) :
    Account bound b after (first ++ second) where
  history := by rw [other.history, one.history, List.append_assoc]
  log := by rw [other.log, one.log, finishedObjects_append, List.map_append, List.append_assoc]
  fresh := one.fresh.trans other.fresh
  stands := by
    intro call candidate object member
    rcases List.mem_append.mp member with member | member
    · exact one.stands call candidate object member
    · exact (other.stands call candidate object member).mono one.fresh
  returns := by
    intro call object member
    rcases List.mem_append.mp member with member | member
    · exact one.returns call object member
    · exact other.returns call object member
  calls := one.calls.trans other.calls
  entered := by
    -- Calls are numbered in order: the second stretch goes on where the first one ends.
    have split : after.calls - b.calls =
        (middle.calls - b.calls) + (after.calls - middle.calls) := by
      have := one.calls
      have := other.calls
      omega
    have start : middle.calls = b.calls + (middle.calls - b.calls) := by
      have := one.calls
      omega
    rw [List.filterMap_append, one.entered, other.entered, split, ← List.range'_append_1, ← start]
  started := by
    rw [List.filterMap_append, List.filterMap_append, one.started, other.started]

end Account

/-- Moments that leave no call without a return and no factory without an answer. -/
structure Complete (moments : List Moment) : Prop where
  returned : ∀ call wasBound, .entered call wasBound ∈ moments →
    ∃ object, .returned call object ∈ moments
  finished : (finishedObjects moments).length = (moments.filterMap Moment.startedCall?).length

namespace Complete

variable {first second : List Moment}

theorem nil : Complete [] := ⟨by simp, rfl⟩

theorem append (one : Complete first) (other : Complete second) : Complete (first ++ second) where
  returned := by
    intro call wasBound member
    rcases List.mem_append.mp member with member | member
    · obtain ⟨object, returned⟩ := one.returned call wasBound member
      exact ⟨object, List.mem_append_left _ returned⟩
    · obtain ⟨object, returned⟩ := other.returned call wasBound member
      exact ⟨object, List.mem_append_right _ returned⟩
  finished := by simp [one.finished, other.finished]

/-- A call that runs its factory is complete if all that happens meanwhile is. -/
theorem call (within : Complete first) (call : Nat) (candidate : Candidate)
    (object bound : Object Provider) :
    Complete ([.entered call false, .started call] ++ first ++
      [.finished call candidate object] ++ [.returned call bound]) where
  returned := by
    intro other wasBound member
    simp only [List.append_assoc, List.cons_append, List.nil_append, List.mem_cons,
      List.mem_append, Moment.entered.injEq, reduceCtorEq, List.not_mem_nil, or_false,
      false_or] at member ⊢
    rcases member with ⟨rfl, -⟩ | member
    · exact ⟨bound, Or.inr (by simp)⟩
    · obtain ⟨result, returned⟩ := within.returned other wasBound member
      exact ⟨result, Or.inl returned⟩
  finished := by
    have within := within.finished
    simp only [finishedObjects] at within
    simp [finishedObjects, List.filterMap_cons, Moment.finishedObject?, Moment.startedCall?, within]

end Complete

/-! ### Single moments -/

namespace Binding

variable {bound : Object Provider} {b : Binding}

/-- A call that finds a provider. -/
theorem account_enter_bound (h : b.provider? = some bound) :
    Account bound b b.enter.2 [.entered b.calls true] where
  history := by simp [enter, note, isBound, h]
  log := by simp [enter, note, finishedObjects, Moment.finishedObject?]
  fresh := Nat.le_refl _
  stands := by simp
  returns := by simp
  calls := Nat.le_succ _
  entered := by simp [enter, note, Moment.enteredCall?]
  started := rfl

/-- A call that finds none, and whose factory starts. -/
theorem account_enter_unbound (bound : Object Provider) (h : b.provider? = none) :
    Account bound b (b.enter.2.note (.started b.calls))
      [.entered b.calls false, .started b.calls] where
  history := by simp [enter, note, isBound, h]
  log := by simp [enter, note, finishedObjects, Moment.finishedObject?]
  fresh := Nat.le_refl _
  stands := by simp
  returns := by simp
  calls := Nat.le_succ _
  entered := by simp [enter, note, Moment.enteredCall?]
  started := rfl

theorem obtain_stands (b : Binding) (candidate : Candidate) :
    candidate.StandsFor b.fresh (b.obtain candidate).1 := by
  cases candidate with
  | nothing => exact ⟨Nat.le_refl _, rfl⟩
  | fresh provider => exact ⟨Nat.le_refl _, rfl⟩
  | existing object => rfl

/-- Taking a candidate changes nothing but what is the next new object. -/
theorem obtain_eq (b : Binding) (candidate : Candidate) :
    ∃ fresh, b.fresh ≤ fresh ∧ (b.obtain candidate).2 = { b with fresh } := by
  cases candidate with
  | nothing => exact ⟨b.fresh + 1, Nat.le_succ _, rfl⟩
  | fresh provider => exact ⟨b.fresh + 1, Nat.le_succ _, rfl⟩
  | existing object => exact ⟨b.fresh, Nat.le_refl _, rfl⟩

/-- A factory that finishes: its candidate is bound, or another object was before. -/
theorem account_finish (b : Binding) (call : Nat) (candidate : Candidate)
    (won : b.provider?.getD (b.obtain candidate).1 = bound) :
    Account bound b
      (((b.obtain candidate).2.note (.finished call candidate (b.obtain candidate).1)).publish
        (b.obtain candidate).1).2
      [.finished call candidate (b.obtain candidate).1] := by
  obtain ⟨fresh, le, same⟩ := b.obtain_eq candidate
  rw [same]
  exact {
    history := by simp [publish, note]
    log := by simp [publish, note, won, finishedObjects, Moment.finishedObject?, publication]
    fresh := le
    stands := by
      intro other offered object member
      simp only [List.mem_singleton, Moment.finished.injEq] at member
      obtain ⟨-, rfl, rfl⟩ := member
      exact b.obtain_stands offered
    returns := by simp
    calls := Nat.le_refl _
    entered := by simp [publish, note, Moment.enteredCall?]
    started := rfl }

theorem account_return (bound : Object Provider) (b : Binding) (call : Nat) :
    Account bound b (b.note (.returned call bound)) [.returned call bound] where
  history := rfl
  log := by simp [note, finishedObjects, Moment.finishedObject?]
  fresh := Nat.le_refl _
  stands := by simp
  returns := by simp
  calls := Nat.le_refl _
  entered := by simp [note, Moment.enteredCall?]
  started := rfl

end Binding

end ImageRefs
