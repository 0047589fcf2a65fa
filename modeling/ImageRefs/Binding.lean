import ImageRefs.Documentation.Provider
import ImageRefs.Event
import ImageRefs.Object

/-!
Binding a documentation provider, once. The provider comes from a factory that runs when it is
first asked for. A factory may ask the same binder before it answers: whichever run finishes first
binds its candidate, and every other candidate is discarded.
-/

set_option autoImplicit false

namespace ImageRefs

open Documentation

/-- What a factory answers. -/
inductive Candidate where
  /-- No provider; a new one without documentation stands for it. -/
  | nothing
  | fresh (provider : Provider)
  | existing (object : Object Provider)
  deriving DecidableEq, Repr

/-- What a factory does when it runs: it may ask the binder before it answers, and goes on with the
provider that it is given. -/
inductive Factory where
  | answer (candidate : Candidate)
  | ask (inner : Factory) (next : Object Provider → Factory)

/-- A moment in the life of a binder. Calls are numbered in the order in which they are made. -/
inductive Moment where
  | entered (call : Nat) (bound : Bool)
  /-- The factory of the call starts to run. -/
  | started (call : Nat)
  /-- The factory of the call has answered, with a candidate that stands for this object. -/
  | finished (call : Nat) (candidate : Candidate) (object : Object Provider)
  | returned (call : Nat) (object : Object Provider)
  deriving DecidableEq, Repr

/-- A binder and what its use leaves behind. -/
structure Binding where
  provider? : Option (Object Provider) := none
  /-- The identity of the next new object. -/
  fresh : Nat := 0
  log : List Event := []
  /-- The number of the next call. -/
  calls : Nat := 0
  history : List Moment := []
  deriving DecidableEq, Repr

namespace Binding

def isBound (b : Binding) : Bool :=
  b.provider?.isSome

def note (b : Binding) (moment : Moment) : Binding :=
  { b with history := b.history ++ [moment] }

/-- The object that a candidate stands for. -/
def obtain (b : Binding) : Candidate → Object Provider × Binding
  | .nothing => (⟨b.fresh, .nothing⟩, { b with fresh := b.fresh + 1 })
  | .fresh provider => (⟨b.fresh, provider⟩, { b with fresh := b.fresh + 1 })
  | .existing object => (object, b)

/-- Binds a candidate unless something is bound by now, and reports which of both it was. -/
def publish (b : Binding) (candidate : Object Provider) : Object Provider × Binding :=
  let bound := b.provider?.getD candidate
  let event : Event :=
    if bound.id = candidate.id then .providerBound bound.value.isEmpty else .candidateDiscarded
  (bound, { b with provider? := some bound, log := b.log ++ [event] })

/-- The number of a new call. -/
def enter (b : Binding) : Nat × Binding :=
  (b.calls, { b with calls := b.calls + 1 }.note (.entered b.calls b.isBound))

/-- Asks for the provider, where `run` is a run of the factory. -/
def request (run : Binding → Candidate × Binding) (b : Binding) : Object Provider × Binding :=
  let (call, b) := b.enter
  match b.provider? with
  | some provider => (provider, b.note (.returned call provider))
  | none =>
    let (candidate, b) := run (b.note (.started call))
    let (object, b) := b.obtain candidate
    let (bound, b) := (b.note (.finished call candidate object)).publish object
    (bound, b.note (.returned call bound))

/-- How many factories ran. -/
def runs (b : Binding) : Nat :=
  b.history.countP fun
    | .started _ => true
    | _ => false

end Binding

/-- A run of the factory up to its answer. -/
def Factory.run : Factory → Binding → Candidate × Binding
  | .answer candidate, b => (candidate, b)
  | .ask inner next, b =>
    let (object, b) := Binding.request inner.run b
    (next object).run b

namespace Binding

/-- The bound provider; if there is none yet, the factory runs and what it yields is bound. -/
def getOrBind (b : Binding) (factory : Factory) : Object Provider × Binding :=
  request factory.run b

end Binding

end ImageRefs
