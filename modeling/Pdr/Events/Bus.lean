import Mathlib.Data.List.Basic
import Mathlib.Logic.Function.Basic

/-!
# A bus of events inside one process

Handlers are registered for a kind of event and change a state that the publisher does not know.
An event that is published calls the handlers of its kind at once, in the order in which they
were registered. Where every handler only adds to a list, what an event adds is what each of them
adds, one after another.

## Main definitions

* `EventBus.InMemoryBus`: the handlers of each kind, and the events that went through.
* `EventBus.InMemoryBus.subscribe`, `EventBus.InMemoryBus.publish`
* `EventBus.InMemoryBus.Appends`: the handlers of a bus add letters to a list.

## Main results

* `EventBus.InMemoryBus.Appends.subscribe`: one more handler that adds to the list.
-/

namespace EventBus

variable {Kind : Type} {Payload : Kind → Type} {σ δ : Type}

/-- An event of some kind. -/
abbrev Event (Payload : Kind → Type) : Type := (kind : Kind) × Payload kind

/-- The handlers of each kind of event, and the events that went through the bus. -/
structure InMemoryBus (Payload : Kind → Type) (σ : Type) where
  handlers : (kind : Kind) → List (Payload kind → σ → σ) := fun _ => []
  published : List (Event Payload) := []

namespace InMemoryBus

/-- `SubscribeErased`: the handler comes after those that the kind has already. -/
def subscribe [DecidableEq Kind] (bus : InMemoryBus Payload σ) (kind : Kind)
    (handler : Payload kind → σ → σ) : InMemoryBus Payload σ :=
  { bus with handlers := Function.update bus.handlers kind (bus.handlers kind ++ [handler]) }

@[simp] theorem handlers_subscribe [DecidableEq Kind] (bus : InMemoryBus Payload σ) (kind : Kind)
    (handler : Payload kind → σ → σ) : (bus.subscribe kind handler).handlers =
      Function.update bus.handlers kind (bus.handlers kind ++ [handler]) := rfl

/-- `PublishErased`: the event is counted, and the handlers of its kind are called in order. -/
def publish (event : Event Payload) (bus : InMemoryBus Payload σ) (s : σ) :
    InMemoryBus Payload σ × σ :=
  ({ bus with published := bus.published ++ [event] },
    (bus.handlers event.1).foldl (fun s handler => handler event.2 s) s)

/-- What the handlers of a bus add to a list of letters, for each kind of event. -/
def Appends (bus : InMemoryBus Payload (List δ)) (letters : (kind : Kind) → Payload kind → List δ) :
    Prop :=
  ∀ kind payload outbox, (bus.handlers kind).foldl (fun s handler => handler payload s) outbox =
    outbox ++ letters kind payload

theorem appends_empty : Appends ({} : InMemoryBus Payload (List δ)) fun _ _ => [] :=
  fun _ _ outbox => (List.append_nil outbox).symm

/-- One more handler that adds letters to the list. -/
theorem Appends.subscribe [DecidableEq Kind] {bus : InMemoryBus Payload (List δ)}
    {letters : (kind : Kind) → Payload kind → List δ} (h : bus.Appends letters) (kind : Kind)
    {handler : Payload kind → List δ → List δ} {adds : Payload kind → List δ}
    (hadds : ∀ payload outbox, handler payload outbox = outbox ++ adds payload) :
    (bus.subscribe kind handler).Appends
      (Function.update letters kind fun payload => letters kind payload ++ adds payload) := by
  intro other payload outbox
  by_cases hkind : other = kind
  · subst hkind
    rw [handlers_subscribe, Function.update_self, Function.update_self, List.foldl_append, h,
      List.foldl_cons, List.foldl_nil, hadds, List.append_assoc]
  · rw [handlers_subscribe, Function.update_of_ne hkind, Function.update_of_ne hkind]
    exact h other payload outbox

end InMemoryBus

end EventBus
