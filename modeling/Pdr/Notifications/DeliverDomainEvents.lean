import Pdr.Events.Registry

/-!
# Letters about domain events

The outgoing queue holds who is written to, by which channel and why; the words come from a
template when a letter is sent. `DeliverDomainEvents` listens to the bus and puts letters into
the queue, and its subscriptions are all it knows of the other contexts.

## Main definitions

* `Pdr.Notifications.Delivery`, made by `Delivery.compose`: a row of the queue.
* `Pdr.Notifications.subscribeTo`: the subscriptions of `DeliverDomainEvents`.
* `Pdr.Notifications.letters`: the rows that an event puts into the queue.

## Main results

* `Pdr.Notifications.appends_subscribeTo`: the subscriptions put these rows into the queue.
-/

namespace Pdr.Notifications

open Events EventBus Identity Scheduling

/-- How somebody is written to. -/
inductive Channel where
  | email
  | push
deriving DecidableEq, Repr

/-- A row of the outgoing queue: to whom, by which channel and why. -/
structure Delivery where
  tenant : TenantId
  recipient : PersonId
  channel : Channel
  reason : String
  createdAt : Int
  hasReason : reason ≠ ""
deriving DecidableEq

/-- A letter without a reason. -/
def deliveryReasonEmpty : Error :=
  ⟨.validation, "delivery_reason_empty", "письмо без повода не отправляется"⟩

/-- `Delivery::Compose`. -/
def Delivery.compose (tenant : TenantId) (recipient : PersonId) (channel : Channel)
    (reason : String) (createdAt : Int) : Result Delivery :=
  if h : reason = "" then .error deliveryReasonEmpty
  else .ok ⟨tenant, recipient, channel, reason, createdAt, h⟩

/-- The outgoing queue. -/
abbrev Outbox : Type := List Delivery

/-- `DeliverDomainEvents::Enqueue`. A row that cannot be composed is left out. -/
def enqueue (tenant : TenantId) (recipient : PersonId) (channel : Channel) (reason : String)
    (at_ : Int) (outbox : Outbox) : Outbox :=
  match Delivery.compose tenant recipient channel reason at_ with
  | .ok delivery => outbox ++ [delivery]
  | .error _ => outbox

/-- The bus on which the contexts meet. -/
abbrev Bus : Type := InMemoryBus Kind.Payload Outbox

/-- `DeliverDomainEvents::SubscribeTo`. -/
def subscribeTo (bus : Bus) : Bus :=
  let bus := bus.subscribe .guardianshipRevoked fun event outbox =>
    enqueue event.tenant event.guardian .email Kind.guardianshipRevoked.type event.occurredAt outbox
  let bus := bus.subscribe .capabilitiesWidened fun event outbox =>
    let outbox := enqueue event.tenant event.student .push Kind.capabilitiesWidened.type
      event.occurredAt outbox
    match event.guardian with
    | some guardian =>
      enqueue event.tenant guardian .email Kind.capabilitiesWidened.type event.occurredAt outbox
    | none => outbox
  let bus := bus.subscribe .wardActedAlone fun event outbox =>
    enqueue event.tenant event.guardian .email event.act.name event.occurredAt outbox
  bus.subscribe .lessonBooked fun event outbox =>
    let outbox := enqueue event.tenant event.student .push Kind.lessonBooked.type event.occurredAt
      outbox
    enqueue event.tenant event.tutor .push Kind.lessonBooked.type event.occurredAt outbox

/-! ### What an event puts into the queue -/

/-- The row for one recipient, if there is a reason to write. -/
def letter (tenant : TenantId) (channel : Channel) (reason : String) (at_ : Int)
    (recipient : PersonId) : List Delivery :=
  if h : reason = "" then [] else [⟨tenant, recipient, channel, reason, at_, h⟩]

theorem letter_type (tenant : TenantId) (channel : Channel) (kind : Kind) (at_ : Int)
    (recipient : PersonId) : letter tenant channel kind.type at_ recipient =
      [⟨tenant, recipient, channel, kind.type, at_, kind.type_ne_empty⟩] :=
  dif_neg kind.type_ne_empty

/-- The rows that an event of some kind puts into the queue. -/
def letters : (kind : Kind) → kind.Payload → List Delivery
  | .guardianshipRevoked, event =>
    letter event.tenant .email Kind.guardianshipRevoked.type event.occurredAt event.guardian
  | .capabilitiesWidened, event =>
    letter event.tenant .push Kind.capabilitiesWidened.type event.occurredAt event.student ++
      event.guardian.toList.flatMap
        (letter event.tenant .email Kind.capabilitiesWidened.type event.occurredAt)
  | .wardActedAlone, event =>
    letter event.tenant .email event.act.name event.occurredAt event.guardian
  | .guardianHandoverStarted, _ => []
  | .practiceVisibilityChanged, _ => []
  | .lessonBooked, event =>
    letter event.tenant .push Kind.lessonBooked.type event.occurredAt event.student ++
      letter event.tenant .push Kind.lessonBooked.type event.occurredAt event.tutor

theorem enqueue_eq (tenant : TenantId) (recipient : PersonId) (channel : Channel) (reason : String)
    (at_ : Int) (outbox : Outbox) : enqueue tenant recipient channel reason at_ outbox =
      outbox ++ letter tenant channel reason at_ recipient := by
  unfold enqueue Delivery.compose letter
  by_cases h : reason = ""
  · simp [h]
  · simp [h]

/-- The handler of an age that was reached adds a row for the student and one for the guardian. -/
theorem enqueue_widened (event : CapabilitiesWidened) (outbox : Outbox) :
    (match event.guardian with
      | some guardian => enqueue event.tenant guardian .email Kind.capabilitiesWidened.type
          event.occurredAt (enqueue event.tenant event.student .push Kind.capabilitiesWidened.type
            event.occurredAt outbox)
      | none => enqueue event.tenant event.student .push Kind.capabilitiesWidened.type
          event.occurredAt outbox) = outbox ++ letters .capabilitiesWidened event := by
  cases hguardian : event.guardian with
  | none => simp [enqueue_eq, letters, hguardian]
  | some guardian => simp [enqueue_eq, letters, hguardian]

theorem enqueue_booked (event : LessonBooked) (outbox : Outbox) :
    enqueue event.tenant event.tutor .push Kind.lessonBooked.type event.occurredAt
      (enqueue event.tenant event.student .push Kind.lessonBooked.type event.occurredAt outbox) =
        outbox ++ letters .lessonBooked event := by
  simp [enqueue_eq, letters]

/-- **The subscriptions put these rows into the queue**, on a bus that had none. -/
theorem appends_subscribeTo : (subscribeTo {}).Appends letters := by
  have hempty : ({} : Bus).Appends fun _ _ => [] := InMemoryBus.appends_empty
  have hrevoked := hempty.subscribe .guardianshipRevoked
    (fun event outbox => enqueue_eq event.tenant event.guardian .email
      Kind.guardianshipRevoked.type event.occurredAt outbox)
  have hwidened := hrevoked.subscribe .capabilitiesWidened
    (fun event outbox => enqueue_widened event outbox)
  have hacted := hwidened.subscribe .wardActedAlone (fun event outbox =>
    enqueue_eq event.tenant event.guardian .email event.act.name event.occurredAt outbox)
  have hbooked := hacted.subscribe .lessonBooked (fun event outbox => enqueue_booked event outbox)
  intro kind
  have hkind := hbooked kind
  cases kind <;> exact hkind

end Pdr.Notifications
