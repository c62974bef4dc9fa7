import Pdr.Events.Bus
import Pdr.Identity.Application.GuardianScopes
import Pdr.Identity.Application.ManagePublication
import Pdr.Scheduling.BookLesson

/-!
# The registry of domain events

Publishers and subscribers of different contexts know of each other only the events of this
registry. Each kind has a stable name, and each event says in which tenant and when it happened.

## Main definitions

* `Pdr.Events.Kind`, `Pdr.Events.Kind.type`: the kinds of events and their names.
* `Pdr.Events.DomainEvent`: an event with its fields.
* `Pdr.Events.tenantOf`: the tenant in which an event happened.
-/

namespace Pdr.Events

open Identity Scheduling

/-- `CapabilitiesWidened`, with its envelope. -/
structure CapabilitiesWidened where
  tenant : TenantId
  occurredAt : Int
  student : PersonId
  guardian : Option PersonId
  threshold : String
  years : Int
deriving DecidableEq

/-- What a ward did alone. -/
inductive WardAct where
  | lessonRescheduled
  | lessonCancelled
  | reviewWritten
deriving DecidableEq, Repr

/-- `Name`, of an act. -/
def WardAct.name : WardAct → String
  | lessonRescheduled => "identity.ward_rescheduled_lesson"
  | lessonCancelled => "identity.ward_cancelled_lesson"
  | reviewWritten => "identity.ward_wrote_review"

/-- `WardActedAlone`, with its envelope. -/
structure WardActedAlone where
  tenant : TenantId
  occurredAt : Int
  guardian : PersonId
  student : PersonId
  act : WardAct
deriving DecidableEq

/-- `GuardianHandoverStarted`, with its envelope. -/
structure GuardianHandoverStarted where
  tenant : TenantId
  occurredAt : Int
  guardian : PersonId
  student : PersonId
  decideBy : Int
deriving DecidableEq

/-- The kinds of domain events. -/
inductive Kind where
  | guardianshipRevoked
  | capabilitiesWidened
  | wardActedAlone
  | guardianHandoverStarted
  | practiceVisibilityChanged
  | lessonBooked
deriving DecidableEq, Repr

namespace Kind

/-- `kType`. -/
def type : Kind → String
  | guardianshipRevoked => "identity.guardianship_revoked"
  | capabilitiesWidened => "identity.capabilities_widened"
  | wardActedAlone => "identity.ward_acted_alone"
  | guardianHandoverStarted => "identity.guardian_handover_started"
  | practiceVisibilityChanged => "identity.practice_visibility_changed"
  | lessonBooked => "scheduling.lesson_booked"

theorem type_ne_empty (kind : Kind) : kind.type ≠ "" := by
  cases kind <;> decide

/-- The fields of the events of a kind. -/
@[reducible] def Payload : Kind → Type
  | guardianshipRevoked => GuardianshipRevoked
  | capabilitiesWidened => CapabilitiesWidened
  | wardActedAlone => WardActedAlone
  | guardianHandoverStarted => GuardianHandoverStarted
  | practiceVisibilityChanged => PracticeVisibilityChanged
  | lessonBooked => LessonBooked

end Kind

/-- A domain event. -/
abbrev DomainEvent : Type := EventBus.Event Kind.Payload

/-- The tenant of the envelope. -/
def tenantOf : DomainEvent → TenantId
  | ⟨.guardianshipRevoked, event⟩ => event.tenant
  | ⟨.capabilitiesWidened, event⟩ => event.tenant
  | ⟨.wardActedAlone, event⟩ => event.tenant
  | ⟨.guardianHandoverStarted, event⟩ => event.tenant
  | ⟨.practiceVisibilityChanged, event⟩ => event.tenant
  | ⟨.lessonBooked, event⟩ => event.tenant

end Pdr.Events
