import Pdr.Core.Types

/-!
# Tenants and practices

A tenant has a name; a practice is the same tenant seen from outside, and says whether it can
be found there. A practice begins hidden.

## Main definitions

* `Pdr.Identity.Tenant`, made by `Tenant.compose`
* `Pdr.Identity.Visibility`, `Pdr.Identity.RefusalReason`
* `Pdr.Identity.Practice`, made by `Practice.opened`, with its changes of visibility:
  `Practice.askedToPublish`, `Practice.published`, `Practice.refusedBecause`, `Practice.hidden`
-/

namespace Pdr.Identity

/-! ### A tenant's name -/

/-- The symbols that `Trimmed` takes away. -/
def isBlank (symbol : UInt8) : Bool := symbol = 32 || symbol = 9 || symbol = 10 || symbol = 13

/-- `Trimmed`. -/
def trimmed (text : Text) : Text :=
  ((text.dropWhile isBlank).reverse.dropWhile isBlank).reverse

/-- A tutor on his own, or a school. -/
structure Tenant where
  id : TenantId
  name : Text
deriving DecidableEq, Repr

/-- `Tenant::Compose`. -/
def Tenant.compose (id : TenantId) (name : Text) : Result Tenant :=
  if trimmed name = [] then
    .error ⟨.validation, "tenant_name_blank", "у арендатора должно быть имя"⟩
  else .ok ⟨id, trimmed name⟩

/-! ### Who can find a practice -/

/-- Whether a practice can be found from outside. The source's list ends with a boundary mark
that no practice carries. -/
inductive Visibility where
  | hidden
  | pending
  | published
  | refused
deriving DecidableEq, Repr

/-- `Name` of a visibility. -/
def Visibility.name : Visibility → String
  | hidden => "hidden"
  | pending => "pending"
  | published => "published"
  | refused => "refused"

/-- Why a publication was refused. -/
inductive RefusalReason where
  | nothingToShow
  | looksBorrowed
  | callsAway
deriving DecidableEq, Repr

/-- A practice: its visibility and the moments at which that changed. -/
structure Practice where
  tenant : TenantId
  visibility : Visibility
  openedAt : Int
  askedAt : Option Int
  decidedAt : Option Int
  refusal : Option RefusalReason
deriving DecidableEq, Repr

/-- `Practice::Opened`: hidden, as all of them. -/
def Practice.opened (tenant : TenantId) (at_ : Int) : Practice :=
  ⟨tenant, .hidden, at_, none, none, none⟩

namespace Practice

/-- `IsDiscoverable`. -/
def isDiscoverable (practice : Practice) : Bool := practice.visibility = .published

/-- `AskedToPublish`: the owner asks, from hiding or after a refusal. -/
def askedToPublish (practice : Practice) (at_ : Int) : Result Practice :=
  match practice.visibility with
  | .pending => .error ⟨.conflict, "practice_already_awaits_review",
      "заявка на публикацию уже в очереди"⟩
  | .published => .error ⟨.conflict, "practice_already_published", "практика уже опубликована"⟩
  | _ => .ok { practice with
      visibility := .pending, askedAt := some at_, decidedAt := none, refusal := none }

/-- A decision that nobody asked for. -/
def decisionWithoutRequest : Error :=
  ⟨.conflict, "practice_decision_without_request",
    "решение о публикации принято по практике, которая о ней не просила"⟩

/-- `Published`. -/
def published (practice : Practice) (at_ : Int) : Result Practice :=
  if practice.visibility ≠ .pending then .error decisionWithoutRequest
  else .ok { practice with visibility := .published, decidedAt := some at_, refusal := none }

/-- `RefusedBecause`. -/
def refusedBecause (practice : Practice) (reason : RefusalReason) (at_ : Int) : Result Practice :=
  if practice.visibility ≠ .pending then .error decisionWithoutRequest
  else .ok { practice with
    visibility := .refused, decidedAt := some at_, refusal := some reason }

/-- `Hidden`: from any state. -/
def hidden (practice : Practice) (at_ : Int) : Practice :=
  { practice with visibility := .hidden, decidedAt := some at_, refusal := none }

end Practice

end Pdr.Identity
