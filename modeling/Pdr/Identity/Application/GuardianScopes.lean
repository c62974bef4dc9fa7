import Pdr.Identity.Application.Ports
import Pdr.Identity.Core.GuardianAccess

/-!
# Children, guardians and the scopes opened to them

A parent enrols a child and becomes its guardian; scopes are opened to a guardian, or to a
watcher the student names, one by one, and closed again.

## Main definitions

* `Pdr.Identity.enrolChild`
* `Pdr.Identity.grantGuardianScope`, `Pdr.Identity.revokeGuardianScope`,
  `Pdr.Identity.revokeGuardianship`
* `Pdr.Identity.GuardianRequest`, `Pdr.Identity.attend`: any of the four.
-/

namespace Pdr.Identity

open StoreProgram

/-! ### Enrolling a child -/

/-- There is no mail in it. -/
structure EnrolChildRequest where
  tenant : TenantId
  guardian : PersonId
  displayName : Text
  bornOn : BirthDate
  zone : TimeZone

/-- `EnrolChild::Execute`. -/
def enrolChild (drawn : Drawn) (request : EnrolChildRequest) : Scenario PersonId := do
  let child : Person := ⟨drawn.personId, none, request.bornOn⟩
  let enrolled ← ask (.directory (.enrol request.tenant
    ⟨child, BitSet.ofList [.student], request.displayName, request.zone⟩ drawn.roleIds))
  accept enrolled
  let guardianship ← accept
    (Guardianship.grant request.tenant request.guardian child.id (drawn.clock 0))
  ask (.guardianships (.save guardianship))
  return child.id

/-! ### Opening and closing scopes -/

/-- Which scope is opened to whom, on what basis, by whom and how long. -/
structure GrantGuardianScopeRequest where
  tenant : TenantId
  guardian : PersonId
  student : PersonId
  scope : GuardianScope
  basis : ConsentBasis
  grantedBy : PersonId
  expiresAt : Option Int
deriving DecidableEq

/-- There is no active guardianship. -/
def guardianshipNotFound : Error :=
  ⟨.notFound, "guardianship_not_found", "действующей опеки между этими людьми нет"⟩

/-- A watcher whom somebody else than the student names. -/
def watcherNamedBySomeoneElse : Error :=
  ⟨.forbidden, "watcher_named_by_someone_else",
    "наблюдателя называет тот, за кем будут смотреть, и никто другой"⟩

/-- The scope is open already. -/
def consentAlreadyGranted : Error :=
  ⟨.conflict, "consent_already_granted", "этот уровень доступа уже открыт"⟩

/-- The student decides himself, and somebody else grants. -/
def consentNeedsStudentWord : Error :=
  ⟨.forbidden, "consent_needs_student_word",
    "ученик уже взрослый: этот уровень открывает только он сам"⟩

/-- What a consent rests on is there: the guardianship, or the word of the student. -/
def requireBasis (request : GrantGuardianScopeRequest) : Scenario Unit := do
  if request.basis = .guardianship then
    match ← ask (.guardianships
        (.findActive request.tenant request.guardian request.student)) with
    | some _ => return ()
    | none => refuse guardianshipNotFound
  else if request.grantedBy ≠ request.student then refuse watcherNamedBySomeoneElse
  else return ()

/-- The student has reached the age of deciding about a scope a guardian asks for. -/
def studentDecides (rule : MaturityRule) (request : GrantGuardianScopeRequest)
    (bornOn : Option BirthDate) (now : Int) : Bool :=
  request.basis = .guardianship &&
    bornOn.any fun born => AgeStatus.turnsAt born (rule.thresholdYears request.scope) ≤ now

/-- `GrantGuardianScope::Execute`. -/
def grantGuardianScope (rule : Result MaturityRule) (drawn : Drawn)
    (request : GrantGuardianScopeRequest) : Scenario GuardianConsent := do
  let rule ← accept rule
  requireBasis request
  match ← ask (.consents
      (.findActive request.tenant request.guardian request.student request.scope)) with
  | some _ => refuse consentAlreadyGranted
  | none =>
    let now := drawn.clock 0
    let bornOn ← ask (.directory (.bornOn request.tenant request.student))
    if studentDecides rule request bornOn now && request.grantedBy ≠ request.student then
      refuse consentNeedsStudentWord
    else
      let consent ← accept (GuardianConsent.grant drawn.consentId request.tenant
        request.guardian request.student request.scope request.basis request.grantedBy now
        request.expiresAt)
      ask (.consents (.save consent))
      return consent

/-- Which scope is closed again, and by whom. -/
structure RevokeGuardianScopeRequest where
  tenant : TenantId
  guardian : PersonId
  student : PersonId
  scope : GuardianScope
  revokedBy : PersonId

/-- The scope is closed already. -/
def consentNotFound : Error :=
  ⟨.notFound, "consent_not_found", "этот уровень доступа и так закрыт"⟩

/-- `RevokeGuardianScope::Execute`. -/
def revokeGuardianScope (drawn : Drawn) (request : RevokeGuardianScopeRequest) :
    Scenario Unit := do
  match ← ask (.consents
      (.findActive request.tenant request.guardian request.student request.scope)) with
  | none => refuse consentNotFound
  | some found =>
    let revoked ← accept (found.revoked (drawn.clock 0) request.revokedBy)
    ask (.consents (.save revoked))

/-- The event `identity.guardianship_revoked`. -/
structure GuardianshipRevoked where
  tenant : TenantId
  occurredAt : Int
  guardian : PersonId
  student : PersonId
deriving DecidableEq

/-- Which guardianship ends. -/
structure RevokeGuardianshipRequest where
  tenant : TenantId
  guardian : PersonId
  student : PersonId

/-- `RevokeGuardianship::Execute`, with the event it publishes. -/
def revokeGuardianship (drawn : Drawn) (request : RevokeGuardianshipRequest) :
    Scenario GuardianshipRevoked := do
  match ← ask (.guardianships
      (.findActive request.tenant request.guardian request.student)) with
  | none => refuse guardianshipNotFound
  | some found =>
    let now := drawn.clock 0
    let revoked ← accept (found.revoked now)
    ask (.guardianships (.save revoked))
    return ⟨request.tenant, now, request.guardian, request.student⟩

/-! ### Runs of these scenarios -/

/-- What is asked for about a child and its watchers. -/
inductive GuardianRequest where
  | enrolChild (request : EnrolChildRequest)
  | grantScope (request : GrantGuardianScopeRequest)
  | revokeScope (request : RevokeGuardianScopeRequest)
  | revokeGuardianship (request : RevokeGuardianshipRequest)

/-- The scenario of a request. -/
def attend (rule : Result MaturityRule) (drawn : Drawn) : GuardianRequest → Scenario Unit
  | .enrolChild request => do
    let _ ← enrolChild drawn request
    return ()
  | .grantScope request => do
    let _ ← grantGuardianScope rule drawn request
    return ()
  | .revokeScope request => revokeGuardianScope drawn request
  | .revokeGuardianship request => do
    let _ ← revokeGuardianship drawn request
    return ()

/-- The database after requests attended one after another. A request that is refused
leaves what it wrote before. -/
def attendAll (rule : Result MaturityRule) (db : Database)
    (requests : List (Drawn × GuardianRequest)) : Database :=
  requests.foldl (fun db request => ((attend rule request.1 request.2).run database db).2) db

/-! ### A school -/

/-- The rule of a school: a student decides about lessons from 14 and about all else from 18,
with 30 days of grace. -/
def schoolRule : MaturityRule :=
  ⟨⟨14, 16, 18, by decide, by decide⟩, 30 * microsOfDay, by decide⟩

/-- A parent enrols a child. -/
def childEnrolled : EnrolChildRequest where
  tenant := repeated 7
  guardian := repeated 2
  displayName := ascii "child"
  bornOn := ⟨⟨2000, 6, 15⟩, by decide, by decide⟩
  zone := ⟨ascii "UTC"⟩

end Pdr.Identity
