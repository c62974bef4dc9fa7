import Pdr.Identity.Core.Consent
import Pdr.Identity.Store.Rows
import Pdr.StoreProgram.ForeignKeys

/-!
# The schema of the migrations

The tables that the migrations V001 to V011 build, with the checks, the keys and the foreign
keys they have at the end. A column is what the schema lets it be: a text is any text that its
check lets through, whether or not the program could have written it. A column whose check
lists its values is an enumeration, and one that no check, key or reference reads is left out.

## Main definitions

* `Pdr.Db.TableName`, `Pdr.Db.Row`: the tables and their rows.
* `Pdr.Db.tenantOf`: the column `tenant_id`, in the tables that have it.
* `Pdr.Db.foreignKeys`
* `Pdr.Db.Database`: tables in which every reference holds.
-/

namespace Pdr.Db

open StoreProgram Identity

/-! ### Checks -/

/-- A column of the type `uuid` that names neither a tenant nor a person. -/
abbrev Uuid : Type := Vector UInt8 16

/-- `length`: the characters of a text in UTF-8. -/
def length (text : Text) : Nat := text.countP fun byte => byte &&& 0xC0 ≠ 0x80

/-- `~ '^[0-9a-f]{64}$'`. -/
def isSha256 (text : Text) : Bool := text.length = 64 && text.all isLowerHex

/-- `= lower(…)`, for ASCII. -/
def isLower (text : Text) : Bool := lowered text = text

/-- `later is null or earlier ≤ later`. -/
def notBefore (earlier : Int) (later : Option Int) : Bool := later.all (earlier ≤ ·)

/-- `[a-z][a-z0-9_]*`. -/
def isWord (text : Text) : Bool :=
  (text.head?.any fun first => 97 ≤ first && first ≤ 122) &&
    text.all fun symbol =>
      (97 ≤ symbol && symbol ≤ 122) || (48 ≤ symbol && symbol ≤ 57) || symbol = 95

/-- `~ '^[a-z][a-z0-9_]*\.[a-z][a-z0-9_]*$'`. -/
def isEventType (text : Text) : Bool :=
  isWord (text.takeWhile (· ≠ 46)) && isWord ((text.dropWhile (· ≠ 46)).drop 1)

/-- As much of a `jsonb` document as a check looks at: whether it is an object, and its keys. -/
inductive Jsonb where
  | object (keys : List Text)
  | other

/-- `like_regex "_id|^id|person|email|phone|login|name"`. -/
def namesPerson (key : Text) : Bool :=
  (ascii "id").isPrefixOf key ||
    [ascii "_id", ascii "person", ascii "email", ascii "phone", ascii "login",
      ascii "name"].any fun word => word <:+: key

/-- The document is an object, and none of its keys names a person. -/
def Jsonb.isAnonymous : Jsonb → Bool
  | .object keys => !keys.any namesPerson
  | .other => false

/-! ### V001 to V005 -/

/-- A row of `schema_version`. -/
structure SchemaVersion where
  version : Int

instance : Schema SchemaVersion := .ofKeys (fun _ => true) [.total fun row => row.version]

/-- A row of `identity_tenant`. -/
structure IdentityTenant where
  tenantId : TenantId
  name : Text
  tz : Text
  visibility : Visibility
  visibilityRefusal : Option RefusalReason

instance : Schema IdentityTenant :=
  .ofKeys (fun row => notBlank row.name && notBlank row.tz &&
      (row.visibilityRefusal.isNone || row.visibility = .refused))
    [.total fun row => row.tenantId]

/-- A row of `identity_person`. -/
structure IdentityPerson where
  tenantId : TenantId
  id : PersonId
  displayName : Text
  email : Option Text
  tz : Text

instance : Schema IdentityPerson :=
  .ofKeys (fun row => notBlank row.displayName && row.email.all isLower && notBlank row.tz)
    [.total fun row => (row.tenantId, row.id),
      .onlyWhere (fun row => row.email.isSome) fun row => (row.tenantId, row.email)]

/-- A row of `identity_role_assignment`. -/
structure IdentityRoleAssignment where
  tenantId : TenantId
  id : Uuid
  personId : PersonId
  role : Role
  grantedAt : Int
  revokedAt : Option Int

instance : Schema IdentityRoleAssignment :=
  .ofKeys (fun row => notBefore row.grantedAt row.revokedAt)
    [.total fun row => (row.tenantId, row.id),
      .onlyWhere (fun row => row.revokedAt.isNone)
        fun row => (row.tenantId, row.personId, row.role)]

/-- A row of `identity_guardianship`. -/
structure IdentityGuardianship where
  tenantId : TenantId
  id : Uuid
  guardianId : PersonId
  studentId : PersonId
  grantedAt : Int
  revokedAt : Option Int

instance : Schema IdentityGuardianship :=
  .ofKeys (fun row => row.guardianId ≠ row.studentId && notBefore row.grantedAt row.revokedAt)
    [.total fun row => (row.tenantId, row.id),
      .onlyWhere (fun row => row.revokedAt.isNone)
        fun row => (row.tenantId, row.guardianId, row.studentId)]

/-- A row of `jobs_lock`. -/
structure JobsLock where
  key : Text

instance : Schema JobsLock := .ofKeys (fun row => notBlank row.key) [.total fun row => row.key]

/-- The outcomes that `jobs_run` takes. -/
inductive JobOutcome where
  | running
  | done
  | lockLost
  | timedOut

/-- A row of `jobs_run`. -/
structure JobsRun where
  job : Text
  startedAt : Option Int
  finishedAt : Option Int
  durationMs : Option Int
  outcome : JobOutcome
  produced : Int
  repeated : Int
  runs : Int

instance : Schema JobsRun :=
  .ofKeys (fun row => notBlank row.job &&
      (row.finishedAt.isNone = row.startedAt.isNone &&
        row.finishedAt.isNone = row.durationMs.isNone) &&
      notBefore 0 row.durationMs &&
      row.startedAt.all (notBefore · row.finishedAt) &&
      (0 ≤ row.produced && 0 ≤ row.repeated && 0 ≤ row.runs))
    [.total fun row => row.job]

/-- A row of `jobs_effect`. -/
structure JobsEffect where
  tenantId : TenantId
  job : Text
  effectKey : Text

instance : Schema JobsEffect :=
  .ofKeys (fun row => notBlank row.job && notBlank row.effectKey)
    [.total fun row => (row.tenantId, row.job, row.effectKey)]

/-- The roles that `observability_product_event` takes. -/
inductive EventActorRole where
  | tutor
  | student
  | guardian
  | system

/-- A row of `observability_product_event`. -/
structure ObservabilityProductEvent where
  tenantId : TenantId
  id : Uuid
  type : Text
  version : Int
  actorRole : EventActorRole
  occurredAt : Int
  recordedAt : Int
  fields : Jsonb

instance : Schema ObservabilityProductEvent :=
  .ofKeys (fun row => isEventType row.type && 1 ≤ row.version && row.fields.isAnonymous &&
      row.occurredAt ≤ row.recordedAt)
    [.total fun row => (row.tenantId, row.id)]

/-- The kinds of resources that `identity_access_log` takes. -/
inductive JournalledKind where
  | recording
  | transcript
  | chat

/-- The outcomes that `identity_access_log` takes. -/
inductive ViewOutcome where
  | shown
  | refused

/-- A row of `identity_access_log`. -/
structure IdentityAccessLog where
  tenantId : TenantId
  id : Uuid
  actorId : PersonId
  subjectId : PersonId
  resourceKind : JournalledKind
  outcome : ViewOutcome

instance : Schema IdentityAccessLog :=
  .ofKeys (fun row => row.actorId ≠ row.subjectId) [.total fun row => (row.tenantId, row.id)]

/-! ### V006: how people come in -/

/-- A row of `identity_credential`. -/
structure IdentityCredential where
  tenantId : TenantId
  personId : PersonId
  passwordHash : Text

instance : Schema IdentityCredential :=
  .ofKeys (fun row => argon2idPrefix.isPrefixOf row.passwordHash)
    [.total fun row => (row.tenantId, row.personId)]

/-- A row of `identity_session`. -/
structure IdentitySession where
  tenantId : TenantId
  id : Uuid
  personId : PersonId
  createdAt : Int
  expiresAt : Int
  revokedAt : Option Int
  userAgentHash : Text
  ipHash : Text

instance : Schema IdentitySession :=
  .ofKeys (fun row => row.createdAt < row.expiresAt && notBefore row.createdAt row.revokedAt &&
      isSha256 row.userAgentHash && isSha256 row.ipHash)
    [.total fun row => (row.tenantId, row.id)]

/-- A row of `identity_one_time_token`. -/
structure IdentityOneTimeToken where
  tenantId : TenantId
  id : Uuid
  purpose : TokenPurpose
  tokenHash : Text
  role : Option Role
  personId : Option PersonId
  createdAt : Int
  expiresAt : Int
  usedAt : Option Int
  invitedDigest : Option Text

instance : Schema IdentityOneTimeToken :=
  .ofKeys (fun row => isSha256 row.tokenHash &&
      pointsAtOneThing row.purpose row.role row.personId &&
      row.createdAt < row.expiresAt && notBefore row.createdAt row.usedAt &&
      row.invitedDigest.all isLower)
    [.total fun row => (row.tenantId, row.id), .total fun row => (row.tenantId, row.tokenHash)]

/-- A row of `identity_login_attempt`. -/
structure IdentityLoginAttempt where
  tenantId : TenantId
  subjectKind : AttemptSubject
  subjectHash : Text
  attempts : Int

instance : Schema IdentityLoginAttempt :=
  .ofKeys (fun row => isSha256 row.subjectHash && 0 < row.attempts)
    [.total fun row => (row.tenantId, row.subjectKind, row.subjectHash)]

/-! ### V007 to V011 -/

/-- A row of `identity_guardian_consent`. -/
structure IdentityGuardianConsent where
  tenantId : TenantId
  id : Uuid
  guardianId : PersonId
  studentId : PersonId
  scope : GuardianScope
  grantedAt : Int
  grantedBy : PersonId
  expiresAt : Option Int
  revokedAt : Option Int
  revokedBy : Option PersonId
  basis : ConsentBasis

instance : Schema IdentityGuardianConsent :=
  .ofKeys (fun row => row.guardianId ≠ row.studentId && row.scope ≠ .boundary &&
      row.expiresAt.all (row.grantedAt < ·) && notBefore row.grantedAt row.revokedAt &&
      row.revokedAt.isNone = row.revokedBy.isNone && row.basis ≠ .boundary &&
      (row.basis ≠ .paysForLessons || row.scope = .payments))
    [.total fun row => (row.tenantId, row.id),
      .onlyWhere (fun row => row.revokedAt.isNone)
        fun row => (row.tenantId, row.guardianId, row.studentId, row.scope)]

/-- A row of `identity_account`. -/
structure IdentityAccount where
  id : PersonId
  emailDigest : Text
  confirmedAt : Option Int
  confirmationDigest : Option Text
  confirmationExpiresAt : Option Int

instance : Schema IdentityAccount :=
  .ofKeys (fun row => isLower row.emailDigest &&
      (row.confirmedAt.isNone || row.confirmationDigest.isNone) &&
      row.confirmationDigest.isNone = row.confirmationExpiresAt.isNone)
    [.total fun row => row.id, .total fun row => row.emailDigest]

/-- A row of `identity_signup_attempt`. -/
structure IdentitySignupAttempt where
  addressHash : Text
  attempts : Int

instance : Schema IdentitySignupAttempt :=
  .ofKeys (fun row => 0 < row.attempts && isLower row.addressHash)
    [.total fun row => row.addressHash]

/-- The states that `http_idempotency_key` takes. -/
inductive KeyState where
  | inProgress
  | completed
deriving DecidableEq

/-- A row of `http_idempotency_key`. -/
structure HttpIdempotencyKey where
  tenantId : TenantId
  key : Text
  requestFingerprint : Text
  state : KeyState
  responseStatus : Option Int
  responseBody : Option Text
  createdAt : Int
  expiresAt : Int

instance : Schema HttpIdempotencyKey :=
  .ofKeys (fun row => notBlank row.key && (8 ≤ length row.key && length row.key ≤ 255) &&
      isSha256 row.requestFingerprint &&
      (match row.state with
        | .completed => row.responseStatus.any (fun status => 100 ≤ status && status ≤ 599) &&
            row.responseBody.isSome
        | .inProgress => row.responseStatus.isNone && row.responseBody.isNone) &&
      row.createdAt < row.expiresAt)
    [.total fun row => (row.tenantId, row.key)]

/-- A row of `identity_consent`. -/
structure IdentityConsent where
  tenantId : TenantId
  id : Uuid
  subjectId : PersonId
  givenBy : PersonId
  kind : ConsentKind
  version : Int
  action : ConsentAction
  givenAt : Int
  withdrawnAt : Option Int

instance : Schema IdentityConsent :=
  .ofKeys (fun row => row.kind ≠ .boundary && row.action ≠ .boundary && 1 ≤ row.version &&
      notBefore row.givenAt row.withdrawnAt)
    [.total fun row => (row.tenantId, row.id),
      .onlyWhere (fun row => row.withdrawnAt.isNone)
        fun row => (row.tenantId, row.subjectId, row.kind)]

/-! ### The database -/

/-- The tables, in the order in which the migrations make them. -/
inductive TableName where
  | schemaVersion
  | identityTenant
  | identityPerson
  | identityRoleAssignment
  | identityGuardianship
  | jobsLock
  | jobsRun
  | jobsEffect
  | observabilityProductEvent
  | identityAccessLog
  | identityCredential
  | identitySession
  | identityOneTimeToken
  | identityLoginAttempt
  | identityGuardianConsent
  | identityAccount
  | identitySignupAttempt
  | httpIdempotencyKey
  | identityConsent
deriving DecidableEq

/-- The rows of each table. -/
abbrev Row : TableName → Type
  | .schemaVersion => SchemaVersion
  | .identityTenant => IdentityTenant
  | .identityPerson => IdentityPerson
  | .identityRoleAssignment => IdentityRoleAssignment
  | .identityGuardianship => IdentityGuardianship
  | .jobsLock => JobsLock
  | .jobsRun => JobsRun
  | .jobsEffect => JobsEffect
  | .observabilityProductEvent => ObservabilityProductEvent
  | .identityAccessLog => IdentityAccessLog
  | .identityCredential => IdentityCredential
  | .identitySession => IdentitySession
  | .identityOneTimeToken => IdentityOneTimeToken
  | .identityLoginAttempt => IdentityLoginAttempt
  | .identityGuardianConsent => IdentityGuardianConsent
  | .identityAccount => IdentityAccount
  | .identitySignupAttempt => IdentitySignupAttempt
  | .httpIdempotencyKey => HttpIdempotencyKey
  | .identityConsent => IdentityConsent

instance (table : TableName) : Schema (Row table) := by
  cases table <;> exact inferInstance

/-- The tenant a row belongs to. A table of the whole cluster has no such column. -/
def tenantOf : ∀ table, Row table → Option TenantId
  | .schemaVersion, _ | .jobsLock, _ | .jobsRun, _ | .identityAccount, _
  | .identitySignupAttempt, _ => none
  | .identityTenant, row => some (IdentityTenant.tenantId row)
  | .identityPerson, row => some (IdentityPerson.tenantId row)
  | .identityRoleAssignment, row => some (IdentityRoleAssignment.tenantId row)
  | .identityGuardianship, row => some (IdentityGuardianship.tenantId row)
  | .jobsEffect, row => some (JobsEffect.tenantId row)
  | .observabilityProductEvent, row => some (ObservabilityProductEvent.tenantId row)
  | .identityAccessLog, row => some (IdentityAccessLog.tenantId row)
  | .identityCredential, row => some (IdentityCredential.tenantId row)
  | .identitySession, row => some (IdentitySession.tenantId row)
  | .identityOneTimeToken, row => some (IdentityOneTimeToken.tenantId row)
  | .identityLoginAttempt, row => some (IdentityLoginAttempt.tenantId row)
  | .identityGuardianConsent, row => some (IdentityGuardianConsent.tenantId row)
  | .httpIdempotencyKey, row => some (HttpIdempotencyKey.tenantId row)
  | .identityConsent, row => some (IdentityConsent.tenantId row)

/-- The tables without a column `tenant_id`. -/
def clusterTables : List TableName :=
  [.schemaVersion, .jobsLock, .jobsRun, .identityAccount, .identitySignupAttempt]

theorem tenantOf_of_clusterTables {table : TableName} (h : table ∈ clusterTables)
    (row : Row table) : tenantOf table row = none := by
  simp only [clusterTables, List.mem_cons, List.not_mem_nil, or_false] at h
  rcases h with rfl | rfl | rfl | rfl | rfl <;> rfl

/-! ### References -/

/-- `references identity_tenant (tenant_id)`. -/
def toTenant (table : TableName) : ForeignKey Row where
  child := table
  parent := .identityTenant
  Key := TenantId
  refers := tenantOf table
  names := IdentityTenant.tenantId

/-- `foreign key (tenant_id, …) references identity_person (tenant_id, id)`. -/
def toPerson (table : TableName) (column : Row table → Option PersonId) : ForeignKey Row where
  child := table
  parent := .identityPerson
  Key := TenantId × PersonId
  refers row := (tenantOf table row).bind fun tenant => (column row).map fun person =>
    (tenant, person)
  names := fun person : IdentityPerson => (person.tenantId, person.id)

/-- The tables whose `tenant_id` refers to the tenant. -/
def tenantChildren : List TableName :=
  [.identityPerson, .identityRoleAssignment, .identityGuardianship, .jobsEffect,
    .observabilityProductEvent, .identityAccessLog, .identityCredential, .identitySession,
    .identityOneTimeToken, .identityLoginAttempt, .identityGuardianConsent]

/-- The columns that refer to a person. -/
def personColumns : List (Σ table, Row table → Option PersonId) :=
  [⟨.identityRoleAssignment, fun row : IdentityRoleAssignment => some row.personId⟩,
    ⟨.identityGuardianship, fun row : IdentityGuardianship => some row.guardianId⟩,
    ⟨.identityGuardianship, fun row : IdentityGuardianship => some row.studentId⟩,
    ⟨.identityAccessLog, fun row : IdentityAccessLog => some row.actorId⟩,
    ⟨.identityAccessLog, fun row : IdentityAccessLog => some row.subjectId⟩,
    ⟨.identityCredential, fun row : IdentityCredential => some row.personId⟩,
    ⟨.identitySession, fun row : IdentitySession => some row.personId⟩,
    ⟨.identityOneTimeToken, IdentityOneTimeToken.personId⟩,
    ⟨.identityGuardianConsent, fun row : IdentityGuardianConsent => some row.guardianId⟩,
    ⟨.identityGuardianConsent, fun row : IdentityGuardianConsent => some row.studentId⟩,
    ⟨.identityGuardianConsent, fun row : IdentityGuardianConsent => some row.grantedBy⟩,
    ⟨.identityGuardianConsent, IdentityGuardianConsent.revokedBy⟩,
    ⟨.identityConsent, fun row : IdentityConsent => some row.subjectId⟩,
    ⟨.identityConsent, fun row : IdentityConsent => some row.givenBy⟩]

/-- The foreign keys. -/
def foreignKeys : List (ForeignKey Row) :=
  tenantChildren.map toTenant ++ personColumns.map fun column => toPerson column.1 column.2

/-- A state of the database that satisfies the schema. -/
structure Database where
  tables : Tables Row
  references : ∀ key ∈ foreignKeys, key.Holds tables

end Pdr.Db
