import Pdr.Identity.Store.Rows
import Pdr.StoreProgram.Program

/-!
# The identity database and its calls

Each port of the identity library is a list of calls; what a call does is what the query of
its Postgres adapter does. A scenario is a program of these calls. It ends with a value,
with a refusal, or with an exception of a store.

## Main definitions

* `Pdr.Identity.Database`: the tables.
* `Pdr.Identity.Call`: the calls of all ports.
* `Pdr.Identity.database`: what they do.
* `Pdr.Identity.Scenario`: a program over the store.
-/

namespace Pdr.Identity

open StoreProgram

/-- A statement either gives the table it leaves or breaks the schema of the named table. -/
def commit {Row : Type} [Schema Row] (name : String) (table : Table Row)
    (outcome : Option (Table Row)) : Except Fault Unit × Table Row :=
  match outcome with
  | some table' => (.ok (), table')
  | none => (.error (.thrown (.schemaViolation name)), table)

/-! ### One-time tokens -/

/-- The calls of `OneTimeTokens`. -/
inductive TokenCall where
  | issue (token : OneTimeToken)
  | find (tenant : TenantId) (secret : Digest)
  | liveInvitationTo (tenant : TenantId) (invited : Digest) (now : Int)
  | markUsed (token : OneTimeToken)

namespace TokenCall

/-- What each call answers. -/
@[reducible] def Answer : TokenCall → Type
  | issue _ => Unit
  | find .. => Option OneTimeToken
  | liveInvitationTo .. => Option OneTimeToken
  | markUsed _ => Unit

/-- The queries of `PostgresOneTimeTokens`. `markUsed` changes the row only if it is unused,
and does not say whether it did. -/
def exec : (call : TokenCall) → Table OneTimeToken → Except Fault call.Answer × Table OneTimeToken
  | issue token, table => commit "identity_one_time_token" table (table.insert token)
  | find tenant secret, table =>
    (.ok (table.find? fun row => row.tenant = tenant && row.secret = secret), table)
  | liveInvitationTo tenant invited now, table =>
    (.ok (table.find? fun row => row.tenant = tenant && row.purpose = .invitation &&
      row.invited = some invited && row.usedAt.isNone && now < row.expiresAt), table)
  | markUsed token, table => commit "identity_one_time_token" table <|
    table.updateWhere
      (fun row => row.tenant = token.tenant && row.id = token.id && row.usedAt.isNone)
      (fun row => { row with usedAt := token.usedAt })

end TokenCall

/-! ### Accounts -/

/-- The calls of `Accounts`. -/
inductive AccountCall where
  | findByMail (mail : Digest)
  | findById (id : PersonId)
  | save (account : Account)

namespace AccountCall

/-- What each call answers. -/
@[reducible] def Answer : AccountCall → Type
  | findByMail _ => Option Account
  | findById _ => Option Account
  | save _ => Unit

/-- The queries of `PostgresAccounts`. A second save leaves the mail of the row as it is. -/
def exec : (call : AccountCall) → Table Account → Except Fault call.Answer × Table Account
  | findByMail mail, table => (.ok (table.find? (·.mail = mail)), table)
  | findById id, table => (.ok (table.find? (·.id = id)), table)
  | save account, table => commit "identity_account" table <|
    table.upsert (·.id = account.id)
      (fun row => { row with
        confirmedAt := account.confirmedAt
        confirmation := account.confirmation
        confirmationExpiresAt := account.confirmationExpiresAt })
      account

end AccountCall

/-! ### The directory -/

/-- What is written about somebody who is enrolled. -/
structure Enrolment where
  person : Person
  roles : RoleSet
  displayName : Text
  zone : TimeZone

/-- The calls of `ParticipantDirectory`. -/
inductive DirectoryCall where
  | enrol (tenant : TenantId) (enrolment : Enrolment)
      (roleIds : Role → StrongId .roleAssignment)
  | knows (tenant : TenantId) (mail : Email)
  | bornOn (tenant : TenantId) (person : PersonId)
  | rolesOf (tenant : TenantId) (person : PersonId)

namespace DirectoryCall

/-- What each call answers. -/
@[reducible] def Answer : DirectoryCall → Type
  | enrol .. => Result Unit
  | knows .. => Bool
  | bornOn .. => Option BirthDate
  | rolesOf .. => RoleSet

/-- The tenant has a person with this mail. -/
def participantEmailTaken : Error :=
  ⟨.conflict, "participant_email_taken", "эта почта в кабинете уже занята"⟩

/-- The row `kEnrolPerson` writes. -/
def personRow (tenant : TenantId) (enrolment : Enrolment) : PersonRow :=
  ⟨tenant, enrolment.person.id, enrolment.displayName, enrolment.person.mail, enrolment.zone,
    some enrolment.person.bornOn⟩

/-- The loop of `kGrantRole` over the roles of the enrolment. -/
def grantRoles (tenant : TenantId) (enrolment : Enrolment)
    (roleIds : Role → StrongId .roleAssignment) (roles : Table RoleRow) : Option (Table RoleRow) :=
  (everyRole.filter enrolment.roles.has).foldlM
    (fun table role => table.insert ⟨tenant, roleIds role, enrolment.person.id, role, none⟩) roles

/-- The queries of `PostgresParticipantDirectory`, `PostgresBirthDates` and
`PostgresRoleRepository`. The insert of a person tolerates a conflict on the mail and no
other. -/
def exec : (call : DirectoryCall) → Table PersonRow × Table RoleRow →
    Except Fault call.Answer × (Table PersonRow × Table RoleRow)
  | enrol tenant enrolment roleIds, (people, roles) =>
    let row := personRow tenant enrolment
    match people.insertUnless
        (fun other => other.tenant = tenant && row.mail.isSome && other.mail = row.mail) row with
    | none => (.error (.thrown (.schemaViolation "identity_person")), people, roles)
    | some (false, _) => (.ok (.error participantEmailTaken), people, roles)
    | some (true, people') =>
      match grantRoles tenant enrolment roleIds roles with
      | none => (.error (.thrown (.schemaViolation "identity_role_assignment")), people, roles)
      | some roles' => (.ok (.ok ()), people', roles')
  | knows tenant mail, (people, roles) =>
    (.ok (people.rows.any fun row => row.tenant = tenant && row.mail = some mail), people, roles)
  | bornOn tenant person, (people, roles) =>
    (.ok ((people.find? fun row => row.tenant = tenant && row.id = person).bind (·.bornOn)),
      people, roles)
  | rolesOf tenant person, (people, roles) =>
    (.ok (BitSet.ofList ((roles.rows.filter fun row =>
      row.tenant = tenant && row.person = person && row.revokedAt.isNone).map (·.role))),
      people, roles)

end DirectoryCall

/-! ### Credentials -/

/-- A person with the hash of his password. -/
structure Credential where
  person : PersonId
  hash : PasswordHash
deriving DecidableEq

/-- The calls of `CredentialStore`. -/
inductive CredentialCall where
  | findByEmail (tenant : TenantId) (mail : Email)
  | findFor (tenant : TenantId) (person : PersonId)
  | save (tenant : TenantId) (person : PersonId) (hash : PasswordHash)

namespace CredentialCall

/-- What each call answers. -/
@[reducible] def Answer : CredentialCall → Type
  | findByEmail .. => Option Credential
  | findFor .. => Option PasswordHash
  | save .. => Unit

/-- The queries of `PostgresCredentialStore`. The mail is a column of the person's row. -/
def exec : (call : CredentialCall) → Table PersonRow → Table CredentialRow →
    Except Fault call.Answer × Table CredentialRow
  | findByEmail tenant mail, people, table =>
    (.ok ((people.find? fun row => row.tenant = tenant && row.mail = some mail).bind fun person =>
      (table.find? fun row => row.tenant = tenant && row.person = person.id).map fun row =>
        ⟨row.person, row.hash⟩), table)
  | findFor tenant person, _, table =>
    (.ok ((table.find? fun row => row.tenant = tenant && row.person = person).map (·.hash)), table)
  | save tenant person hash, _, table => commit "identity_credential" table <|
    table.upsert (fun row => row.tenant = tenant && row.person = person)
      (fun row => { row with hash }) ⟨tenant, person, hash⟩

end CredentialCall

/-! ### Sessions -/

/-- The calls of `SessionStore`. -/
inductive SessionCall where
  | save (session : Session)
  | find (id : SessionId)
  | revokeAllFor (tenant : TenantId) (person : PersonId) (at_ : Int)

namespace SessionCall

/-- What each call answers. -/
@[reducible] def Answer : SessionCall → Type
  | save _ => Unit
  | find _ => Option Session
  | revokeAllFor .. => Unit

/-- The queries of `PostgresSessionStore`. A second save changes `revokedAt` and nothing else;
`revokeAllFor` reaches the rows that are there. -/
def exec : (call : SessionCall) → Table Session → Except Fault call.Answer × Table Session
  | save session, table => commit "identity_session" table <|
    table.upsert (·.id = session.id) (fun row => { row with revokedAt := session.revokedAt })
      session
  | find id, table => (.ok (table.find? (·.id = id)), table)
  | revokeAllFor tenant person at_, table => commit "identity_session" table <|
    table.updateWhere
      (fun row => row.id.tenant = tenant && row.person = person && row.revokedAt.isNone)
      (fun row => { row with revokedAt := some at_ })

end SessionCall

/-! ### Counted attempts -/

/-- The calls of `LoginAttempts`. -/
inductive AttemptCall where
  | register (tenant : TenantId) (subject : AttemptSubject) (of : Digest) (at_ window : Int)
  | seen (tenant : TenantId) (subject : AttemptSubject) (of : Digest)
  | forget (tenant : TenantId) (subject : AttemptSubject) (of : Digest)

namespace AttemptCall

/-- What each call answers. -/
@[reducible] def Answer : AttemptCall → Type
  | register .. => AttemptWindow
  | seen .. => AttemptWindow
  | forget .. => Unit

/-- The row of a subject. -/
def isOf (tenant : TenantId) (subject : AttemptSubject) (of : Digest) (row : AttemptRow) : Bool :=
  row.tenant = tenant && row.subject = subject && row.of = of

/-- What `Seen` answers: the window of the subject, or an empty one that began at the epoch. -/
def windowOf (tenant : TenantId) (subject : AttemptSubject) (of : Digest)
    (table : Table AttemptRow) : AttemptWindow :=
  ((table.find? (isOf tenant subject of)).map (·.window)).getD ⟨0, 0⟩

/-- The `CASE` of `kRegister`: the rule of `AttemptWindow.registered` written in the query. -/
def countedUp (stored : AttemptWindow) (at_ expired : Int) : AttemptWindow where
  startedAt := if stored.startedAt ≤ expired then at_ else stored.startedAt
  attempts := if stored.startedAt ≤ expired then 1 else stored.attempts + 1

/-- The queries of `PostgresLoginAttempts`. -/
def exec : (call : AttemptCall) → Table AttemptRow → Except Fault call.Answer × Table AttemptRow
  | register tenant subject of at_ window, table =>
    match table.upsert (isOf tenant subject of)
        (fun row => { row with window := countedUp row.window at_ (at_ - window) })
        ⟨tenant, subject, of, ⟨at_, 1⟩⟩ with
    | some table' => (.ok (windowOf tenant subject of table'), table')
    | none => (.error (.thrown (.schemaViolation "identity_login_attempt")), table)
  | seen tenant subject of, table => (.ok (windowOf tenant subject of table), table)
  | forget tenant subject of, table => (.ok (), table.deleteWhere (isOf tenant subject of))

end AttemptCall

/-! ### Practices and those who come by themselves -/

/-- The calls of `Practices`. -/
inductive PracticeCall where
  | open_ (tenant : Tenant) (zone : TimeZone) (practice : Practice)
  | find (tenant : TenantId)

namespace PracticeCall

/-- What each call answers. -/
@[reducible] def Answer : PracticeCall → Type
  | open_ .. => Result Unit
  | find _ => Option Practice

/-- The tenant has a practice. -/
def practiceAlreadyOpen : Error :=
  ⟨.conflict, "practice_already_open", "практика с таким идентификатором уже есть"⟩

/-- The queries of `PostgresPractices`. The insert tolerates the tenant's own row. -/
def exec : (call : PracticeCall) → Table PracticeRow →
    Except Fault call.Answer × Table PracticeRow
  | open_ tenant zone practice, table =>
    match table.insertUnless (fun row => row.practice.tenant = tenant.id)
        ⟨tenant.name, zone, practice⟩ with
    | none => (.error (.thrown (.schemaViolation "identity_tenant")), table)
    | some (false, _) => (.ok (.error practiceAlreadyOpen), table)
    | some (true, table') => (.ok (.ok ()), table')
  | find tenant, table =>
    (.ok ((table.find? fun row => row.practice.tenant = tenant).map (·.practice)), table)

end PracticeCall

/-- The calls of `SignupAttempts`. -/
inductive SignupCall where
  | window (address : Digest)
  | save (address : Digest) (counted : AttemptWindow)

namespace SignupCall

/-- What each call answers. -/
@[reducible] def Answer : SignupCall → Type
  | window _ => Option AttemptWindow
  | save .. => Unit

/-- The queries of `PostgresSignupAttempts`. -/
def exec : (call : SignupCall) → Table SignupRow → Except Fault call.Answer × Table SignupRow
  | window address, table =>
    (.ok ((table.find? (·.address = address)).map (·.window)), table)
  | save address counted, table => commit "identity_signup_attempt" table <|
    table.upsert (·.address = address) (fun row => { row with window := counted })
      ⟨address, counted⟩

end SignupCall

/-! ### Guardianships and consents -/

/-- The calls of `GuardianshipRepository`. -/
inductive GuardianshipCall where
  | findActive (tenant : TenantId) (guardian student : PersonId)
  | guardiansOf (tenant : TenantId) (student : PersonId)
  | save (guardianship : Guardianship)

namespace GuardianshipCall

/-- What each call answers. -/
@[reducible] def Answer : GuardianshipCall → Type
  | findActive .. => Option Guardianship
  | guardiansOf .. => List PersonId
  | save _ => Unit

/-- The row of a pair. -/
def isOf (tenant : TenantId) (guardian student : PersonId) (row : Guardianship) : Bool :=
  row.tenant = tenant && row.guardian = guardian && row.student = student

/-- What the repository does to its table: a pair has one row. -/
def exec : (call : GuardianshipCall) → Table Guardianship →
    Except Fault call.Answer × Table Guardianship
  | findActive tenant guardian student, table =>
    (.ok (table.find? fun row => isOf tenant guardian student row && row.isActive), table)
  | guardiansOf tenant student, table =>
    (.ok ((table.rows.filter fun row =>
      row.tenant = tenant && row.student = student && row.isActive).map (·.guardian)), table)
  | save guardianship, table => commit "identity_guardianship" table <|
    table.upsert (isOf guardianship.tenant guardianship.guardian guardianship.student)
      (fun _ => guardianship) guardianship

end GuardianshipCall

/-- The calls of `GuardianConsents`. -/
inductive ConsentCall where
  | activeFor (tenant : TenantId) (guardian student : PersonId)
  | findActive (tenant : TenantId) (guardian student : PersonId) (scope : GuardianScope)
  | save (consent : GuardianConsent)

namespace ConsentCall

/-- What each call answers. -/
@[reducible] def Answer : ConsentCall → Type
  | activeFor .. => List GuardianConsent
  | findActive .. => Option GuardianConsent
  | save _ => Unit

/-- `kActiveFor`: the rows of the pair that are not revoked. Expiry is not asked about. -/
def activeRows (tenant : TenantId) (guardian student : PersonId)
    (rows : List GuardianConsent) : List GuardianConsent :=
  rows.filter fun row =>
    row.tenant = tenant && row.guardian = guardian && row.student = student && row.revokedAt.isNone

/-- The row to be changed was granted no later than the revocation to be written. -/
def mayTake (consent row : GuardianConsent) : Bool :=
  consent.revokedAt.all (row.grantedAt ≤ ·)

/-- A stored row with the revocation of the value saved. -/
def withRevocationOf (consent row : GuardianConsent) : GuardianConsent :=
  if h : ∀ revoked ∈ consent.revokedAt, row.grantedAt ≤ revoked then
    { row with
      revokedAt := consent.revokedAt
      revokedBy := consent.revokedBy
      revokedLater := h
      revokedBySomebody := consent.revokedBySomebody }
  else row

/-- The queries of `PostgresGuardianConsents`. -/
def exec : (call : ConsentCall) → Table GuardianConsent →
    Except Fault call.Answer × Table GuardianConsent
  | activeFor tenant guardian student, table =>
    (.ok (activeRows tenant guardian student table.rows), table)
  | findActive tenant guardian student scope, table =>
    (.ok ((activeRows tenant guardian student table.rows).find? (·.scope = scope)), table)
  | save consent, table => commit "identity_guardian_consent" table <|
    let isSaved := fun row : GuardianConsent => row.tenant = consent.tenant && row.id = consent.id
    if table.rows.all fun row => !isSaved row || mayTake consent row then
      table.upsert isSaved (withRevocationOf consent) consent
    else none

end ConsentCall

/-! ### The whole store -/

/-- The tables the identity scenarios work on. -/
structure Database where
  tokens : Table OneTimeToken := .empty
  accounts : Table Account := .empty
  people : Table PersonRow := .empty
  roles : Table RoleRow := .empty
  credentials : Table CredentialRow := .empty
  sessions : Table Session := .empty
  attempts : Table AttemptRow := .empty
  guardianships : Table Guardianship := .empty
  consents : Table GuardianConsent := .empty
  practices : Table PracticeRow := .empty
  signups : Table SignupRow := .empty

/-- A call of one of the ports. -/
inductive Call where
  | tokens (call : TokenCall)
  | accounts (call : AccountCall)
  | directory (call : DirectoryCall)
  | credentials (call : CredentialCall)
  | sessions (call : SessionCall)
  | attempts (call : AttemptCall)
  | guardianships (call : GuardianshipCall)
  | consents (call : ConsentCall)
  | practices (call : PracticeCall)
  | signups (call : SignupCall)

/-- What each call answers. -/
@[reducible] def Call.Answer : Call → Type
  | tokens call => call.Answer
  | accounts call => call.Answer
  | directory call => call.Answer
  | credentials call => call.Answer
  | sessions call => call.Answer
  | attempts call => call.Answer
  | guardianships call => call.Answer
  | consents call => call.Answer
  | practices call => call.Answer
  | signups call => call.Answer

/-- What the calls do to the tables. No call waits for another. -/
def database : Machine Call.Answer Fault Database where
  exec call db := match call with
    | .tokens call =>
      let done := call.exec db.tokens
      (done.1, { db with tokens := done.2 })
    | .accounts call =>
      let done := call.exec db.accounts
      (done.1, { db with accounts := done.2 })
    | .directory call =>
      let done := call.exec (db.people, db.roles)
      (done.1, { db with people := done.2.1, roles := done.2.2 })
    | .credentials call =>
      let done := call.exec db.people db.credentials
      (done.1, { db with credentials := done.2 })
    | .sessions call =>
      let done := call.exec db.sessions
      (done.1, { db with sessions := done.2 })
    | .attempts call =>
      let done := call.exec db.attempts
      (done.1, { db with attempts := done.2 })
    | .guardianships call =>
      let done := call.exec db.guardianships
      (done.1, { db with guardianships := done.2 })
    | .consents call =>
      let done := call.exec db.consents
      (done.1, { db with consents := done.2 })
    | .practices call =>
      let done := call.exec db.practices
      (done.1, { db with practices := done.2 })
    | .signups call =>
      let done := call.exec db.signups
      (done.1, { db with signups := done.2 })

section Exec

variable (db : Database)

@[simp] theorem exec_tokens (call : TokenCall) : database.exec (.tokens call) db =
    ((call.exec db.tokens).1, { db with tokens := (call.exec db.tokens).2 }) := rfl

@[simp] theorem exec_accounts (call : AccountCall) : database.exec (.accounts call) db =
    ((call.exec db.accounts).1, { db with accounts := (call.exec db.accounts).2 }) := rfl

@[simp] theorem exec_directory (call : DirectoryCall) : database.exec (.directory call) db =
    ((call.exec (db.people, db.roles)).1,
      { db with
        people := (call.exec (db.people, db.roles)).2.1
        roles := (call.exec (db.people, db.roles)).2.2 }) := rfl

@[simp] theorem exec_credentials (call : CredentialCall) : database.exec (.credentials call) db =
    ((call.exec db.people db.credentials).1,
      { db with credentials := (call.exec db.people db.credentials).2 }) := rfl

@[simp] theorem exec_sessions (call : SessionCall) : database.exec (.sessions call) db =
    ((call.exec db.sessions).1, { db with sessions := (call.exec db.sessions).2 }) := rfl

@[simp] theorem exec_attempts (call : AttemptCall) : database.exec (.attempts call) db =
    ((call.exec db.attempts).1, { db with attempts := (call.exec db.attempts).2 }) := rfl

@[simp] theorem exec_guardianships (call : GuardianshipCall) :
    database.exec (.guardianships call) db =
      ((call.exec db.guardianships).1,
        { db with guardianships := (call.exec db.guardianships).2 }) := rfl

@[simp] theorem exec_consents (call : ConsentCall) : database.exec (.consents call) db =
    ((call.exec db.consents).1, { db with consents := (call.exec db.consents).2 }) := rfl

@[simp] theorem exec_practices (call : PracticeCall) : database.exec (.practices call) db =
    ((call.exec db.practices).1, { db with practices := (call.exec db.practices).2 }) := rfl

@[simp] theorem exec_signups (call : SignupCall) : database.exec (.signups call) db =
    ((call.exec db.signups).1, { db with signups := (call.exec db.signups).2 }) := rfl

end Exec

/-- A scenario: a program of store calls. -/
abbrev Scenario (α : Type) : Type := Program Call.Answer Fault α

/-- Make a call of a port. -/
abbrev ask (call : Call) : Scenario call.Answer := Program.perform call

/-- End a scenario with a refusal. -/
abbrev refuse {α : Type} (error : Error) : Scenario α := Program.raise (.refused error)

/-- Go on with a value, or end the scenario with the refusal. -/
abbrev accept {α : Type} (result : Result α) : Scenario α := Program.ofExcept result.orRefuse

@[simp] theorem accept_ok {α : Type} (value : α) : accept (.ok value) = .done value := rfl

@[simp] theorem accept_error {α : Type} (error : Error) :
    accept (.error error : Result α) = refuse error := rfl

end Pdr.Identity
