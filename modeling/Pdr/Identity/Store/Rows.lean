import Pdr.Identity.Core.GuardianConsent
import Pdr.Identity.Core.LoginThrottle
import Pdr.Identity.Core.OneTimeToken
import Pdr.Identity.Core.Practice
import Pdr.Identity.Core.Session
import Pdr.StoreProgram.Table

/-!
# The rows of the identity tables

Each table with its checks and its keys. A row that is a domain value is stored as that
value; the other rows carry the columns some query reads. Every row names its tenant: row
security makes a query see the rows of its own tenant and no others.

Foreign keys are left out: the rows they point at are never deleted by the calls below, and
a scenario names only people it has just enrolled or found.

## Main definitions

* `Pdr.Identity.PersonRow`, `Pdr.Identity.RoleRow`, `Pdr.Identity.CredentialRow`,
  `Pdr.Identity.AttemptRow`, `Pdr.Identity.PracticeRow`, `Pdr.Identity.SignupRow`
* the `StoreProgram.Schema` of each table
-/

namespace Pdr.Identity

open StoreProgram

/-- `identity_one_time_token`: primary key and unique fingerprint within the tenant. -/
instance : Schema OneTimeToken where
  check token := token.createdAt < token.expiresAt && token.usedAt.all (token.createdAt ≤ ·)
  clash a b := a.tenant = b.tenant && (a.id = b.id || a.secret = b.secret)
  clash_symm a b h := by simpa only [eq_comm] using h

/-- `identity_session`: the primary key is the whole identifier. -/
instance : Schema Session where
  check session :=
    session.createdAt < session.expiresAt && session.revokedAt.all (session.createdAt ≤ ·)
  clash a b := a.id = b.id
  clash_symm a b h := by simpa only [eq_comm] using h

/-- `identity_account`: one row for an identifier and one for a mail. -/
instance : Schema Account where
  check account :=
    (account.confirmedAt.isNone || account.confirmation.isNone) &&
      account.confirmation.isNone = account.confirmationExpiresAt.isNone
  clash a b := a.id = b.id || a.mail = b.mail
  clash_symm a b h := by simpa only [eq_comm] using h

/-- A text with something besides spaces. -/
def notBlank (text : Text) : Bool := text.any (· ≠ 32)

/-- A row of `identity_person`. People enrolled before birth dates were asked have none. -/
structure PersonRow where
  tenant : TenantId
  id : PersonId
  displayName : Text
  mail : Option Email
  zone : TimeZone
  bornOn : Option BirthDate
deriving DecidableEq

/-- `identity_person`: one row for an identifier and one for a mail, if there is a mail. -/
instance : Schema PersonRow where
  check person := notBlank person.displayName && notBlank person.zone.name
  clash a b := a.tenant = b.tenant && (a.id = b.id || (a.mail.isSome && a.mail = b.mail))
  clash_symm a b h := by
    simp only [Bool.and_eq_true, Bool.or_eq_true, decide_eq_true_eq] at h ⊢
    obtain ⟨htenant, hid | ⟨hsome, hmail⟩⟩ := h
    · exact ⟨htenant.symm, Or.inl hid.symm⟩
    · exact ⟨htenant.symm, Or.inr ⟨hmail ▸ hsome, hmail.symm⟩⟩

/-- A row of `identity_role_assignment`. -/
structure RoleRow where
  tenant : TenantId
  id : StrongId .roleAssignment
  person : PersonId
  role : Role
  revokedAt : Option Int
deriving DecidableEq

/-- `identity_role_assignment`: one live row for a person and a role. -/
instance : Schema RoleRow where
  check _ := true
  clash a b := a.tenant = b.tenant && (a.id = b.id || (a.person = b.person && a.role = b.role &&
    a.revokedAt.isNone && b.revokedAt.isNone))
  clash_symm a b h := by
    simp only [Bool.and_eq_true, Bool.or_eq_true, decide_eq_true_eq] at h ⊢
    obtain ⟨htenant, hid | ⟨⟨⟨hperson, hrole⟩, ha⟩, hb⟩⟩ := h
    · exact ⟨htenant.symm, Or.inl hid.symm⟩
    · exact ⟨htenant.symm, Or.inr ⟨⟨⟨hperson.symm, hrole.symm⟩, hb⟩, ha⟩⟩

/-- A row of `identity_credential`. -/
structure CredentialRow where
  tenant : TenantId
  person : PersonId
  hash : PasswordHash
deriving DecidableEq

/-- `identity_credential`: one password for a person. -/
instance : Schema CredentialRow where
  check _ := true
  clash a b := a.tenant = b.tenant && a.person = b.person
  clash_symm a b h := by simpa only [eq_comm] using h

/-- A row of `identity_login_attempt`. -/
structure AttemptRow where
  tenant : TenantId
  subject : AttemptSubject
  of : Digest
  window : AttemptWindow
deriving DecidableEq

/-- `identity_login_attempt`: one window for a subject. -/
instance : Schema AttemptRow where
  check row := 0 < row.window.attempts
  clash a b := a.tenant = b.tenant && a.subject = b.subject && a.of = b.of
  clash_symm a b h := by simpa only [eq_comm] using h

/-- Guardianships, one for a pair. The source has the port and no adapter for it; the rows
are kept as the port's stand-in keeps them. -/
instance : Schema Guardianship where
  check _ := true
  clash a b := a.tenant = b.tenant && a.guardian = b.guardian && a.student = b.student
  clash_symm a b h := by simpa only [eq_comm] using h

/-- `identity_guardian_consent`: one live row for a pair and a scope. Its checks are what a
consent is. -/
instance : Schema GuardianConsent where
  check _ := true
  clash a b := a.tenant = b.tenant && (a.id = b.id || (a.guardian = b.guardian &&
    a.student = b.student && a.scope = b.scope && a.revokedAt.isNone && b.revokedAt.isNone))
  clash_symm a b h := by
    simp only [Bool.and_eq_true, Bool.or_eq_true, decide_eq_true_eq] at h ⊢
    obtain ⟨htenant, hid | ⟨⟨⟨⟨hguardian, hstudent⟩, hscope⟩, ha⟩, hb⟩⟩ := h
    · exact ⟨htenant.symm, Or.inl hid.symm⟩
    · exact ⟨htenant.symm, Or.inr ⟨⟨⟨⟨hguardian.symm, hstudent.symm⟩, hscope.symm⟩, hb⟩, ha⟩⟩

/-- A row of `identity_tenant`. -/
structure PracticeRow where
  name : Text
  zone : TimeZone
  practice : Practice
deriving DecidableEq

/-- `identity_tenant`: a refusal has a reason only while it is in force. -/
instance : Schema PracticeRow where
  check row := notBlank row.name && notBlank row.zone.name &&
    (row.practice.refusal.isNone || row.practice.visibility = .refused)
  clash a b := a.practice.tenant = b.practice.tenant
  clash_symm a b h := by simpa only [eq_comm] using h

/-- A row of `identity_signup_attempt`. -/
structure SignupRow where
  address : Digest
  window : AttemptWindow
deriving DecidableEq

/-- `identity_signup_attempt`: one window for an address, whoever comes from it. -/
instance : Schema SignupRow where
  check row := 0 < row.window.attempts
  clash a b := a.address = b.address
  clash_symm a b h := by simpa only [eq_comm] using h

end Pdr.Identity
