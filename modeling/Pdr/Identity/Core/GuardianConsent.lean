import Pdr.Core.BitSet
import Pdr.Core.Types

/-!
# Guardianships and consents

A guardianship says that one person answers for another. A consent opens one scope of a
student's affairs to one watcher, on a basis: a guardianship, the word of the student, or
payment. What Grant checks and the schema repeats is part of the value.

## Main definitions

* `Pdr.Identity.GuardianScope`, `Pdr.Identity.ConsentBasis`
* `Pdr.Identity.GuardianConsent`, made by `GuardianConsent.grant`, ended by
  `GuardianConsent.revoked`
* `Pdr.Identity.Guardianship`, made by `Guardianship.grant`, ended by `Guardianship.revoked`

## Main results

* `Pdr.Identity.GuardianConsent.grant_eq_ok`: when a consent is granted and what it is.
-/

namespace Pdr.Identity

/-- What a watcher may see; `boundary` marks the end of the source's list. -/
inductive GuardianScope where
  | schedule
  | payments
  | notesAndHomework
  | recordings
  | boundary
deriving DecidableEq, Repr

instance : Listed GuardianScope where
  bit
    | .schedule => 0
    | .payments => 1
    | .notesAndHomework => 2
    | .recordings => 3
    | .boundary => 4
  bit_injective := by intro a b; cases a <;> cases b <;> decide

/-- `GuardianScopeSet`. -/
abbrev GuardianScopeSet : Type := BitSet GuardianScope

/-- On what a consent rests; `boundary` marks the end of the source's list. -/
inductive ConsentBasis where
  | guardianship
  | namedByStudent
  | paysForLessons
  | boundary
deriving DecidableEq, Repr

/-- `MayCarry`: who pays gets money and only money. -/
def mayCarry (basis : ConsentBasis) (scope : GuardianScope) : Bool :=
  basis ≠ .paysForLessons || scope = .payments

/-- `NamedByTheStudentHimself`. -/
def namedByTheStudentHimself (basis : ConsentBasis) : Bool :=
  basis = .namedByStudent || basis = .paysForLessons

/-- `ConsentId`. -/
abbrev ConsentId : Type := StrongId .consent

/-- A consent of a student's side to show one scope to one watcher. -/
structure GuardianConsent where
  id : ConsentId
  tenant : TenantId
  guardian : PersonId
  student : PersonId
  scope : GuardianScope
  basis : ConsentBasis
  grantedBy : PersonId
  grantedAt : Int
  expiresAt : Option Int
  revokedAt : Option Int
  revokedBy : Option PersonId
  notSelf : guardian ≠ student
  listed : scope ≠ .boundary ∧ basis ≠ .boundary
  carried : mayCarry basis scope = true
  expiresLater : ∀ expires ∈ expiresAt, grantedAt < expires
  revokedLater : ∀ revoked ∈ revokedAt, grantedAt ≤ revoked
  revokedBySomebody : revokedAt.isSome = revokedBy.isSome
deriving DecidableEq

namespace GuardianConsent

theorem neverRevoked : (none : Option Int).isSome = (none : Option PersonId).isSome := rfl

/-- `GuardianConsent::Grant`. -/
def grant (id : ConsentId) (tenant : TenantId) (guardian student : PersonId)
    (scope : GuardianScope) (basis : ConsentBasis) (grantedBy : PersonId) (grantedAt : Int)
    (expiresAt : Option Int) : Result GuardianConsent :=
  if hself : guardian = student then
    .error ⟨.validation, "consent_self_guardianship",
      "ученик не бывает опекуном самому себе"⟩
  else if hscope : scope = .boundary then
    .error ⟨.validation, "consent_scope_unknown", "такого уровня доступа нет"⟩
  else if hbasis : basis = .boundary then
    .error ⟨.validation, "consent_basis_unknown", "такого основания для доступа нет"⟩
  else if hcarry : mayCarry basis scope = true then
    if hexpires : ∀ expires ∈ expiresAt, grantedAt < expires then
      .ok ⟨id, tenant, guardian, student, scope, basis, grantedBy, grantedAt, expiresAt, none,
        none, hself, ⟨hscope, hbasis⟩, hcarry, hexpires, nofun, rfl⟩
    else .error ⟨.validation, "consent_expires_before_granted",
      "согласие, истёкшее в момент выдачи, ничего не открывает"⟩
  else .error ⟨.forbidden, "consent_basis_forbids_scope",
    "плательщик получает деньги и только деньги: смотреть занятия оплата не позволяет"⟩

/-- `GrantedByStudent`. -/
def grantedByStudent (consent : GuardianConsent) : Bool := consent.grantedBy = consent.student

/-- `RestsOnGuardianship`. -/
def restsOnGuardianship (consent : GuardianConsent) : Bool := consent.basis = .guardianship

/-- `IsActiveAt`. -/
def isActiveAt (consent : GuardianConsent) (moment : Int) : Bool :=
  consent.revokedAt.isNone && !consent.expiresAt.any (fun expires => expires ≤ moment) &&
    consent.grantedAt ≤ moment

/-- `Revoked`. -/
def revoked (consent : GuardianConsent) (at_ : Int) (by_ : PersonId) : Result GuardianConsent :=
  if consent.revokedAt.isSome then
    .error ⟨.conflict, "consent_already_revoked", "этот уровень доступа уже отозван"⟩
  else if hbefore : at_ < consent.grantedAt then
    .error ⟨.validation, "consent_revoked_before_granted", "отзыв стоит раньше выдачи"⟩
  else .ok { consent with
    revokedAt := some at_
    revokedBy := some by_
    revokedLater := fun revoked hrevoked => by
      obtain rfl : at_ = revoked := by simpa using hrevoked
      omega
    revokedBySomebody := rfl }

/-- A revoked consent is the same consent, and ends no earlier than it began. -/
theorem revoked_eq_ok {consent later : GuardianConsent} {at_ : Int} {by_ : PersonId}
    (h : consent.revoked at_ by_ = .ok later) :
    later.tenant = consent.tenant ∧ later.id = consent.id ∧
      ∀ revoked ∈ later.revokedAt, consent.grantedAt ≤ revoked := by
  unfold revoked at h
  split at h
  · cases h
  · split at h
    · cases h
    · cases h
      refine ⟨rfl, rfl, fun revoked hrevoked => ?_⟩
      obtain rfl : at_ = revoked := by simpa using hrevoked
      omega

/-- A granted consent carries what was asked and is not revoked. -/
theorem grant_eq_ok {id : ConsentId} {tenant : TenantId} {guardian student : PersonId}
    {scope : GuardianScope} {basis : ConsentBasis} {grantedBy : PersonId} {grantedAt : Int}
    {expiresAt : Option Int} {consent : GuardianConsent}
    (h : grant id tenant guardian student scope basis grantedBy grantedAt expiresAt =
      .ok consent) :
    consent.id = id ∧ consent.tenant = tenant ∧ consent.guardian = guardian ∧
      consent.student = student ∧ consent.scope = scope ∧ consent.basis = basis ∧
      consent.grantedBy = grantedBy ∧ consent.grantedAt = grantedAt ∧
      consent.expiresAt = expiresAt ∧ consent.revokedAt = none := by
  unfold grant at h
  split_ifs at h
  cases h
  exact ⟨rfl, rfl, rfl, rfl, rfl, rfl, rfl, rfl, rfl, rfl⟩

end GuardianConsent

/-- Who answers for whom. -/
structure Guardianship where
  tenant : TenantId
  guardian : PersonId
  student : PersonId
  grantedAt : Int
  revokedAt : Option Int
  notSelf : guardian ≠ student
  revokedLater : ∀ revoked ∈ revokedAt, grantedAt ≤ revoked
deriving DecidableEq, Repr

namespace Guardianship

/-- `Guardianship::Grant`. -/
def grant (tenant : TenantId) (guardian student : PersonId) (grantedAt : Int) :
    Result Guardianship :=
  if hself : guardian = student then
    .error ⟨.validation, "guardianship_self", "ученик не может быть опекуном самому себе"⟩
  else .ok ⟨tenant, guardian, student, grantedAt, none, hself, nofun⟩

/-- `IsActive`. -/
def isActive (guardianship : Guardianship) : Bool := guardianship.revokedAt.isNone

/-- `Revoked`. -/
def revoked (guardianship : Guardianship) (now : Int) : Result Guardianship :=
  if guardianship.revokedAt.isSome then
    .error ⟨.conflict, "guardianship_already_revoked", "опека отозвана раньше"⟩
  else if hbefore : now < guardianship.grantedAt then
    .error ⟨.validation, "guardianship_revoked_before_granted",
      "отзыв не может случиться раньше выдачи"⟩
  else .ok { guardianship with
    revokedAt := some now
    revokedLater := fun revoked hrevoked => by
      obtain rfl : now = revoked := by simpa using hrevoked
      omega }

end Guardianship

end Pdr.Identity
