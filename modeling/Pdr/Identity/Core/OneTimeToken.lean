import Pdr.Identity.Core.Person

/-!
# One-time links

One mechanism for an invitation and for a password reset: a secret that lives shortly,
works once and is stored as a fingerprint. An invitation carries a role, a reset carries a
person, and never both.

## Main definitions

* `Pdr.Identity.OneTimeToken`, made by `OneTimeToken.invitation` or
  `OneTimeToken.passwordResetOf`
* `Pdr.Identity.OneTimeToken.used`: the token after it worked.

## Main results

* `Pdr.Identity.OneTimeToken.used_eq_ok`: when a token works and what it becomes.
-/

namespace Pdr.Identity

/-- `TokenId`. -/
abbrev TokenId : Type := StrongId .token

/-- What a token was issued for. -/
inductive TokenPurpose where
  | invitation
  | passwordReset
deriving DecidableEq, Repr

/-- An invitation points at a role and a reset at a person. -/
def pointsAtOneThing (purpose : TokenPurpose) (role : Option Role)
    (person : Option PersonId) : Bool :=
  match purpose with
  | .invitation => role.isSome && person.isNone
  | .passwordReset => role.isNone && person.isSome

theorem points_invitation (role : Role) : pointsAtOneThing .invitation (some role) none = true :=
  rfl

/-- A one-time token. -/
structure OneTimeToken where
  id : TokenId
  tenant : TenantId
  secret : Digest
  purpose : TokenPurpose
  role : Option Role
  person : Option PersonId
  invited : Option Digest
  createdAt : Int
  expiresAt : Int
  usedAt : Option Int
  points : pointsAtOneThing purpose role person = true
deriving DecidableEq, Repr

namespace OneTimeToken

/-- A token that would be over at once. -/
def lifetimeNotPositive : Error :=
  ⟨.validation, "token_lifetime_not_positive",
    "ссылка, просроченная в момент выдачи, — это не ссылка"⟩

/-- `OneTimeToken::Invitation`. -/
def invitation (id : TokenId) (tenant : TenantId) (secret : Digest) (role : Role)
    (invited : Option Digest) (at_ : Int) (lifetime : Int) : Result OneTimeToken :=
  if lifetime ≤ 0 then .error lifetimeNotPositive
  else .ok ⟨id, tenant, secret, .invitation, some role, none, invited, at_, at_ + lifetime,
    none, rfl⟩

/-- `OneTimeToken::PasswordReset`. -/
def passwordResetOf (id : TokenId) (tenant : TenantId) (secret : Digest) (person : PersonId)
    (at_ : Int) (lifetime : Int) : Result OneTimeToken :=
  if lifetime ≤ 0 then .error lifetimeNotPositive
  else .ok ⟨id, tenant, secret, .passwordReset, none, some person, none, at_, at_ + lifetime,
    none, rfl⟩

theorem invitation_eq_ok {id : TokenId} {tenant : TenantId} {secret : Digest} {role : Role}
    {invited : Option Digest} {at_ lifetime : Int} {token : OneTimeToken} :
    invitation id tenant secret role invited at_ lifetime = .ok token ↔
      0 < lifetime ∧ token = ⟨id, tenant, secret, .invitation, some role, none, invited, at_,
        at_ + lifetime, none, rfl⟩ := by
  by_cases hlifetime : lifetime ≤ 0
  · simp [invitation, hlifetime]
  · have hpositive : 0 < lifetime := by omega
    simp [invitation, hlifetime, hpositive, eq_comm]

theorem passwordResetOf_eq_ok {id : TokenId} {tenant : TenantId} {secret : Digest}
    {person : PersonId} {at_ lifetime : Int} {token : OneTimeToken} :
    passwordResetOf id tenant secret person at_ lifetime = .ok token ↔
      0 < lifetime ∧ token = ⟨id, tenant, secret, .passwordReset, none, some person, none, at_,
        at_ + lifetime, none, rfl⟩ := by
  by_cases hlifetime : lifetime ≤ 0
  · simp [passwordResetOf, hlifetime]
  · have hpositive : 0 < lifetime := by omega
    simp [passwordResetOf, hlifetime, hpositive, eq_comm]

/-- `IsUsableAt`. -/
def isUsableAt (token : OneTimeToken) (moment : Int) : Bool :=
  token.usedAt.isNone && moment < token.expiresAt

theorem isUsableAt_eq_true {token : OneTimeToken} {moment : Int} :
    token.isUsableAt moment = true ↔ token.usedAt = none ∧ moment < token.expiresAt := by
  simp [isUsableAt]

theorem isUsableAt_of_le {token : OneTimeToken} {earlier later : Int} (hle : earlier ≤ later)
    (h : token.isUsableAt later = true) : token.isUsableAt earlier = true := by
  obtain ⟨hunused, hterm⟩ := isUsableAt_eq_true.1 h
  exact isUsableAt_eq_true.2 ⟨hunused, by omega⟩

/-- `Used`: work once. The second time is a refusal. -/
def used (token : OneTimeToken) (at_ : Int) : Result OneTimeToken :=
  if token.usedAt.isSome then
    .error ⟨.conflict, "token_already_used", "по этой ссылке уже заходили"⟩
  else if token.expiresAt ≤ at_ then
    .error ⟨.conflict, "token_expired", "срок ссылки вышел"⟩
  else .ok { token with usedAt := some at_ }

/-- A token works exactly when it is usable, and all it changes is the moment of use. -/
theorem used_eq_ok {token token' : OneTimeToken} {at_ : Int} :
    token.used at_ = .ok token' ↔
      token.isUsableAt at_ = true ∧ token' = { token with usedAt := some at_ } := by
  cases husedAt : token.usedAt with
  | some moment => simp [used, isUsableAt, husedAt]
  | none =>
    by_cases hexpired : token.expiresAt ≤ at_
    · simp [used, isUsableAt, husedAt, hexpired]
    · have hlive : at_ < token.expiresAt := by omega
      simp [used, isUsableAt, husedAt, hexpired, hlive, eq_comm]

/-- The role of an invitation. -/
def invitedAs (token : OneTimeToken) (h : token.purpose = .invitation) : Role :=
  token.role.get (by
    have hpoints := token.points
    rw [h] at hpoints
    exact (Bool.and_eq_true_iff.1 hpoints).1)

/-- The person of a reset. -/
def resetFor (token : OneTimeToken) (h : token.purpose = .passwordReset) : PersonId :=
  token.person.get (by
    have hpoints := token.points
    rw [h] at hpoints
    exact (Bool.and_eq_true_iff.1 hpoints).2)

end OneTimeToken

end Pdr.Identity
