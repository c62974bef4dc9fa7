import Pdr.Identity.Core.Age
import Pdr.Identity.Core.Secrets

/-!
# People and their accounts

A person lives inside one tenant; an account is one person on the whole platform and holds
of the mail only its fingerprint.

## Main definitions

* `Pdr.Identity.Role`, `Pdr.Identity.RoleSet`
* `Pdr.Identity.Person`
* `Pdr.Identity.Account`, made by `Account.registered` or `Account.invited`
* `Pdr.Identity.SignupLimits`
-/

namespace Pdr.Identity

/-- What a person is in a tenant. -/
inductive Role where
  | owner
  | tutor
  | student
  | guardian
deriving DecidableEq, Repr

instance : Listed Role where
  bit
    | .owner => 0
    | .tutor => 1
    | .student => 2
    | .guardian => 3
  bit_injective := by intro a b; cases a <;> cases b <;> decide

/-- `kEveryRole`. -/
def everyRole : List Role := [.owner, .tutor, .student, .guardian]

/-- `RoleSet`. -/
abbrev RoleSet : Type := BitSet Role

/-- A person of a tenant. There may be no mail: a child is enrolled without one. -/
structure Person where
  id : PersonId
  mail : Option Email
  bornOn : BirthDate
deriving DecidableEq, Repr

/-- One person on the whole platform. -/
structure Account where
  id : PersonId
  mail : Digest
  confirmedAt : Option Int
  confirmation : Option Digest
  confirmationExpiresAt : Option Int
  createdAt : Int
deriving DecidableEq, Repr

namespace Account

/-- `Account::Registered`: somebody came by himself, the mail is not confirmed yet. -/
def registered (id : PersonId) (mail confirmation : Digest) (at_ : Int)
    (lifetime : Int) : Result Account :=
  if lifetime ≤ 0 then
    .error ⟨.validation, "confirmation_lifetime_not_positive",
      "ссылка подтверждения нулевой длины срабатывает раньше, чем дойдёт"⟩
  else .ok ⟨id, mail, none, some confirmation, some (at_ + lifetime), at_⟩

/-- `Account::Invited`: the letter reached its address, so there is nothing to confirm. -/
def invited (id : PersonId) (mail : Digest) (at_ : Int) : Account :=
  ⟨id, mail, some at_, none, none, at_⟩

/-- `IsConfirmed`. -/
def isConfirmed (account : Account) : Bool := account.confirmedAt.isSome

/-- `ConfirmedBy`: confirm the mail with the secret shown. -/
def confirmedBy (account : Account) (shown : Digest) (at_ : Int) : Result Account :=
  if account.isConfirmed then
    .error ⟨.conflict, "account_already_confirmed", "почта уже подтверждена"⟩
  else if account.confirmation ≠ some shown then
    .error ⟨.notFound, "confirmation_unknown", "такой ссылки подтверждения нет"⟩
  else if account.confirmationExpiresAt.any fun expires => expires ≤ at_ then
    .error ⟨.conflict, "confirmation_expired", "срок ссылки подтверждения вышел"⟩
  else .ok { account with
    confirmedAt := some at_, confirmation := none, confirmationExpiresAt := none }

/-- A secret confirms an account exactly when it is the one awaited and its term has not
passed, and it changes nothing else about the account. -/
theorem confirmedBy_eq_ok {found account : Account} {shown : Digest} {at_ : Int} :
    found.confirmedBy shown at_ = .ok account ↔
      found.confirmedAt = none ∧ found.confirmation = some shown ∧
        (∀ expires ∈ found.confirmationExpiresAt, at_ < expires) ∧
        account = { found with
          confirmedAt := some at_, confirmation := none, confirmationExpiresAt := none } := by
  have hpassed : (found.confirmationExpiresAt.any fun expires => expires ≤ at_) = true ↔
      ¬ ∀ expires ∈ found.confirmationExpiresAt, at_ < expires := by
    simp [Option.any_eq_true]
  cases hconfirmed : found.confirmedAt with
  | some moment => simp [confirmedBy, isConfirmed, hconfirmed]
  | none =>
    by_cases hshown : found.confirmation = some shown
    · by_cases hterm : ∀ expires ∈ found.confirmationExpiresAt, at_ < expires
      · rw [confirmedBy, if_neg (by simp [isConfirmed, hconfirmed]), if_neg (not_not.2 hshown),
          if_neg (mt hpassed.1 (not_not.2 hterm)), Except.ok.injEq, eq_comm]
        exact ⟨fun h => ⟨rfl, hshown, hterm, h⟩, fun h => h.2.2.2⟩
      · refine ⟨fun h => ?_, fun h => absurd h.2.2.1 hterm⟩
        simp [confirmedBy, isConfirmed, hconfirmed, hshown, hpassed.2 hterm] at h
    · simp [confirmedBy, isConfirmed, hconfirmed, hshown]

theorem registered_eq_ok {id : PersonId} {mail confirmation : Digest} {at_ lifetime : Int}
    {account : Account} (h : registered id mail confirmation at_ lifetime = .ok account) :
    account = ⟨id, mail, none, some confirmation, some (at_ + lifetime), at_⟩ := by
  unfold registered at h
  split at h
  · cases h
  · exact (Except.ok.inj h).symm

end Account

/-- How many accounts may come from one address in one window. -/
structure SignupLimits where
  window : Int
  perAddress : UInt32
  lasts : 0 < window
  atLeastOne : perAddress ≠ 0
deriving Repr

/-- `SignupLimits::Compose`. -/
def SignupLimits.compose (window : Int) (perAddress : UInt32) : Result SignupLimits :=
  if hwindow : 0 < window then
    if hleast : perAddress ≠ 0 then .ok ⟨window, perAddress, hwindow, hleast⟩
    else .error ⟨.validation, "signup_limit_too_low",
      "порог в ноль заведений запрещает регистрацию вовсе"⟩
  else .error ⟨.validation, "signup_window_not_positive", "окно нулевой длины не считает ничего"⟩

end Pdr.Identity
