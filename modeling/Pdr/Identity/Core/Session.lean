import Pdr.Identity.Core.Secrets

/-!
# Server sessions

A session is a row, so that a revocation works at once. Its identifier carries the tenant
beside the secret; its moment of expiry is fixed when it opens.

## Main definitions

* `Pdr.Identity.SessionId`, `Pdr.Identity.Fingerprint`
* `Pdr.Identity.Session`, made by `Session.open_`
* `Pdr.Identity.Session.isUsableAt`, `Pdr.Identity.Session.revoked`
-/

namespace Pdr.Identity

/-- The secret part of a session. -/
abbrev SessionSecret : Type := StrongId .session

/-- A session's identifier: the tenant and the secret. -/
structure SessionId where
  tenant : TenantId
  secret : SessionSecret
deriving DecidableEq, Repr

/-- The fingerprints of the client's text and of its address. -/
structure Fingerprint where
  agent : Digest
  address : Digest
deriving DecidableEq, Repr

/-- A session of a person. -/
structure Session where
  id : SessionId
  person : PersonId
  createdAt : Int
  expiresAt : Int
  revokedAt : Option Int
  seen : Fingerprint
deriving DecidableEq, Repr

namespace Session

/-- `Session::Open`. -/
def open_ (id : SessionId) (person : PersonId) (at_ : Int) (lifetime : Int)
    (seen : Fingerprint) : Result Session :=
  if lifetime ≤ 0 then
    .error ⟨.validation, "session_lifetime_not_positive",
      "сессия, негодная в момент выдачи, — это не сессия"⟩
  else .ok ⟨id, person, at_, at_ + lifetime, none, seen⟩

/-- `IsUsableAt`: a revoked session never is, an expired one no longer. -/
def isUsableAt (session : Session) (moment : Int) : Bool :=
  session.revokedAt.isNone && moment < session.expiresAt

/-- `Revoked`. Revoking twice keeps the first moment. -/
def revoked (session : Session) (at_ : Int) : Session :=
  if session.revokedAt.isSome then session else { session with revokedAt := some at_ }

@[simp] theorem isSome_revokedAt_revoked (session : Session) (at_ : Int) :
    (session.revoked at_).revokedAt.isSome = true := by
  unfold revoked
  split
  · assumption
  · rfl

@[simp] theorem id_revoked (session : Session) (at_ : Int) :
    (session.revoked at_).id = session.id := by
  unfold revoked
  split <;> rfl

@[simp] theorem person_revoked (session : Session) (at_ : Int) :
    (session.revoked at_).person = session.person := by
  unfold revoked
  split <;> rfl

theorem not_isUsableAt_of_revoked {session : Session} (h : session.revokedAt.isSome = true)
    (moment : Int) : session.isUsableAt moment = false := by
  simp [isUsableAt, Option.isSome_iff_ne_none.1 h]

theorem open_of_pos {id : SessionId} {person : PersonId} {at_ : Int} {lifetime : Int}
    {seen : Fingerprint} (h : 0 < lifetime) :
    open_ id person at_ lifetime seen =
      .ok ⟨id, person, at_, at_ + lifetime, none, seen⟩ := by
  rw [open_, if_neg (by omega)]

end Session

end Pdr.Identity
