import Pdr.Identity.Application.Ports

/-!
# Signing in, staying signed in and changing the password

The scenarios by which a person shows a password or a session.

## Main definitions

* `Pdr.Identity.accountFingerprint`: by what the failures of an account are counted.
* `Pdr.Identity.signIn`, `Pdr.Identity.signOut`
* `Pdr.Identity.authenticateSession`, `Pdr.Identity.changePassword`
-/

namespace Pdr.Identity

open StoreProgram

/-! ### Signing in -/

/-- Who signs in, from where and with which password. -/
structure SignInRequest where
  tenant : TenantId
  mail : Email
  secret : Text
  seen : Fingerprint
  current : Option SessionId

/-- The one answer to whoever is not let in. -/
def signInRefused : Error :=
  ⟨.validation, "sign_in_refused", "почта или пароль не подошли"⟩

/-- Too many failures. -/
def signInThrottled : Error :=
  ⟨.conflict, "sign_in_throttled", "слишком много попыток подряд"⟩

/-- `AccountFingerprint`: the tenant and the mail together. -/
def accountFingerprint (digests : Digests) (tenant : TenantId) (mail : Email) : Digest :=
  digests (tenant.toText ++ ascii "\n" ++ mail.value)

/-- Refuse when the window of a subject is full. -/
def refuseIfBlocked (tenant : TenantId) (limits : ThrottleLimits) (now : Int)
    (subject : AttemptSubject) (of : Digest) : Scenario Unit := do
  let seen ← ask (.attempts (.seen tenant subject of))
  if seen.isBlockedAt now limits.window (limits.limitFor subject) then refuse signInThrottled
  else return ()

/-- Whom the password shown lets in, if the mail is known and the password is his. When the
mail is unknown the source computes a hash and drops it, so that the answer takes as long. -/
def matchedPerson (hasher : PasswordHasher) (given : Result Password)
    (found : Option Credential) : Option PersonId :=
  match given, found with
  | .ok password, some credential =>
    if hasher.matchesHash password credential.hash then some credential.person else none
  | _, _ => none

/-- The session with which somebody came to sign in stops working. -/
def revokeCurrent (current : Option SessionId) (now : Int) : Scenario Unit := do
  match current with
  | none => return ()
  | some id =>
    match ← ask (.sessions (.find id)) with
    | none => return ()
    | some previous => ask (.sessions (.save (previous.revoked now)))

/-- What a sign-in does after the password was checked. -/
def concludeSignIn (lifetimes : AuthLifetimes) (limits : ThrottleLimits) (drawn : Drawn)
    (request : SignInRequest) (account : Digest) (matched : Option PersonId) :
    Scenario Session := do
  let now := drawn.clock 0
  let address := request.seen.address
  match matched with
  | none =>
    let _ ← ask (.attempts (.register request.tenant .account account now limits.window))
    let _ ← ask (.attempts (.register request.tenant .address address now limits.window))
    refuse signInRefused
  | some person =>
    ask (.attempts (.forget request.tenant .account account))
    ask (.attempts (.forget request.tenant .address address))
    revokeCurrent request.current now
    openSession lifetimes drawn request.tenant person now request.seen

/-- `SignIn::Execute`. -/
def signIn (ports : AuthPorts) (drawn : Drawn) (request : SignInRequest) : Scenario Session := do
  let _ ← accept ports.settings.passwords
  let limits ← accept ports.settings.throttle
  let lifetimes ← accept ports.settings.lifetimes
  let now := drawn.clock 0
  let account := accountFingerprint ports.digests request.tenant request.mail
  refuseIfBlocked request.tenant limits now .account account
  refuseIfBlocked request.tenant limits now .address request.seen.address
  let found ← ask (.credentials (.findByEmail request.tenant request.mail))
  concludeSignIn lifetimes limits drawn request account
    (matchedPerson ports.hasher (Password.given request.secret) found)

/-- `SignOut::Execute`: an unknown session is no refusal. -/
def signOut (drawn : Drawn) (id : SessionId) : Scenario Unit :=
  revokeCurrent (some id) (drawn.clock 0)

/-! ### The session shown -/

/-- There is no such session. -/
def sessionUnknown : Error := ⟨.notFound, "session_unknown", "такой сессии нет"⟩

/-- The session was revoked. -/
def sessionRevoked : Error := ⟨.forbidden, "session_revoked", "сессия отозвана"⟩

/-- The session is over. -/
def sessionExpired : Error := ⟨.forbidden, "session_expired", "срок сессии вышел"⟩

/-- `AuthenticateSession::Execute`. -/
def authenticateSession (now : Int) (id : SessionId) : Scenario Session := do
  match ← ask (.sessions (.find id)) with
  | none => refuse sessionUnknown
  | some found =>
    if found.revokedAt.isSome then refuse sessionRevoked
    else if !found.isUsableAt now then refuse sessionExpired
    else return found

/-! ### Changing the password -/

/-- Whose session it is, and the old and the new password. -/
structure ChangePasswordRequest where
  current : SessionId
  oldSecret : Text
  newSecret : Text
  seen : Fingerprint

/-- There is no password to be changed. -/
def passwordNotSet : Error :=
  ⟨.notFound, "password_not_set", "менять нечего: пароль ещё не задан"⟩

/-- The old password is another one. -/
def passwordOldMismatch : Error :=
  ⟨.validation, "password_old_mismatch", "прежний пароль не подошёл"⟩

/-- The hash of the person, if the old password shown fits it. -/
def checkOldPassword (hasher : PasswordHasher) (tenant : TenantId) (person : PersonId)
    (oldSecret : Text) : Scenario Unit := do
  match ← ask (.credentials (.findFor tenant person)) with
  | none => refuse passwordNotSet
  | some stored =>
    let given ← accept (Password.given oldSecret)
    if hasher.matchesHash given stored then return () else refuse passwordOldMismatch

/-- A new hash is saved, every session of the person is revoked, and a new one is opened. -/
def replacePassword (lifetimes : AuthLifetimes) (drawn : Drawn) (tenant : TenantId)
    (person : PersonId) (hash : PasswordHash) (now : Int) (seen : Fingerprint) :
    Scenario Session := do
  ask (.credentials (.save tenant person hash))
  ask (.sessions (.revokeAllFor tenant person now))
  openSession lifetimes drawn tenant person now seen

/-- `ChangePassword::Execute`. The clock is read for the session shown and again for the
change. -/
def changePassword (ports : AuthPorts) (drawn : Drawn) (request : ChangePasswordRequest) :
    Scenario Session := do
  let rules ← accept ports.settings.passwords
  let lifetimes ← accept ports.settings.lifetimes
  let session ← authenticateSession (drawn.clock 0) request.current
  let tenant := session.id.tenant
  let person := session.person
  checkOldPassword ports.hasher tenant person request.oldSecret
  let chosen ← accept (Password.chosen request.newSecret rules)
  let hash ← accept (ports.hasher.hash drawn.salt chosen rules)
  replacePassword lifetimes drawn tenant person hash (drawn.clock 1) request.seen

end Pdr.Identity
