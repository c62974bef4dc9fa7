import Pdr.Identity.Application.OneTimeLinks

/-!
# Ways in without an invitation

A tutor opens a practice, and somebody who came by himself registers an account and confirms
its mail.

## Main definitions

* `Pdr.Identity.openPractice`
* `Pdr.Identity.registerOnMyOwn`, `Pdr.Identity.confirmEmail`
-/

namespace Pdr.Identity

open StoreProgram

/-! ### Opening a practice -/

/-- Who opens a practice, and what its name and zone are. -/
structure OpenPracticeRequest where
  practiceName : Text
  displayName : Text
  mail : Email
  bornOn : BirthDate
  zone : TimeZone
  password : Text
  seen : Fingerprint

/-- The practice, its owner and the session opened for him. -/
structure OpenedPractice where
  tenant : TenantId
  owner : PersonId
  session : Session
deriving DecidableEq

/-- `OpenPractice::Execute`. -/
def openPractice (ports : AuthPorts) (drawn : Drawn) (request : OpenPracticeRequest) :
    Scenario OpenedPractice := do
  let rules ← accept ports.settings.passwords
  let lifetimes ← accept ports.settings.lifetimes
  let chosen ← accept (Password.chosen request.password rules)
  let hash ← accept (ports.hasher.hash drawn.salt chosen rules)
  let now := drawn.clock 0
  let account ← accountOf drawn (ports.digests request.mail.value) now
  let practice ← accept (Tenant.compose drawn.tenantId request.practiceName)
  let opened ← ask
    (.practices (.open_ practice request.zone (Practice.opened practice.id now)))
  accept opened
  let enrolment : Enrolment :=
    ⟨⟨account.id, some request.mail, request.bornOn⟩, BitSet.ofList [.owner, .tutor],
      request.displayName, request.zone⟩
  let enrolled ← ask (.directory (.enrol practice.id enrolment drawn.roleIds))
  accept enrolled
  ask (.credentials (.save practice.id account.id hash))
  let session ← openSession lifetimes drawn practice.id account.id now request.seen
  return ⟨practice.id, account.id, session⟩

/-! ### Coming by oneself -/

/-- An account made by its owner, and the secret that confirms its mail. -/
structure SelfRegistration where
  account : Account
  confirmation : TokenSecret
deriving DecidableEq

/-- Too many registrations from one address. -/
def signupThrottled : Error :=
  ⟨.conflict, "signup_throttled", "с этого адреса слишком много заведений подряд"⟩

/-- The mail has an account already. -/
def accountAlreadyExists : Error :=
  ⟨.conflict, "account_already_exists", "учётная запись с такой почтой уже есть"⟩

/-- One more registration is counted for the address, unless there were too many. -/
def countSignup (limits : SignupLimits) (now : Int) (from_ : Digest) : Scenario Unit := do
  let seen ← ask (.signups (.window from_))
  if seen.any fun window => window.isBlockedAt now limits.window limits.perAddress then
    refuse signupThrottled
  else
    ask (.signups (.save from_
      ((seen.map fun window => window.registered now limits.window).getD ⟨now, 1⟩)))

/-- `RegisterOnMyOwn::Execute`. The link that confirms the mail lives as long as a link that
resets a password. -/
def registerOnMyOwn (ports : AuthPorts) (drawn : Drawn) (mail : Email) (from_ : Digest) :
    Scenario SelfRegistration := do
  let limits ← accept ports.settings.signups
  let lifetimes ← accept ports.settings.lifetimes
  let now := drawn.clock 0
  countSignup limits now from_
  let digest := ports.digests mail.value
  match ← ask (.accounts (.findByMail digest)) with
  | some _ => refuse accountAlreadyExists
  | none =>
    let secret ← accept (TokenSecret.parse drawn.tokenText)
    let account ← accept (Account.registered drawn.personId digest (ports.digests secret.value)
      now lifetimes.passwordReset)
    ask (.accounts (.save account))
    return ⟨account, secret⟩

/-- The mail has no account. -/
def accountUnknown : Error :=
  ⟨.notFound, "account_unknown", "такой учётной записи нет"⟩

/-- `ConfirmEmail::Execute`. -/
def confirmEmail (ports : AuthPorts) (drawn : Drawn) (account : PersonId)
    (shown : TokenSecret) : Scenario Account := do
  match ← ask (.accounts (.findById account)) with
  | none => refuse accountUnknown
  | some found =>
    let confirmed ← accept (found.confirmedBy (ports.digests shown.value) (drawn.clock 0))
    ask (.accounts (.save confirmed))
    return confirmed

end Pdr.Identity
