import Pdr.Identity.Application.Ports

/-!
# Invitations, resets and what their links do

The scenarios that issue one-time links and those that a link starts.

## Main definitions

* `Pdr.Identity.inviteParticipant`, `Pdr.Identity.requestPasswordReset`
* `Pdr.Identity.acceptInvitation`, `Pdr.Identity.resetPassword`
* `Pdr.Identity.followLink`: either of the two, by the link that is followed.
-/

namespace Pdr.Identity

open StoreProgram

/-! ### Issuing a link -/

/-- An issued link: the stored token and the secret that is sent. -/
structure IssuedLink where
  token : OneTimeToken
  secret : TokenSecret
deriving DecidableEq

/-- The mail has a live invitation already. -/
def invitationAlreadyLive : Error :=
  ⟨.conflict, "invitation_already_live", "этому человеку уже отправлено приглашение"⟩

/-- Refuse when a live invitation to this mail is there. -/
def refuseIfInvited (tenant : TenantId) (mail : Digest) (now : Int) : Scenario Unit := do
  match ← ask (.tokens (.liveInvitationTo tenant mail now)) with
  | some _ => refuse invitationAlreadyLive
  | none => return ()

/-- `InviteParticipant::Execute`. The clock is read once to look for a live invitation, if
there is a mail, and once more for the token. -/
def inviteParticipant (ports : AuthPorts) (drawn : Drawn) (tenant : TenantId) (role : Role)
    (addressee : Option Email) : Scenario IssuedLink := do
  let lifetimes ← accept ports.settings.lifetimes
  let invited := addressee.map fun mail => ports.digests mail.value
  match invited with
  | some mail => refuseIfInvited tenant mail (drawn.clock 0)
  | none => pure ()
  let secret ← accept (TokenSecret.parse drawn.tokenText)
  let token ← accept (OneTimeToken.invitation drawn.tokenId tenant (ports.digests secret.value)
    role invited (drawn.clock 1) lifetimes.invitation)
  ask (.tokens (.issue token))
  return ⟨token, secret⟩

/-- `RequestPasswordReset::Execute`: an unknown mail is no refusal. -/
def requestPasswordReset (ports : AuthPorts) (drawn : Drawn) (tenant : TenantId)
    (mail : Email) : Scenario (Option IssuedLink) := do
  let lifetimes ← accept ports.settings.lifetimes
  match ← ask (.credentials (.findByEmail tenant mail)) with
  | none => return none
  | some found =>
    let secret ← accept (TokenSecret.parse drawn.tokenText)
    let token ← accept (OneTimeToken.passwordResetOf drawn.tokenId tenant
      (ports.digests secret.value) found.person (drawn.clock 0) lifetimes.passwordReset)
    ask (.tokens (.issue token))
    return some ⟨token, secret⟩

/-! ### Following a link -/

/-- Who follows an invitation, and with which password. -/
structure AcceptInvitationRequest where
  tenant : TenantId
  secret : TokenSecret
  displayName : Text
  mail : Email
  bornOn : BirthDate
  zone : TimeZone
  password : Text
  seen : Fingerprint

/-- No invitation that is alive has this secret. -/
def invitationUnknown : Error :=
  ⟨.notFound, "invitation_unknown", "такого приглашения нет"⟩

/-- The account of a mail, made now if there is none. -/
def accountOf (drawn : Drawn) (mail : Digest) (now : Int) : Scenario Account := do
  match ← ask (.accounts (.findByMail mail)) with
  | some account => return account
  | none =>
    let account := Account.invited drawn.personId mail now
    ask (.accounts (.save account))
    return account

/-- `AcceptInvitation::Execute` after the token was found to be an invitation. -/
def followInvitation (ports : AuthPorts) (drawn : Drawn) (rules : PasswordRules)
    (lifetimes : AuthLifetimes) (request : AcceptInvitationRequest) (found : OneTimeToken)
    (invitation : found.purpose = .invitation) : Scenario Session := do
  let now := drawn.clock 0
  let used ← accept (found.used now)
  let chosen ← accept (Password.chosen request.password rules)
  let hash ← accept (ports.hasher.hash drawn.salt chosen rules)
  let account ← accountOf drawn (ports.digests request.mail.value) now
  let enrolment : Enrolment :=
    ⟨⟨account.id, some request.mail, request.bornOn⟩,
      BitSet.ofList [found.invitedAs invitation], request.displayName, request.zone⟩
  let enrolled ← ask (.directory (.enrol request.tenant enrolment drawn.roleIds))
  accept enrolled
  ask (.tokens (.markUsed used))
  ask (.credentials (.save request.tenant account.id hash))
  openSession lifetimes drawn request.tenant account.id now request.seen

/-- `AcceptInvitation::Execute`. -/
def acceptInvitation (ports : AuthPorts) (drawn : Drawn) (request : AcceptInvitationRequest) :
    Scenario Session := do
  let rules ← accept ports.settings.passwords
  let lifetimes ← accept ports.settings.lifetimes
  match ← ask (.tokens (.find request.tenant (ports.digests request.secret.value))) with
  | none => refuse invitationUnknown
  | some found =>
    if invitation : found.purpose = .invitation then
      followInvitation ports drawn rules lifetimes request found invitation
    else refuse invitationUnknown

/-- Whoever follows a reset letter, and his new password. -/
structure ResetPasswordRequest where
  tenant : TenantId
  secret : TokenSecret
  password : Text
  seen : Fingerprint

/-- No reset letter that is alive has this secret. -/
def passwordResetUnknown : Error :=
  ⟨.notFound, "password_reset_unknown", "такой ссылки нет"⟩

/-- `ResetPassword::Execute` after the token was found to be a reset. -/
def followReset (ports : AuthPorts) (drawn : Drawn) (rules : PasswordRules)
    (lifetimes : AuthLifetimes) (request : ResetPasswordRequest) (found : OneTimeToken)
    (reset : found.purpose = .passwordReset) : Scenario Session := do
  let now := drawn.clock 0
  let used ← accept (found.used now)
  let chosen ← accept (Password.chosen request.password rules)
  let hash ← accept (ports.hasher.hash drawn.salt chosen rules)
  let person := found.resetFor reset
  ask (.tokens (.markUsed used))
  ask (.credentials (.save request.tenant person hash))
  ask (.sessions (.revokeAllFor request.tenant person now))
  openSession lifetimes drawn request.tenant person now request.seen

/-- `ResetPassword::Execute`. -/
def resetPassword (ports : AuthPorts) (drawn : Drawn) (request : ResetPasswordRequest) :
    Scenario Session := do
  let rules ← accept ports.settings.passwords
  let lifetimes ← accept ports.settings.lifetimes
  match ← ask (.tokens (.find request.tenant (ports.digests request.secret.value))) with
  | none => refuse passwordResetUnknown
  | some found =>
    if reset : found.purpose = .passwordReset then
      followReset ports drawn rules lifetimes request found reset
    else refuse passwordResetUnknown

/-- What somebody does who opens a link. -/
inductive LinkRequest where
  | invitation (request : AcceptInvitationRequest)
  | passwordReset (request : ResetPasswordRequest)

namespace LinkRequest

/-- The tenant a link is followed in. -/
def tenant : LinkRequest → TenantId
  | invitation request => request.tenant
  | passwordReset request => request.tenant

/-- The secret that is shown. -/
def secret : LinkRequest → TokenSecret
  | invitation request => request.secret
  | passwordReset request => request.secret

end LinkRequest

/-- The scenario a link starts. -/
def followLink (ports : AuthPorts) (drawn : Drawn) : LinkRequest → Scenario Session
  | .invitation request => acceptInvitation ports drawn request
  | .passwordReset request => resetPassword ports drawn request

end Pdr.Identity
