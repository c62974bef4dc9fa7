import Pdr.Identity.Application.Attaching
import Pdr.Identity.Application.Onboarding
import Pdr.Identity.Application.SigningIn
import Pdr.StoreProgram.Sequence

/-!
# Scenarios one after another

The scenarios of the identity library as commands of one machine. Each command carries what
it is given from outside: the settings in force, what the clock and the generators answer,
and the request. A sequential run of the application is a run of that machine.

## Main definitions

* `Pdr.Identity.Intent`: what is asked for.
* `Pdr.Identity.Order`: an intent with the settings and the draws of its execution.
* `Pdr.Identity.application`: the machine of the scenarios.
* `Pdr.Identity.OrderTurn`: a turn of a sequential run.
* `Pdr.Identity.workedApplication`: the same with computable cryptography.
-/

namespace Pdr.Identity

open StoreProgram

/-- What is asked of the application. -/
inductive Intent where
  | signIn (request : SignInRequest)
  | signOut (id : SessionId)
  | inviteParticipant (tenant : TenantId) (role : Role) (addressee : Option Email)
  | acceptInvitation (request : AcceptInvitationRequest)
  | openPractice (request : OpenPracticeRequest)
  | requestPasswordReset (tenant : TenantId) (mail : Email)
  | resetPassword (request : ResetPasswordRequest)
  | changePassword (request : ChangePasswordRequest)
  | registerOnMyOwn (mail : Email) (from_ : Digest)
  | confirmEmail (account : PersonId) (shown : TokenSecret)
  | attachAccount (tenant : TenantId) (child : PersonId) (mail : Email)
  | grantGuardianScope (request : GrantGuardianScopeRequest)
  | revokeGuardianScope (request : RevokeGuardianScopeRequest)

/-- What a scenario returns. -/
@[reducible] def Intent.Value : Intent → Type
  | signIn _ | acceptInvitation _ | resetPassword _ | changePassword _ => Session
  | signOut _ | revokeGuardianScope _ => Unit
  | inviteParticipant .. | attachAccount .. => IssuedLink
  | openPractice _ => OpenedPractice
  | requestPasswordReset .. => Option IssuedLink
  | registerOnMyOwn .. => SelfRegistration
  | confirmEmail .. => Account
  | grantGuardianScope _ => GuardianConsent

/-- An intent with what its execution is given from outside. -/
structure Order where
  settings : AuthSettings
  rule : Result MaturityRule
  drawn : Drawn
  intent : Intent

/-- What an order returns. -/
abbrev Order.Value (order : Order) : Type := order.intent.Value

/-- The scenario of an order. -/
def Order.scenario (digests : Digests) (hasher : PasswordHasher) (order : Order) :
    Scenario order.Value :=
  let ports : AuthPorts := ⟨order.settings, digests, hasher⟩
  match order with
  | ⟨_, _, drawn, .signIn request⟩ => signIn ports drawn request
  | ⟨_, _, drawn, .signOut id⟩ => signOut drawn id
  | ⟨_, _, drawn, .inviteParticipant tenant role addressee⟩ =>
    inviteParticipant ports drawn tenant role addressee
  | ⟨_, _, drawn, .acceptInvitation request⟩ => acceptInvitation ports drawn request
  | ⟨_, _, drawn, .openPractice request⟩ => openPractice ports drawn request
  | ⟨_, _, drawn, .requestPasswordReset tenant mail⟩ =>
    requestPasswordReset ports drawn tenant mail
  | ⟨_, _, drawn, .resetPassword request⟩ => resetPassword ports drawn request
  | ⟨_, _, drawn, .changePassword request⟩ => changePassword ports drawn request
  | ⟨_, _, drawn, .registerOnMyOwn mail from_⟩ => registerOnMyOwn ports drawn mail from_
  | ⟨_, _, drawn, .confirmEmail account shown⟩ => confirmEmail ports drawn account shown
  | ⟨_, _, drawn, .attachAccount tenant child mail⟩ => attachAccount ports drawn tenant child mail
  | ⟨_, rule, drawn, .grantGuardianScope request⟩ => grantGuardianScope rule drawn request
  | ⟨_, _, drawn, .revokeGuardianScope request⟩ => revokeGuardianScope drawn request

/-- The scenarios as a machine over the store. -/
def application (digests : Digests) (hasher : PasswordHasher) :
    Machine Order.Value Fault Database :=
  database.whole (Order.scenario digests hasher)

/-- A turn of a sequential run. -/
abbrev OrderTurn : Type := Turn Order.Value Fault Database

/-- An order under the computable settings, at a moment and with draws of one byte. -/
def orderAt (now : Int) (byte : UInt8) (intent : Intent) : Order :=
  ⟨standIn.settings, .ok schoolRule, drawnAt now byte, intent⟩

/-- The application with computable cryptography. -/
abbrev workedApplication : Machine Order.Value Fault Database :=
  application standIn.digests standIn.hasher

end Pdr.Identity
